import Mathlib
import Memcache.Proofs.Client.Coherence
import Memcache.Proofs.Client.Flushing
import Memcache.Proofs.Client.Gathering
import Memcache.Proofs.Connection.Figures

/-!
# `Memcache.Proofs.Client.FanOut` — asking all living servers the same

`Request.flush` and `Request.stats` go to every server that is alive when they are made
(`Fleet.working`, `Plan.broadcast`). Each server is asked by a task of its own, and what a task
reports is entered under the name of its server, by `Client.flushOutcomes` or by `Client.figures`.
No server is listed twice, so no entry is written over another, in whatever order the tasks end: a
flush has an entry for each server, and the statistics have one for each server that has told all of
its figures. The entry of a server is told by what happened there, and by nothing that happened to
the others.

## Contents

* `Request.FansOut` — the requests that ask all living servers;
* `Client.flushOutcomes_eq`, `Client.figures_eq` — what is put together from the responses;
* `Served.figures` — what the command for the statistics reports;
* `Tabulated`, `Answer.share?` — the entry of a server;
* `World.fan_out_isolated` — **each server has its own entry, and it is its own**.
-/

namespace Memcache

/-! ## Requests to all living servers -/

/-- The requests that ask all living servers, `Request.flush` and `Request.stats`, and the command
    that each of them is asked. -/
inductive Request.FansOut (clock : WallTime) : Request → Command → Prop where
  | flush {delay : Duration} {n : UInt32} (hwritten : Expiration.encodeAfter clock delay = .ok n) :
    FansOut clock (.flush delay) (.flush n)
  | stats (filter : Option String) : FansOut clock (.stats filter) (.stats filter)

/-- A flush without a delay is never refused for its delay. -/
example (clock : WallTime) : (Request.flush 0).FansOut clock (.flush 0) :=
  .flush rfl

namespace Client

variable {c : Client} {clock : WallTime} {f : Fleet} {r : Request} {command : Command}
  {responses : List Response}

theorem plan_fansOut (hopen : f.disposed = false) (h : r.FansOut clock command) :
    c.plan clock f r = .ok (.broadcast f.working command) := by
  cases h with
  | flush hwritten => exact plan_flush hopen hwritten
  | stats filter =>
      unfold plan
      dsimp only
      rw [hopen, if_neg Bool.false_ne_true]

/-! ## What is put together -/

/-- The outcomes of a flush are `Response.outcome` of the responses. -/
theorem flushOutcomes_eq (h : (responses.map Response.server).Nodup) :
    flushOutcomes responses = responses.map fun response => (response.server, response.outcome) := by
  have hwrite : flushOutcomes responses =
      Table.write (responses.map fun response => (response.server, response.outcome)) [] := by
    rw [Table.write, List.foldl_map]
    rfl
  rw [hwrite, Table.write_of_nodup]
  rwa [List.map_map]

/-- The tables of the statistics are `Reply.stats` of the responses that tell of a success. -/
theorem figures_eq (h : (responses.map Response.server).Nodup) :
    (figures responses).tables = (responses.filter fun response => response.outcome.success).map
      fun response => (response.server, response.reply.stats) := by
  -- what was there before is arbitrary, for the sake of the induction
  have hwrite : ∀ s : Statistics, (responses.foldl (fun s response =>
      if response.outcome.success then s.add response.server response.reply.stats else s) s).tables =
        Table.write ((responses.filter fun response => response.outcome.success).map
          fun response => (response.server, response.reply.stats)) s.tables := by
    clear h
    induction responses with
    | nil => exact fun _ => rfl
    | cons response later ih =>
        intro s
        rw [List.foldl_cons, ih]
        by_cases hsuccess : response.outcome.success = true
        · rw [if_pos hsuccess, List.filter_cons, if_pos hsuccess]
          rfl
        · rw [if_neg hsuccess, List.filter_cons, if_neg hsuccess]
  rw [figures, hwrite, Table.write_of_nodup]
  rw [List.map_map]
  exact h.sublist (List.filter_sublist.map _)

end Client

/-! ## The statistics of one server -/

/-- **What `Command.stats` reports**: a success just if the server has told all its figures
    (`StatAnswer`), and then all of them. -/
theorem Served.figures {filter : Option String} {sent : List (Nat × Bytes)} {heard : Bytes}
    {outcome : Outcome Unit} {reply : Reply}
    (h : Served (.stats filter) sent heard outcome reply) :
    (outcome.success = true ↔ ∃ link base named,
        sent = [(link, (Command.stats filter).encode base)] ∧ StatAnswer base heard named) ∧
      ∀ link base named, sent = [(link, (Command.stats filter).encode base)] →
        StatAnswer base heard named →
          reply.stats = Table.write (named.map Packet.figure) [] := by
  have hwhole : ∀ link base named, sent = [(link, (Command.stats filter).encode base)] →
      StatAnswer base heard named → outcome.success = true ∧
        reply.stats = Table.write (named.map Packet.figure) [] := by
    intro link base named hsent hanswer
    obtain ⟨hended, hisOk, hstats⟩ :=
      (Exchange.scan_stats (x := (Command.stats filter).exchange base) rfl).mpr ⟨named, hanswer, rfl⟩
    obtain ⟨hreply, houtcome⟩ := h.of_scan hsent hended
    rw [← hreply] at hisOk hstats
    refine ⟨?_, hstats⟩
    rw [houtcome, Node.outcome, if_pos hisOk]
    rfl
  refine ⟨⟨fun hsuccess => ?_, ?_⟩, fun link base named hsent hanswer =>
    (hwhole link base named hsent hanswer).2⟩
  · cases h with
    | unsent _ _ hfailed =>
        rw [hfailed] at hsuccess
        cases hsuccess
    | failed _ _ _ _ hfailed =>
        rw [hfailed] at hsuccess
        cases hsuccess
    | answered link base hsent hscan hreply houtcome =>
        rw [houtcome] at hsuccess
        have hisOk := Node.success_outcome hsuccess
        rw [hreply] at hisOk
        obtain ⟨named, hanswer, -⟩ := (Exchange.scan_stats
          (x := (Command.stats filter).exchange base) rfl).mp ⟨hscan, hisOk, rfl⟩
        exact ⟨link, base, named, hsent, hanswer⟩
  · rintro ⟨link, base, named, hsent, hanswer⟩
    exact (hwhole link base named hsent hanswer).1

/-- **How the table of a server comes about.** It is there if the server's command succeeded, and
    that is if the server has told all its figures (`StatAnswer`). Then it has the last value that
    was told under each name. -/
structure Tabulated (filter : Option String) (outcome : Outcome Unit) (sent : List (Nat × Bytes))
    (heard : Bytes) (table? : Option (Table String String)) : Prop where
  isSome_iff : table?.isSome = true ↔ outcome.success = true
  success_iff : outcome.success = true ↔ ∃ link base named,
    sent = [(link, (Command.stats filter).encode base)] ∧ StatAnswer base heard named
  lookup : ∀ table, table? = some table → ∀ link base named,
    sent = [(link, (Command.stats filter).encode base)] → StatAnswer base heard named →
      ∀ name, table.lookup name = Table.lookup name (named.map Packet.figure).reverse

theorem Served.tabulated {filter : Option String} {sent : List (Nat × Bytes)} {heard : Bytes}
    {outcome : Outcome Unit} {reply : Reply}
    (h : Served (.stats filter) sent heard outcome reply) :
    Tabulated filter outcome sent heard (if outcome.success then some reply.stats else none) where
  isSome_iff := by
    cases outcome.success
    · exact iff_of_false Bool.false_ne_true Bool.false_ne_true
    · exact iff_of_true rfl rfl
  success_iff := h.figures.1
  lookup table htable link base named hsent hanswer name := by
    have hsuccess := h.figures.1.mpr ⟨link, base, named, hsent, hanswer⟩
    rw [if_pos hsuccess] at htable
    obtain rfl := Option.some.inj htable
    rw [h.figures.2 link base named hsent hanswer, Table.lookup_write_reverse]
    exact Option.or_none

/-- What an `Answer` has of a server. -/
def Answer.share? (server : Endpoint) : Answer → Option (Outcome Unit ⊕ Table String String)
  | .flushed outcomes => (outcomes.lookup server).map .inl
  | .statistics figures => (figures.tables.lookup server).map .inr
  | _ => none

/-- What an answer is to have of a server whose task has reported `outcome` and `reply`. -/
def Request.share? (r : Request) (outcome : Outcome Unit) (reply : Reply) :
    Option (Outcome Unit ⊕ Table String String) :=
  match r with
  | .stats _ => if outcome.success then some (.inr reply.stats) else none
  | _ => some (.inl outcome)

/-! ## All servers -/

namespace Plan

variable {servers : List Endpoint} {server : Endpoint} {command command' : Command} {i : Nat}

/-- Each server has its own share of a `Plan.broadcast`. -/
theorem getElem?_shares_broadcast :
    (broadcast servers command).shares[i]? = some (server, command') ↔
      servers[i]? = some server ∧ command = command' := by
  unfold shares
  rw [List.getElem?_map, Option.map_eq_some_iff]
  constructor
  · rintro ⟨server, hserver, hsame⟩
    obtain ⟨rfl, rfl⟩ := Prod.mk.inj hsame
    exact ⟨hserver, rfl⟩
  · rintro ⟨hserver, rfl⟩
    exact ⟨server, hserver, rfl⟩

theorem map_fst_shares_broadcast :
    (broadcast servers command).shares.map Prod.fst = servers := by
  unfold shares
  rw [List.map_map, Function.comp_def, List.map_id']

end Plan

theorem Fleet.Booked.nodup_working {f : Fleet} (h : f.Booked) : f.working.Nodup :=
  h.servers.sublist (List.filter_sublist.map _)

namespace Gathered

variable {f : Fleet} {first : Ticket} {servers : List Endpoint} {command : Command}
  {responses : List Response} {server : Endpoint} {i : Nat} {outcome : Outcome Unit} {reply : Reply}

theorem nodup (h : Gathered f first (.broadcast servers command) responses)
    (hservers : servers.Nodup) : (responses.map Response.server).Nodup := by
  refine h.servers.nodup_iff.mpr ?_
  rwa [Plan.map_fst_shares_broadcast]

theorem mem_response (h : Gathered f first (.broadcast servers command) responses)
    (hserver : servers[i]? = some server)
    (hresult : f.result? (first + i) = some (.executed outcome reply)) :
    ⟨server, outcome, reply⟩ ∈ responses :=
  (h.mem _).mpr ⟨i, command, Plan.getElem?_shares_broadcast.mpr ⟨hserver, rfl⟩, hresult⟩

section Broadcast
variable (h : Gathered f first (.broadcast servers command) responses) (hservers : servers.Nodup)
include h hservers

theorem keys_flushOutcomes : (Client.flushOutcomes responses).keys.Perm servers := by
  rw [Client.flushOutcomes_eq (h.nodup hservers), Table.keys, List.map_map]
  exact h.servers.trans (List.Perm.of_eq Plan.map_fst_shares_broadcast)

/-- Nobody else has a table in `Client.figures`. -/
theorem keys_figures : (Client.figures responses).tables.keys ⊆ servers := by
  rw [Client.figures_eq (h.nodup hservers), Table.keys, List.map_map]
  intro server hserver
  obtain ⟨response, hresponse, rfl⟩ := List.mem_map.mp hserver
  obtain ⟨i, command, hshare, -⟩ := (h.mem response).mp (List.mem_filter.mp hresponse).1
  exact List.mem_of_getElem? (Plan.getElem?_shares_broadcast.mp hshare).1

variable (hserver : servers[i]? = some server)
  (hresult : f.result? (first + i) = some (.executed outcome reply))
include hserver hresult

theorem lookup_flushOutcomes : (Client.flushOutcomes responses).lookup server = some outcome := by
  have hnodup := h.nodup hservers
  rw [Client.flushOutcomes_eq hnodup]
  refine (Table.lookup_eq_some_iff ?_).mpr ?_
  · rwa [Table.keys, List.map_map]
  · exact List.mem_map.mpr ⟨_, h.mem_response hserver hresult, rfl⟩

theorem lookup_figures : (Client.figures responses).tables.lookup server =
    if outcome.success then some reply.stats else none := by
  have hnodup := h.nodup hservers
  have hmem := h.mem_response hserver hresult
  have hkeys : (Client.figures responses).tables.keys.Nodup := by
    rw [Client.figures_eq hnodup, Table.keys, List.map_map]
    exact hnodup.sublist (List.filter_sublist.map _)
  rw [Client.figures_eq hnodup] at hkeys ⊢
  split
  · next hsuccess =>
      have hthere : (⟨server, outcome, reply⟩ : Response) ∈
          responses.filter fun response => response.outcome.success :=
        List.mem_filter.mpr ⟨hmem, hsuccess⟩
      exact (Table.lookup_eq_some_iff hkeys).mpr (List.mem_map.mpr ⟨_, hthere, rfl⟩)
  · next hfailed =>
      refine Table.lookup_of_not_mem_keys fun hkey => hfailed ?_
      rw [Table.keys, List.map_map] at hkey
      obtain ⟨response, hresponse, hsame⟩ := List.mem_map.mp hkey
      obtain ⟨hthere, hsuccess⟩ := List.mem_filter.mp hresponse
      obtain rfl := List.inj_on_of_nodup_map hnodup hthere hmem hsame
      exact hsuccess

end Broadcast

section Entry
variable {c : Client} {clock : WallTime} {r : Request}
  (h : Gathered f first (.broadcast servers command) responses) (hasks : r.FansOut clock command)
  (hservers : servers.Nodup)
include h hasks hservers

/-- The entry of a server, `Answer.share?`, is told by what its task has reported. -/
theorem share?_conclude (hserver : servers[i]? = some server)
    (hresult : f.result? (first + i) = some (.executed outcome reply)) :
    (c.conclude r (.broadcast servers command) responses).share? server =
      r.share? outcome reply := by
  cases hasks with
  | flush _ =>
      show ((Client.flushOutcomes responses).lookup server).map Sum.inl = _
      rw [h.lookup_flushOutcomes hservers hserver hresult]
      rfl
  | stats filter =>
      show ((Client.figures responses).tables.lookup server).map Sum.inr = _
      rw [h.lookup_figures hservers hserver hresult]
      unfold Request.share?
      split <;> rfl

theorem share?_conclude_of_not_mem (hserver : server ∉ servers) :
    (c.conclude r (.broadcast servers command) responses).share? server = none := by
  cases hasks with
  | flush _ =>
      show ((Client.flushOutcomes responses).lookup server).map Sum.inl = _
      rw [Table.lookup_of_not_mem_keys fun hkey =>
        hserver ((h.keys_flushOutcomes hservers).mem_iff.mp hkey)]
      rfl
  | stats filter =>
      show ((Client.figures responses).tables.lookup server).map Sum.inr = _
      rw [Table.lookup_of_not_mem_keys fun hkey => hserver (h.keys_figures hservers hkey)]
      rfl

end Entry

end Gathered

namespace Sim.World

variable {w : World} {r : Request} {command : Command} {script : Memcache.Script} {f : Fleet}
  {server : Endpoint}

namespace Course

section FansOut
variable (h : w.Course r script f) (hbooked : w.fleet.Booked) (hopen : w.fleet.disposed = false)
  (hasks : r.FansOut w.clock command)
include h hbooked hopen hasks

/-- Every server in `Fleet.working` has executed the command. -/
theorem exists_executed (hserver : server ∈ w.fleet.working) :
    ∃ i outcome reply, w.fleet.working[i]? = some server ∧
      (Plan.broadcast w.fleet.working command).shares[i]? = some (server, command) ∧
        f.result? (w.fleet.nextTicket + i) = some (.executed outcome reply) := by
  obtain ⟨i, hi⟩ := List.getElem?_of_mem hserver
  have hshare : (Plan.broadcast w.fleet.working command).shares[i]? = some (server, command) :=
    Plan.getElem?_shares_broadcast.mpr ⟨hi, rfl⟩
  obtain ⟨outcome, reply, hresult⟩ := h.executed hbooked (Client.plan_fansOut hopen hasks) hshare
  exact ⟨i, outcome, reply, hi, hshare, hresult⟩

end FansOut

/-- What became of the command on a living server, as `Served` says it. -/
theorem served (h : w.Course r script f) (hreach : w.fleet.Reachable)
    (hopen : w.fleet.disposed = false) (hasks : r.FansOut w.clock command)
    (hfair : ((w.started r).site server).Fair ((w.started r).tale server script))
    (hserver : server ∈ w.fleet.working) :
    ∃ i outcome reply sent heard, w.fleet.working[i]? = some server ∧
      f.result? (w.fleet.nextTicket + i) = some (.executed outcome reply) ∧
        w.Fared r script f server outcome reply sent heard ∧
          Served command sent heard outcome reply := by
  have hbooked := hreach.booked
  obtain ⟨i, outcome, reply, hi, hshare, hresult⟩ :=
    h.exists_executed hbooked hopen hasks hserver
  obtain ⟨node, hnode, -⟩ := (Table.mem_select hbooked.servers).mp hserver
  obtain ⟨sent, heard, hfared, hserved⟩ :=
    h.fared hreach (Client.plan_fansOut hopen hasks) hfair hnode hshare hresult
  exact ⟨i, outcome, reply, sent, heard, hi, hresult, hfared, hserved⟩

end Course

/-- **Each server has its own entry, and it is its own.** A flush has an entry for each server of
    `Fleet.working`, and it is the outcome of that server's command (`World.Fared`). The statistics
    have a table for each of them that has told all its figures, with the last value under each
    name, and for no other (`Tabulated`). And if in two courses of such a call the same happens at a
    server, for as long as both last (`Fleet.Alike`), then they end with the same `Answer.share?`
    for it, whatever happens to the others. -/
theorem fan_out_isolated (hreach : w.fleet.Reachable) (hopen : w.fleet.disposed = false) :
    (∀ delay n, Expiration.encodeAfter w.clock delay = .ok n → ∀ script f,
      w.Course (.flush delay) script f →
      (∀ server ∈ w.fleet.working, ((w.started (.flush delay)).site server).Fair
        ((w.started (.flush delay)).tale server script)) →
      ∃ outcomes, w.answer? (.flush delay) f = some (.ok (.flushed outcomes)) ∧
        outcomes.keys.Perm w.fleet.working ∧
        ∀ server ∈ w.fleet.working, ∃ outcome reply sent heard,
          w.Fared (.flush delay) script f server outcome reply sent heard ∧
            Served (.flush n) sent heard outcome reply ∧
              outcomes.lookup server = some outcome) ∧
    (∀ filter script f, w.Course (.stats filter) script f →
      (∀ server ∈ w.fleet.working, ((w.started (.stats filter)).site server).Fair
        ((w.started (.stats filter)).tale server script)) →
      ∃ figures, w.answer? (.stats filter) f = some (.ok (.statistics figures)) ∧
        figures.tables.keys ⊆ w.fleet.working ∧
        ∀ server ∈ w.fleet.working, ∃ outcome reply sent heard,
          w.Fared (.stats filter) script f server outcome reply sent heard ∧
            Served (.stats filter) sent heard outcome reply ∧
              Tabulated filter outcome sent heard (figures.tables.lookup server)) ∧
    ∀ r command, r.FansOut w.clock command → ∀ server script script' f f',
      w.Course r script f → w.Course r script' f' → (w.started r).Alike server script script' →
        ∃ answer answer', w.answer? r f = some (.ok answer) ∧ w.answer? r f' = some (.ok answer') ∧
          answer.share? server = answer'.share? server := by
  have hbooked := hreach.booked
  have hnodup := hbooked.nodup_working
  refine ⟨?_, ?_, ?_⟩
  · intro delay n hwritten script f hcourse hfair
    have hasks : (Request.flush delay).FansOut w.clock (.flush n) := .flush hwritten
    obtain ⟨responses, hgathered, hanswer⟩ :=
      hcourse.gathered hbooked (Client.plan_fansOut hopen hasks)
    refine ⟨_, hanswer, hgathered.keys_flushOutcomes hnodup, fun server hserver => ?_⟩
    obtain ⟨i, outcome, reply, sent, heard, hi, hresult, hfared, hserved⟩ :=
      hcourse.served hreach hopen hasks (hfair server hserver) hserver
    exact ⟨outcome, reply, sent, heard, hfared, hserved,
      hgathered.lookup_flushOutcomes hnodup hi hresult⟩
  · intro filter script f hcourse hfair
    have hasks : (Request.stats filter).FansOut w.clock (.stats filter) := .stats filter
    obtain ⟨responses, hgathered, hanswer⟩ :=
      hcourse.gathered hbooked (Client.plan_fansOut hopen hasks)
    refine ⟨_, hanswer, hgathered.keys_figures hnodup, fun server hserver => ?_⟩
    obtain ⟨i, outcome, reply, sent, heard, hi, hresult, hfared, hserved⟩ :=
      hcourse.served hreach hopen hasks (hfair server hserver) hserver
    refine ⟨outcome, reply, sent, heard, hfared, hserved, ?_⟩
    rw [hgathered.lookup_figures hnodup hi hresult]
    exact hserved.tabulated
  · intro r command hasks server script script' f f' hcourse hcourse' halike
    have hplan := Client.plan_fansOut (c := w.client) hopen hasks
    obtain ⟨responses, hgathered, hanswer⟩ := hcourse.gathered hbooked hplan
    obtain ⟨responses', hgathered', hanswer'⟩ := hcourse'.gathered hbooked hplan
    refine ⟨_, _, hanswer, hanswer', ?_⟩
    by_cases hserver : server ∈ w.fleet.working
    · obtain ⟨i, outcome, reply, hi, hshare, hresult⟩ :=
        hcourse.exists_executed hbooked hopen hasks hserver
      have hresult' := hresult
      rw [hcourse.result_eq hbooked hplan hcourse' hshare halike] at hresult'
      rw [hgathered.share?_conclude hasks hnodup hi hresult,
        hgathered'.share?_conclude hasks hnodup hi hresult']
    · rw [hgathered.share?_conclude_of_not_mem hasks hnodup hserver,
        hgathered'.share?_conclude_of_not_mem hasks hnodup hserver]

/-- Two servers, and nothing done yet. -/
def pair : World where
  fleet := .ofServers [⟨"a:1"⟩, ⟨"b:2"⟩] {} .failImmediately
  network := {}
  clock := 0

/-- A packet that tells a figure. -/
def statPacket (name value : String) : Packet where
  magic := Magic.response
  opcode := Opcode.stat
  key := Text.encode name
  value := Text.encode value

/-- One figure that is told twice. -/
def twice : Bytes :=
  [statPacket "pid" "1", statPacket "pid" "2", statPacket "" ""].flatMap Packet.encode

/-- The first server tells one figure twice, and the second cannot be reached. -/
def unreached : Memcache.Script :=
  [(0, .step 0 none), (0, .step 1 none), (0, .step 1 (some .refused)),
    (0, .step 0 (some (.connected 1))), (0, .step 0 (some (.octets twice)))]

/-- The first server does the same, and the second breaks off after a figure. -/
def brokenOff : Memcache.Script :=
  [(0, .step 0 none), (0, .step 1 none), (0, .step 1 (some (.connected 2))),
    (0, .step 0 (some (.connected 1))),
    (0, .step 1 (some (.octets (statPacket "pid" "3").encode))), (0, .step 1 (some .reset)),
    (0, .step 0 (some (.octets twice)))]

/-- The first server has the same entry in both courses, the value that it told last; and no figure
    is entered of the second, which did not tell all of them. -/
theorem fan_out_isolated_pair :
    pair.fleet.Reachable ∧ pair.fleet.disposed = false ∧
      ∃ f f' figures figures', pair.Course (.stats none) unreached f ∧
        pair.Course (.stats none) brokenOff f' ∧
        pair.answer? (.stats none) f = some (.ok (.statistics figures)) ∧
        pair.answer? (.stats none) f' = some (.ok (.statistics figures')) ∧
        figures'.tables = [(⟨"a:1"⟩, [("pid", "2")])] ∧
        figures.tables.lookup ⟨"a:1"⟩ = some [("pid", "2")] := by
  have hreach : pair.fleet.Reachable := Fleet.reachable_ofServers ..
  obtain ⟨-, hstats, hisolated⟩ := fan_out_isolated hreach rfl
  obtain ⟨f, hcourse, -⟩ : ∃ f, pair.Course (.stats none) unreached f ∧
      pair.answer? (.stats none) f = some (.ok (.statistics ⟨[(⟨"a:1"⟩, [("pid", "2")])]⟩)) ∧ _ :=
    exists_course (fun _ => true) (by decide +kernel)
  obtain ⟨f', hcourse', htold, -⟩ : ∃ f, pair.Course (.stats none) brokenOff f ∧
      pair.answer? (.stats none) f = some (.ok (.statistics ⟨[(⟨"a:1"⟩, [("pid", "2")])]⟩)) ∧ _ :=
    exists_course (fun _ => true) (by decide +kernel)
  obtain ⟨figures, hanswer, -⟩ := hstats none unreached f hcourse (by decide +kernel)
  obtain ⟨figures', hanswer', -⟩ := hstats none brokenOff f' hcourse' (by decide +kernel)
  obtain ⟨answer, answer', hsame, hsame', hentry⟩ :=
    hisolated (.stats none) (.stats none) (.stats none) ⟨"a:1"⟩ unreached brokenOff f f' hcourse
      hcourse' (.inl (by decide +kernel))
  obtain rfl : answer = .statistics figures := by simpa using hsame.symm.trans hanswer
  obtain rfl : answer' = .statistics figures' := by simpa using hsame'.symm.trans hanswer'
  obtain rfl : figures' = ⟨[(⟨"a:1"⟩, [("pid", "2")])]⟩ := by
    simpa using hanswer'.symm.trans htold
  obtain ⟨table, htable, hlast⟩ := Option.map_eq_some_iff.mp hentry
  refine ⟨hreach, rfl, f, f', figures, _, hcourse, hcourse', hanswer, hanswer', rfl, ?_⟩
  rw [htable, Sum.inr.inj hlast]

end Sim.World

end Memcache
