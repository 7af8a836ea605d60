import Mathlib
import Memcache.Proofs.Client.Refusal
import Memcache.Proofs.Fleet.Courses

/-!
# `Memcache.Proofs.Client.Gathering` — what a call gathers from its servers

A call with a `Plan` sets up a task on each server that has a share in it (`Fleet.spawnAll`), waits
until all of them are in `Fleet.ended`, and `Client.conclude` puts the answer together from their
results, in the order in which they ended. Between its begin and its end anything may be done with
the fleet, by this call and by others: that is a script. Whatever the script is, what the call
gathers is a `Response` for each share, and it is what that share's own task reports.

## Contents

* `Fleet.Done`, `Fleet.collect_of_done` — results are collected once, in any order;
* `World.asked`, `World.started`, `World.answer?` — a call that has begun, and its answer in the end;
* `World.lookup_started` — the tasks that it has set up;
* `World.Course`, `Gathered`, `World.gathered_of_perm`, `Course.gathered` — **a response for each
  share, from that share's own task**;
* `World.Fared`, `Course.fared` — **how a call fares on a server is what becomes of its command
  there**, and `Course.result_eq` — on nothing else does it depend.
-/

namespace Memcache

namespace Fleet

variable {f f' : Fleet} {tickets : List Ticket}

/-! ## Results -/

/-- The tasks under these tickets have ended, and `Fleet.result?` tells how. -/
def Done (f : Fleet) (tickets : List Ticket) : Prop :=
  ∀ ticket ∈ tickets, (f.result? ticket).isSome = true

instance (f : Fleet) (tickets : List Ticket) : Decidable (f.Done tickets) :=
  inferInstanceAs (Decidable (∀ ticket ∈ tickets, (f.result? ticket).isSome = true))

theorem all_of_done (h : f.Done tickets) :
    (tickets.all fun ticket => (f.result? ticket).isSome) = true :=
  List.all_eq_true.mpr h

/-- **The results of tasks that have ended are collected once each** by `Fleet.collect`, in the
    order in which they ended. -/
theorem collect_of_done (h : f.Booked) (hnodup : tickets.Nodup) (hdone : f.Done tickets) :
    ∃ f' results, f.collect tickets = some (f', results) ∧
      results.Perm (tickets.filterMap fun ticket =>
        (f.result? ticket).map fun result => (ticket, result)) := by
  refine ⟨_, _, if_pos (all_of_done hdone), List.Perm.filterMap _ ?_⟩
  -- no ticket is listed twice on either side, so it is enough that the same are listed
  refine (List.perm_ext_iff_of_nodup (h.nodup.filter _) hnodup).mpr fun ticket => ?_
  rw [List.mem_filter, List.contains_iff_mem, h.ended]
  exact ⟨fun hboth => hboth.2, fun hmem => ⟨hdone ticket hmem, hmem⟩⟩

end Fleet

/-- The tasks that a plan sets up, one of `Purpose.execute` for each of `Plan.shares`. -/
def Plan.tasks (plan : Plan) : List (Endpoint × Purpose) :=
  plan.shares.map fun share => (share.1, .execute share.2)

/-- The tickets of `Plan.tasks`, each with its server. -/
def Plan.table (plan : Plan) (first : Ticket) : Table Ticket Endpoint :=
  (List.range' first plan.shares.length).zip (plan.shares.map Prod.fst)

namespace Plan

variable {plan : Plan} {first : Ticket}

theorem keys_table (plan : Plan) (first : Ticket) :
    (plan.table first).keys = List.range' first plan.shares.length := by
  unfold table Table.keys
  exact List.map_fst_zip (by rw [List.length_range', List.length_map])

theorem nodup_keys_table (plan : Plan) (first : Ticket) : (plan.table first).keys.Nodup := by
  rw [keys_table]
  exact List.nodup_range'

theorem map_snd_table (plan : Plan) (first : Ticket) :
    (plan.table first).map Prod.snd = plan.shares.map Prod.fst := by
  unfold table
  exact List.map_snd_zip (by rw [List.length_range', List.length_map])

/-- Each share has its ticket in `Plan.table`. -/
theorem mem_table {ticket : Ticket} {server : Endpoint} :
    (ticket, server) ∈ plan.table first ↔
      ∃ i command, plan.shares[i]? = some (server, command) ∧ ticket = first + i := by
  unfold table
  rw [List.mem_iff_getElem?]
  refine exists_congr fun i => ?_
  rw [List.getElem?_zip_eq_some, List.getElem?_map, Option.map_eq_some_iff]
  constructor
  · rintro ⟨hticket, share, hshare, rfl⟩
    have hlt : i < plan.shares.length := (List.getElem?_eq_some_iff.mp hshare).1
    rw [List.getElem?_range' hlt, Nat.one_mul] at hticket
    exact ⟨share.2, hshare, (Option.some.inj hticket).symm⟩
  · rintro ⟨command, hshare, rfl⟩
    have hlt : i < plan.shares.length := (List.getElem?_eq_some_iff.mp hshare).1
    refine ⟨?_, _, hshare, rfl⟩
    rw [List.getElem?_range' hlt, Nat.one_mul]

end Plan

/-! ## A call from its begin to its end -/

/-- **What is gathered for the shares of a plan**, whose tasks have the tickets from `first` on:
    each response is what the task of a share reports, and there is one for each share. -/
structure Gathered (f : Fleet) (first : Ticket) (plan : Plan) (responses : List Response) : Prop where
  servers : (responses.map Response.server).Perm (plan.shares.map Prod.fst)
  mem : ∀ response, response ∈ responses ↔ ∃ i command,
    plan.shares[i]? = some (response.server, command) ∧
      f.result? (first + i) = some (.executed response.outcome response.reply)

namespace Sim.World

/-- A world in which a request has just been made by `Call.begin`, and the call. -/
def asked (w : World) (r : Request) : World × Call Unit :=
  Call.begin w { errand := .request r }

/-- The fleet when the tasks of `World.asked` have been set up. -/
def started (w : World) (r : Request) : Fleet :=
  (w.asked r).1.fleet

/-- **The answer to a request** when its fleet has become `f`, if the call ends there. -/
def answer? (w : World) (r : Request) (f : Fleet) : Option (Except ClientError Answer) :=
  match (Call.proceed { (w.asked r).1 with fleet := f } (w.asked r).2).2.outturn? with
  | some (.answered answer) => some answer
  | _ => none

/-- **The course of a call**: in the meantime the fleet has gone through a `script`, and the tasks
    of the call have ended (`Fleet.Done`). -/
structure Course (w : World) (r : Request) (script : Memcache.Script) (f : Fleet) : Prop where
  play : (w.started r).play script = some f
  done : f.Done (w.asked r).2.tickets

/-- What a script makes of a call can be computed. -/
theorem exists_course {w : World} {r : Request} {script : Memcache.Script} {answer : Answer}
    (p : Fleet → Bool)
    (h : ((w.started r).play script).any (fun f => f.Done (w.asked r).2.tickets &&
      ((w.answer? r f).bind Except.toOption = some answer && p f)) = true) :
    ∃ f, w.Course r script f ∧ w.answer? r f = some (.ok answer) ∧ p f = true := by
  obtain ⟨f, hplay, hall⟩ := (Option.any_eq_true _ _).mp h
  obtain ⟨hdone, hrest⟩ := Bool.and_eq_true_iff.mp hall
  obtain ⟨hanswer, hp⟩ := Bool.and_eq_true_iff.mp hrest
  obtain ⟨result, hresult, hpassed⟩ := Option.bind_eq_some_iff.mp (of_decide_eq_true hanswer)
  refine ⟨f, ⟨hplay, of_decide_eq_true hdone⟩, ?_, hp⟩
  cases result with
  | error e => cases hpassed
  | ok value => rw [hresult, Option.some.inj hpassed]

/-- **How a call fared on a server**: what the task that it has set up there reported, `outcome` and
    `reply`, and what the task asked to be `sent` and `heard`. -/
def Fared (w : World) (r : Request) (script : Memcache.Script) (f : Fleet) (server : Endpoint)
    (outcome : Outcome Unit) (reply : Reply) (sent : List (Nat × Bytes)) (heard : Bytes) : Prop :=
  ∃ ticket ∈ (w.asked r).2.tickets, (w.started r).home? ticket = some server ∧
    f.result? ticket = some (.executed outcome reply) ∧
    requests (((w.started r).site server).record ticket ((w.started r).tale server script)).1 = sent ∧
    (((w.started r).site server).record ticket ((w.started r).tale server script)).2 = heard

variable {w : World} {r : Request} {plan : Plan} {f : Fleet} {script : Memcache.Script} {i : Nat}
  {server : Endpoint} {command : Command}

/-- A request with a plan sets up `Plan.tasks`, and waits for them in `Phase.asking`. -/
theorem asked_of_plan (hplan : w.client.plan w.clock w.fleet r = .ok plan) :
    w.started r = (w.fleet.spawnAll plan.tasks).1 ∧ (w.asked r).1.client = w.client ∧
      (w.asked r).2.phase = .asking r plan (plan.table w.fleet.nextTicket) := by
  have hasked : w.asked r =
      Call.ask w (Call.timed w { errand := .request r }) r plan := by
    unfold asked
    rw [Call.begin_request rfl, hplan]
  have htickets := Fleet.tickets_spawnAll w.fleet plan.tasks
  unfold Plan.tasks at htickets
  rw [List.length_map] at htickets
  unfold started
  rw [hasked]
  refine ⟨rfl, rfl, ?_⟩
  unfold Call.ask Plan.table
  dsimp only
  rw [htickets]

/-- The tickets of a call are those of `Plan.table`. -/
theorem tickets_asked (hplan : w.client.plan w.clock w.fleet r = .ok plan) :
    (w.asked r).2.tickets = List.range' w.fleet.nextTicket plan.shares.length := by
  obtain ⟨-, -, hphase⟩ := asked_of_plan hplan
  unfold Call.tickets
  rw [hphase]
  exact plan.keys_table _

theorem mem_tickets (hplan : w.client.plan w.clock w.fleet r = .ok plan)
    (hshare : plan.shares[i]? = some (server, command)) :
    w.fleet.nextTicket + i ∈ (w.asked r).2.tickets := by
  have hlt : i < plan.shares.length := (List.getElem?_eq_some_iff.mp hshare).1
  rw [tickets_asked hplan, List.mem_range'_1]
  exact ⟨Nat.le_add_right .., Nat.add_lt_add_left hlt _⟩

theorem booked_started (h : w.fleet.Booked) (r : Request) : (w.started r).Booked := by
  cases hplan : w.client.plan w.clock w.fleet r with
  | error e =>
      unfold started asked
      rw [Call.begin_request rfl, hplan]
      exact h
  | ok plan =>
      rw [(asked_of_plan hplan).1]
      exact Fleet.booked_spawnAll h _

/-- Each share has its `Job` on the server that it is for. -/
theorem lookup_started (hplan : w.client.plan w.clock w.fleet r = .ok plan)
    (hshare : plan.shares[i]? = some (server, command)) :
    (w.started r).jobs.lookup (w.fleet.nextTicket + i) =
      some (Fleet.newJob (server, .execute command)) := by
  have hlt : i < plan.shares.length := (List.getElem?_eq_some_iff.mp hshare).1
  have htask : plan.tasks[i]? = some (server, .execute command) := by
    rw [Plan.tasks, List.getElem?_map, hshare]
    rfl
  have hlength : plan.tasks.length = plan.shares.length := List.length_map ..
  rw [(asked_of_plan hplan).1, Fleet.lookup_spawnAll, Nat.add_sub_cancel_left, htask, hlength,
    if_pos ⟨Nat.le_add_right .., Nat.add_lt_add_left hlt _⟩]
  rfl

theorem home_started (hplan : w.client.plan w.clock w.fleet r = .ok plan)
    (hshare : plan.shares[i]? = some (server, command)) :
    (w.started r).home? (w.fleet.nextTicket + i) = some server :=
  Fleet.home?_eq_some_iff.mpr ⟨_, lookup_started hplan hshare, rfl⟩

/-- The nodes are the same when the tasks have been set up. -/
theorem nodes_started (hplan : w.client.plan w.clock w.fleet r = .ok plan) :
    (w.started r).nodes = w.fleet.nodes := by
  rw [(asked_of_plan hplan).1]
  exact Fleet.spawnAll_nodes ..

/-- The books of every site are in order (`Site.Orderly`) when the tasks have been set up. -/
theorem orderly_started (h : w.fleet.Reachable) (hplan : w.client.plan w.clock w.fleet r = .ok plan)
    (server : Endpoint) : ((w.started r).site server).Orderly (w.started r).nextTicket := by
  rw [(asked_of_plan hplan).1]
  refine Fleet.orderly_site_spawnAll (h.orderly server) h.booked fun task htask => ?_
  obtain ⟨share, -, rfl⟩ := List.mem_map.mp htask
  rfl

section Play
variable (h : w.fleet.Booked) (hplan : w.client.plan w.clock w.fleet r = .ok plan)
  (hplay : (w.started r).play script = some f)
include h hplan hplay

/-- The task of a share, if it is still there, is on its server and runs its command
    (`Task.Run`). -/
theorem run_of_share (hshare : plan.shares[i]? = some (server, command)) {job : Job}
    (hjob : f.jobs.lookup (w.fleet.nextTicket + i) = some job) :
    job.server = server ∧ Task.Run (w.fleet.nextTicket + i) command job.task :=
  Fleet.run_of_play (booked_started h r) (lookup_started hplan hshare) hplay hjob

/-- A task of a share that has ended reports `TaskResult.executed`. -/
theorem executed_of_share (hshare : plan.shares[i]? = some (server, command))
    {result : TaskResult} (hresult : f.result? (w.fleet.nextTicket + i) = some result) :
    ∃ outcome reply, result = .executed outcome reply := by
  rw [Fleet.result?_eq] at hresult
  obtain ⟨job, hjob, hended⟩ := Option.bind_eq_some_iff.mp hresult
  have hreports := (run_of_share h hplan hplay hshare hjob).2.reports.2
  rw [Task.stage_of_result? hended] at hreports
  cases result with
  | executed outcome reply => exact ⟨outcome, reply, rfl⟩
  | warmed _ => exact nomatch hreports
  | borrowed _ | ran _ _ | probed _ => exact hreports.elim

end Play

/-- The result of a share's task becomes, by `Call.response`, a response of the share's server. -/
theorem response_of_mem_table {first ticket : Ticket} {outcome : Outcome Unit} {reply : Reply}
    (h : (ticket, server) ∈ plan.table first) :
    Call.response (plan.table first) (ticket, .executed outcome reply) =
      some ⟨server, outcome, reply⟩ := by
  have hlookup : (plan.table first).lookup ticket = some server :=
    (Table.lookup_eq_some_iff (plan.nodup_keys_table _)).mpr h
  unfold Call.response
  dsimp only
  rw [hlookup]

/-- **The results of all shares, in any order, make a response for each of them** (`Gathered`). -/
theorem gathered_of_perm {first : Ticket} {results : List (Ticket × TaskResult)}
    (hexecuted : ∀ {i server command}, plan.shares[i]? = some (server, command) →
      ∃ outcome reply, f.result? (first + i) = some (.executed outcome reply))
    (hperm : results.Perm ((plan.table first).keys.filterMap fun ticket =>
      (f.result? ticket).map fun result => (ticket, result))) :
    Gathered f first plan (results.filterMap (Call.response (plan.table first))) := by
  -- ticket by ticket, each result becomes a response of the ticket's server
  have hresponses := hperm.filterMap (Call.response (plan.table first))
  rw [Table.keys, List.filterMap_map, List.filterMap_filterMap] at hresponses
  have heach : ∀ entry ∈ plan.table first, ∃ outcome reply,
      f.result? entry.1 = some (.executed outcome reply) ∧
        (((fun ticket => (f.result? ticket).map fun result => (ticket, result)) ∘ Prod.fst)
          entry).bind (Call.response (plan.table first)) = some ⟨entry.2, outcome, reply⟩ := by
    intro entry hentry
    obtain ⟨i, command, hshare, hticket⟩ := Plan.mem_table.mp hentry
    obtain ⟨outcome, reply, hresult⟩ := hexecuted hshare
    rw [← hticket] at hresult
    refine ⟨outcome, reply, hresult, ?_⟩
    rw [Function.comp_apply, hresult]
    exact response_of_mem_table hentry
  constructor
  · refine (hresponses.map _).trans (List.Perm.of_eq ?_)
    rw [← plan.map_snd_table first, List.map_filterMap, ← List.filterMap_eq_map]
    refine List.filterMap_congr fun entry hentry => ?_
    obtain ⟨outcome, reply, -, hresponse⟩ := heach entry hentry
    rw [hresponse]
    rfl
  · intro response
    rw [hresponses.mem_iff, List.mem_filterMap]
    constructor
    · rintro ⟨entry, hentry, hsome⟩
      obtain ⟨outcome, reply, hresult, hresponse⟩ := heach entry hentry
      obtain ⟨i, command, hshare, hticket⟩ := Plan.mem_table.mp hentry
      obtain rfl := Option.some.inj (hresponse.symm.trans hsome)
      exact ⟨i, command, hshare, hticket ▸ hresult⟩
    · rintro ⟨i, command, hshare, hresult⟩
      have hentry : (first + i, response.server) ∈ plan.table first :=
        Plan.mem_table.mpr ⟨i, command, hshare, rfl⟩
      obtain ⟨outcome, reply, hsame, hresponse⟩ := heach _ hentry
      obtain ⟨rfl, rfl⟩ := TaskResult.executed.inj (Option.some.inj (hresult.symm.trans hsame))
      exact ⟨_, hentry, hresponse⟩

namespace Course

section Plan
variable (h : w.Course r script f) (hbooked : w.fleet.Booked)
  (hplan : w.client.plan w.clock w.fleet r = .ok plan)
include h hbooked hplan

/-- Every share has been executed. -/
theorem executed (hshare : plan.shares[i]? = some (server, command)) :
    ∃ outcome reply, f.result? (w.fleet.nextTicket + i) = some (.executed outcome reply) := by
  obtain ⟨result, hresult⟩ := Option.isSome_iff_exists.mp (h.done _ (mem_tickets hplan hshare))
  obtain ⟨outcome, reply, rfl⟩ := executed_of_share hbooked hplan h.play hshare hresult
  exact ⟨outcome, reply, hresult⟩

/-- **When all its tasks have ended a call has its answer,** put together by `Client.conclude` from
    a response for each share, in some order. -/
theorem gathered : ∃ responses, Gathered f w.fleet.nextTicket plan responses ∧
    w.answer? r f = some (.ok (w.client.conclude r plan responses)) := by
  have hended := Fleet.booked_play (booked_started hbooked r) h.play
  obtain ⟨-, hclient, hphase⟩ := asked_of_plan hplan
  have hdone := h.done
  rw [tickets_asked hplan, ← plan.keys_table] at hdone
  obtain ⟨f', results, hcollect, hperm⟩ :=
    Fleet.collect_of_done hended (plan.nodup_keys_table _) hdone
  refine ⟨_, gathered_of_perm (fun hshare => h.executed hbooked hplan hshare) hperm, ?_⟩
  unfold answer? Call.proceed
  rw [hphase]
  dsimp only
  rw [hcollect]
  show some (Except.ok ((w.asked r).1.client.conclude r plan _)) = _
  rw [hclient]

/-- **What a share reports depends on what happens at its server, and on nothing else**
    (`Fleet.Alike`). -/
theorem result_eq {script' : Memcache.Script} {f' : Fleet} (h' : w.Course r script' f')
    (hshare : plan.shares[i]? = some (server, command))
    (halike : (w.started r).Alike server script script') :
    f.result? (w.fleet.nextTicket + i) = f'.result? (w.fleet.nextTicket + i) := by
  obtain ⟨outcome, reply, hresult⟩ := h.executed hbooked hplan hshare
  obtain ⟨outcome', reply', hresult'⟩ := h'.executed hbooked hplan hshare
  rw [hresult, hresult', Fleet.result_of_alike (booked_started hbooked r)
    (home_started hplan hshare) h.play h'.play halike hresult hresult']

end Plan

/-- **How a call fares on a server is what becomes of its command there** (`Served`). -/
theorem fared (h : w.Course r script f) (hreach : w.fleet.Reachable)
    (hplan : w.client.plan w.clock w.fleet r = .ok plan)
    (hfair : ((w.started r).site server).Fair ((w.started r).tale server script)) {node : Node}
    (hnode : w.fleet.nodes.lookup server = some node)
    (hshare : plan.shares[i]? = some (server, command)) {outcome : Outcome Unit} {reply : Reply}
    (hresult : f.result? (w.fleet.nextTicket + i) = some (.executed outcome reply)) :
    ∃ sent heard, w.Fared r script f server outcome reply sent heard ∧
      Served command sent heard outcome reply := by
  refine ⟨_, _, ⟨_, mem_tickets hplan hshare, home_started hplan hshare, hresult, rfl, rfl⟩, ?_⟩
  rw [Fleet.result?_eq] at hresult
  obtain ⟨job, hjob, hended⟩ := Option.bind_eq_some_iff.mp hresult
  have hthere : (w.started r).nodes.lookup server = some node := by rw [nodes_started hplan, hnode]
  obtain ⟨-, node', -, hcourse⟩ := Fleet.course_of_play (orderly_started hreach hplan server)
    (booked_started hreach.booked r) (lookup_started hplan hshare) hthere h.play hfair hjob
  obtain ⟨outcome', reply', hsame, hserved⟩ := hcourse.served hended
  obtain ⟨rfl, rfl⟩ := TaskResult.executed.inj hsame
  exact hserved

end Course

end Sim.World

end Memcache
