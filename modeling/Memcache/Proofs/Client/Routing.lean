import Mathlib
import Memcache.Proofs.Batch.Shares
import Memcache.Proofs.Client.Gathering
import Memcache.Proofs.Fleet.Charts
import Memcache.Proofs.Fleet.Dispatch
import Memcache.Proofs.Text.Lossy

/-!
# `Memcache.Proofs.Client.Routing` — one key, one owner, one name

A caller's key is turned into the name that is sent (`Client.wireKey`), and the name tells the
server that owns the key (`Ring.locate`). Each kind of request does so for itself in `Client.plan`,
and then `Command.encode` writes the packets of its own command. Here it is shown of all of them
that nothing is mixed up on the way: what is asked about a key goes to the owner of its name and to
nobody else, and `Packet.key` has the name, octet by octet, wherever a key belongs. So two requests
about a key meet at the same server, under the same name, for as long as the same servers are alive.

## Contents

* `Request.keys` — what a request is about; `Client.Routes`, `Client.routes_of_plan` — the plans of
  such requests, by their keys;
* `World.Addressed`, `World.Sent` — packets that are for a server, and packets that are sent to it;
* `World.Routed`, `World.exists_routed` — **a request about a key reaches its owner under its name**;
* `World.one_owner_one_name` — **and so two of them meet**.
-/

namespace Memcache

/-! ## Packets of a batched read -/

namespace Command

variable {keys : List String} {key : String} {base : UInt32} {p : Packet}

/-- The packets of a `Command.multiGet` name its keys, but for the no-op that closes it. -/
theorem mem_packets_multiGet (h : p ∈ (multiGet keys).packets base) :
    (∃ key ∈ keys, p.key = Text.encode key) ∨ p.opcode = Opcode.noop ∧ p.key = [] := by
  obtain ⟨i, hi, hcarries⟩ := exists_instruction h
  rcases List.mem_append.mp hi with hread | hnoop
  · obtain ⟨key, hkey, rfl⟩ := List.mem_map.mp hread
    exact .inl ⟨key, hkey, hcarries.key⟩
  · rw [List.mem_singleton.mp hnoop] at hcarries
    exact .inr ⟨hcarries.opcode, hcarries.key⟩

theorem exists_packet_multiGet (h : key ∈ keys) (base : UInt32) :
    ∃ p ∈ (multiGet keys).packets base, p.key = Text.encode key := by
  obtain ⟨k, hk⟩ := List.mem_iff_getElem?.mp h
  obtain ⟨p, hp, hcarries⟩ : ∃ p, (quietReads keys base)[k]? = some p ∧ p.Carries _ _ :=
    carries_quietReads hk
  exact ⟨p, List.mem_append_left _ (List.mem_of_getElem? hp), hcarries.key⟩

end Command

/-! ## Requests about keys -/

/-- The caller's keys that a request is about. -/
def Request.keys : Request → List String
  | .get key | .getWithCas key | .store _ key .. | .mutate _ key .. | .concat _ key ..
  | .remove key => [key]
  | .getMany keys | .getManyWithCas keys => keys
  | .flush _ | .stats _ => []

/-- A `Request.store` of a value that `Transcoder.serialize` refuses. -/
def Request.Unstorable (t : Transcoder) : Request → Prop
  | .store _ _ value _ _ => ∃ e, t.serialize value = .error e
  | _ => False

namespace Client

variable {c : Client} {clock : WallTime} {f : Fleet} {r : Request} {plan : Plan}
  {locate : String → Option Endpoint} {server : Endpoint} {command : Command}

/-- **The plans of a request about keys**, told by the names that `Client.wireKey` gives the
    keys. -/
inductive Routes (c : Client) (locate : String → Option Endpoint) (r : Request) : Plan → Prop where
  /-- There is nothing to be stored under the key. -/
  | settled {key wire : String} (answer : Answer) (hkeys : r.keys = [key])
      (hwire : c.wireKey key = .ok wire) (hunstorable : r.Unstorable c.transcoder) :
      Routes c locate r (.settled answer)
  /-- The owner of the key is sent one packet, with the name of the key. -/
  | single {key wire : String} {command : Command} (hkeys : r.keys = [key])
      (hwire : c.wireKey key = .ok wire)
      (hnamed : ∀ base, ∃ p, command.packets base = [p] ∧ p.key = Text.encode wire) :
      Routes c locate r (.single (locate wire) command)
  /-- The names of the keys are shared out, by `Batch.of`. -/
  | batch {table : Table String String} (hmany : r.ReadsMany r.keys)
      (htable : c.callerKeys r.keys [] = .ok table) : Routes c locate r (.batch (.of locate table))

/-- **Every plan of a request about keys is one of `Client.Routes`.** -/
theorem routes_of_plan (h : c.plan clock f r = .ok plan) (hkeys : r.keys ≠ []) :
    c.Routes f.locate r plan := by
  unfold Client.plan at h
  dsimp only at h
  split at h
  · contradiction
  · cases r with
    | get key | getWithCas key | concat mode key data cas | remove key =>
        dsimp only at h
        split at h
        · contradiction
        · next wire hwire =>
            obtain rfl := Except.ok.inj h
            exact .single rfl hwire fun base => ⟨_, rfl, rfl⟩
    | getMany keys | getManyWithCas keys =>
        dsimp only at h
        split at h
        · contradiction
        · split at h
          · contradiction
          · next table htable =>
              obtain rfl := Except.ok.inj h
              exact .batch (by simp [Request.ReadsMany, Request.keys]) htable
    | store mode key value expiration cas =>
        dsimp only at h
        split at h
        · contradiction
        · next wire hwire =>
            split at h
            · contradiction
            · split at h
              · next e hrefused =>
                  obtain rfl := Except.ok.inj h
                  exact .settled _ rfl hwire ⟨e, hrefused⟩
              · obtain rfl := Except.ok.inj h
                exact .single rfl hwire fun base => ⟨_, rfl, rfl⟩
    | mutate mode key initial delta expiration cas =>
        dsimp only at h
        split at h
        · contradiction
        · next wire hwire =>
            split at h
            · contradiction
            · obtain rfl := Except.ok.inj h
              exact .single rfl hwire fun base => ⟨_, rfl, rfl⟩
    | flush _ | stats _ => exact absurd rfl hkeys

/-- When `Fleet.disposed` is set, `Client.plan` plans nothing. -/
theorem open_of_plan (h : c.plan clock f r = .ok plan) : f.disposed = false := by
  by_contra hdisposed
  unfold Client.plan at h
  dsimp only at h
  rw [if_pos (eq_true_of_ne_false hdisposed)] at h
  contradiction

/-- Each name in a share is that of a key of the request, and the share's server owns it. -/
theorem exists_key_of_share {keys names : List String} {wire : String}
    {table : Table String String} (htable : c.callerKeys keys [] = .ok table)
    (hshare : (server, names) ∈ (Batch.of locate table).shares) (hwire : wire ∈ names) :
    ∃ key ∈ keys, c.wireKey key = .ok wire ∧ locate wire = some server := by
  obtain ⟨hkey, howner⟩ := Batch.mem_sendings.mp
    (List.mem_flatMap.mpr ⟨_, hshare, List.mem_map_of_mem hwire⟩)
  rcases ((keys_callerKeys htable).2 wire).mp hkey with ⟨key, hkey, hname⟩ | hnone
  · exact ⟨key, hkey, hname, howner⟩
  · contradiction

/-- The server of a share owns one of `Request.keys`. -/
theorem Routes.exists_key (h : c.Routes locate r plan) (hshare : (server, command) ∈ plan.shares) :
    ∃ key ∈ r.keys, ∃ wire, c.wireKey key = .ok wire ∧ locate wire = some server := by
  cases h with
  | settled => contradiction
  | @single key wire _ hkeys hwire hnamed =>
      obtain ⟨owner, howner, heq⟩ := List.mem_map.mp hshare
      obtain ⟨rfl, -⟩ := Prod.mk.inj heq
      refine ⟨key, ?_, wire, hwire, Option.mem_toList.mp howner⟩
      rw [hkeys]
      exact List.mem_singleton.mpr rfl
  | @batch table hmany htable =>
      obtain ⟨⟨owner, names⟩, hnames, heq⟩ := List.mem_map.mp hshare
      obtain ⟨rfl, -⟩ := Prod.mk.inj heq
      obtain ⟨wire, hwire⟩ := List.exists_mem_of_ne_nil _ (Batch.ne_nil_of_mem_shares hnames)
      obtain ⟨key, hkey, hname, howner⟩ := exists_key_of_share htable hnames hwire
      exact ⟨key, hkey, wire, hname, howner⟩

/-- The owner of a key has a share that names it, unless the request is `Request.Unstorable`. -/
theorem Routes.exists_share (h : c.Routes locate r plan) {key : String} (hkey : key ∈ r.keys) :
    ∃ wire, c.wireKey key = .ok wire ∧ ∀ server, locate wire = some server →
      r.Unstorable c.transcoder ∨ ∃ command, (server, command) ∈ plan.shares ∧
        ∀ base, ∃ p ∈ command.packets base, p.key = Text.encode wire := by
  cases h with
  | @settled key' wire answer hkeys hwire hunstorable =>
      rw [hkeys] at hkey
      obtain rfl := List.mem_singleton.mp hkey
      exact ⟨wire, hwire, fun _ _ => .inl hunstorable⟩
  | @single key' wire command hkeys hwire hnamed =>
      rw [hkeys] at hkey
      obtain rfl := List.mem_singleton.mp hkey
      refine ⟨wire, hwire, fun server howner => .inr ⟨command, ?_, fun base => ?_⟩⟩
      · exact List.mem_map.mpr ⟨server, Option.mem_toList.mpr howner, rfl⟩
      · obtain ⟨p, hpackets, hname⟩ := hnamed base
        exact ⟨p, hpackets ▸ List.mem_singleton.mpr rfl, hname⟩
  | @batch table hmany htable =>
      obtain ⟨haccepts, hkeys⟩ := keys_callerKeys htable
      obtain ⟨wire, hwire⟩ := haccepts key hkey
      refine ⟨wire, hwire, fun server howner => .inr ?_⟩
      have hnamed : wire ∈ table.keys := (hkeys wire).mpr (.inl ⟨key, hkey, hwire⟩)
      obtain ⟨names, hnames, hmem⟩ := Batch.exists_share hnamed howner
      exact ⟨.multiGet names, List.mem_map.mpr ⟨_, hnames, rfl⟩,
        Command.exists_packet_multiGet hmem⟩

end Client

/-! ## Packets on their way -/

namespace Sim.World

/-- A packet of a request **that is for a server**: it has the name of one of `Request.keys`, and
    the server owns this key; or it is the no-op that closes a batched read. -/
inductive Addressed (w : World) (r : Request) (server : Endpoint) (p : Packet) : Prop where
  | named {key wire : String} (hkey : key ∈ r.keys) (hwire : w.client.wireKey key = .ok wire)
      (hname : p.key = Text.encode wire) (howner : w.fleet.locate wire = some server)
  | closing (hmany : r.ReadsMany r.keys) (hopcode : p.opcode = Opcode.noop) (hname : p.key = [])

/-- What a ticket of a call has sent a server in the course of a `script`. -/
def sending (w : World) (r : Request) (script : Memcache.Script) (server : Endpoint)
    (ticket : Ticket) : List (Nat × Bytes) :=
  requests (((w.started r).site server).record ticket ((w.started r).tale server script)).1

/-- **A call has sent a server a packet**: one of its tasks has sent the server its command, and the
    packet is one of `Command.packets`. -/
def Sent (w : World) (r : Request) (script : Memcache.Script) (server : Endpoint) (p : Packet) :
    Prop :=
  ∃ ticket ∈ (w.asked r).2.tickets, ∃ job command link base,
    (w.started r).jobs.lookup ticket = some job ∧ job.task.purpose = .execute command ∧
      (link, command.encode base) ∈ w.sending r script server ticket ∧ p ∈ command.packets base

/-- **A request about a key reaches its owner under its name.** -/
structure Routed (w : World) (r : Request) (script : Memcache.Script) (f : Fleet) (key wire : String) :
    Prop where
  /-- The name is what `KeyTransform.apply` makes of the key. -/
  name : w.client.keys.apply key = .ok wire
  /-- Each task of the call is on a server that owns a key of the request, and stays there. -/
  home : ∀ ticket ∈ (w.asked r).2.tickets, ∃ server, (w.started r).home? ticket = some server ∧
    (∃ key ∈ r.keys, ∃ wire, w.client.wireKey key = .ok wire ∧ w.fleet.locate wire = some server) ∧
      ∀ job, f.jobs.lookup ticket = some job → job.server = server
  /-- The owner of the key has a task that names it, unless there is nothing to be stored. -/
  task : ∀ server, w.fleet.locate wire = some server → r.Unstorable w.client.transcoder ∨
    ∃ ticket ∈ (w.asked r).2.tickets, ∃ command,
      (w.started r).jobs.lookup ticket = some (Fleet.newJob (server, .execute command)) ∧
        ∀ base, ∃ p ∈ command.packets base, p.key = Text.encode wire
  /-- All octets are those of packets that have been sent. -/
  octets : ∀ server, ∀ ticket ∈ (w.asked r).2.tickets,
    ∀ request ∈ w.sending r script server ticket,
      ∃ ps : List Packet, request.2 = ps.flatMap Packet.encode ∧ ∀ p ∈ ps, w.Sent r script server p
  /-- A server is sent what is `World.Addressed` to it. -/
  addressed : ∀ server p, w.Sent r script server p → w.Addressed r server p
  /-- Under its name, a key is asked for at its owner. -/
  owner : ∀ server p, w.Sent r script server p → p.key = Text.encode wire →
    w.fleet.locate wire = some server
  /-- If the request is about this key alone, no packet has another name. -/
  alone : ¬ r.ReadsMany r.keys → ∀ server p, w.Sent r script server p → p.key = Text.encode wire

variable {w : World} {r : Request} {plan : Plan} {f : Fleet} {script : Memcache.Script}
  {server : Endpoint} {command : Command} {ticket : Ticket} {p : Packet}

/-- A share is for its server: its packets are `World.Addressed` to it. -/
theorem addressed_of_share (hroutes : w.client.Routes w.fleet.locate r plan)
    (hshare : (server, command) ∈ plan.shares) {base : UInt32} (hp : p ∈ command.packets base) :
    w.Addressed r server p := by
  cases hroutes with
  | settled => contradiction
  | @single key wire _ hkeys hwire hnamed =>
      obtain ⟨owner, howner, heq⟩ := List.mem_map.mp hshare
      obtain ⟨rfl, rfl⟩ := Prod.mk.inj heq
      obtain ⟨q, hpackets, hname⟩ := hnamed base
      rw [hpackets] at hp
      obtain rfl := List.mem_singleton.mp hp
      have hkey : key ∈ r.keys := hkeys ▸ List.mem_singleton.mpr rfl
      exact .named hkey hwire hname (Option.mem_toList.mp howner)
  | @batch table hmany htable =>
      obtain ⟨⟨owner, names⟩, hnames, heq⟩ := List.mem_map.mp hshare
      obtain ⟨rfl, rfl⟩ := Prod.mk.inj heq
      rcases Command.mem_packets_multiGet hp with ⟨wire, hwire, hname⟩ | ⟨hopcode, hname⟩
      · obtain ⟨key, hkey, hsent, howner⟩ := Client.exists_key_of_share htable hnames hwire
        exact .named hkey hsent hname howner
      · exact .closing hmany hopcode hname

/-- Each ticket of a call is that of a share in `Plan.shares`. -/
theorem exists_share_of_ticket (hplan : w.client.plan w.clock w.fleet r = .ok plan)
    (hticket : ticket ∈ (w.asked r).2.tickets) :
    ∃ server command, (server, command) ∈ plan.shares ∧
      (w.started r).jobs.lookup ticket = some (Fleet.newJob (server, .execute command)) := by
  rw [tickets_asked hplan] at hticket
  obtain ⟨i, hlt, rfl⟩ := List.mem_range'.mp hticket
  rw [Nat.one_mul]
  exact ⟨_, _, List.getElem_mem hlt, lookup_started hplan (List.getElem?_eq_getElem hlt)⟩

section Play
variable (h : w.fleet.Booked) (hplan : w.client.plan w.clock w.fleet r = .ok plan)
  (hplay : (w.started r).play script = some f)
include h hplan hplay

/-- What is sent is sent by a share, to its server. -/
theorem Sent.exists_share (hsent : w.Sent r script server p) :
    ∃ command base, (server, command) ∈ plan.shares ∧ p ∈ command.packets base := by
  obtain ⟨ticket, hticket, job, command, link, base, hjob, hpurpose, hmem, hp⟩ := hsent
  obtain ⟨home, command', hshare, hnew⟩ := exists_share_of_ticket hplan hticket
  obtain rfl := Option.some.inj (hjob.symm.trans hnew)
  obtain rfl := Purpose.execute.inj hpurpose
  obtain ⟨rfl, -⟩ := Fleet.sent_of_play (booked_started h r) hnew hplay hmem
  exact ⟨command', base, hshare, hp⟩

/-- Only a living server is sent anything, as long as none dies or comes back (`Fleet.Steady`). -/
theorem Sent.alive (hsteady : (w.started r).Steady script) (hsent : w.Sent r script server p) :
    w.fleet.isAlive? server = some true := by
  obtain ⟨ticket, hticket, job, command, link, base, -, -, hmem, -⟩ := hsent
  obtain ⟨home, command', -, hnew⟩ := exists_share_of_ticket hplan hticket
  obtain ⟨rfl, -⟩ := Fleet.sent_of_play (booked_started h r) hnew hplay hmem
  have halive := Fleet.alive_of_sent (booked_started h r) hnew hplay hsteady hmem
  unfold Fleet.isAlive? at halive ⊢
  rwa [nodes_started hplan] at halive

/-- **Whatever a call about a key sends goes the right way** (`World.Routed`). -/
theorem exists_routed {key : String} (hkey : key ∈ r.keys) : ∃ wire, w.Routed r script f key wire := by
  have hroutes : w.client.Routes w.fleet.locate r plan :=
    Client.routes_of_plan hplan (List.ne_nil_of_mem hkey)
  obtain ⟨wire, hwire, htask⟩ := hroutes.exists_share hkey
  obtain ⟨hname, hvalid⟩ := Client.wireKey_eq_ok hwire
  have haddressed : ∀ server p, w.Sent r script server p → w.Addressed r server p := by
    intro server p hsent
    obtain ⟨command, base, hshare, hp⟩ := hsent.exists_share h hplan hplay
    exact addressed_of_share hroutes hshare hp
  refine ⟨wire, hname, ?_, ?_, ?_, haddressed, ?_, ?_⟩
  · intro ticket hticket
    obtain ⟨server, command, hshare, hnew⟩ := exists_share_of_ticket hplan hticket
    refine ⟨server, Fleet.home?_eq_some_iff.mpr ⟨_, hnew, rfl⟩, hroutes.exists_key hshare, ?_⟩
    exact fun job hjob => (Fleet.run_of_play (booked_started h r) hnew hplay hjob).1
  · intro server howner
    rcases htask server howner with hunstorable | ⟨command, hshare, hnamed⟩
    · exact .inl hunstorable
    · obtain ⟨i, hi⟩ := List.getElem?_of_mem hshare
      exact .inr ⟨_, mem_tickets hplan hi, command, lookup_started hplan hi, hnamed⟩
  · rintro server ticket hticket ⟨link, octets⟩ hmem
    obtain ⟨home, command, hshare, hnew⟩ := exists_share_of_ticket hplan hticket
    obtain ⟨-, base, rfl⟩ := Fleet.sent_of_play (booked_started h r) hnew hplay hmem
    exact ⟨command.packets base, rfl, fun p hp =>
      ⟨ticket, hticket, _, command, link, base, hnew, rfl, hmem, hp⟩⟩
  · intro server p hsent hpacket
    cases haddressed server p hsent with
    | @named key' wire' _ _ hname' howner =>
        rwa [Text.encode_injective (hpacket.symm.trans hname')]
    | closing _ _ hnameless => exact absurd (hpacket.symm.trans hnameless) (Key.encode_ne_nil_of_validate hvalid)
  · intro hone server p hsent
    cases haddressed server p hsent with
    | @named key' wire' hkey' hwire' hname' _ =>
        -- it is about one key, and so this is the key
        have hkeys : r.keys = [key] := by
          cases hroutes with
          | settled _ hkeys _ _ | single hkeys _ _ =>
              rw [hkeys] at hkey ⊢
              rw [List.mem_singleton.mp hkey]
          | batch hmany _ => exact absurd hmany hone
        rw [hkeys] at hkey'
        rw [List.mem_singleton.mp hkey', hwire] at hwire'
        rw [hname', Except.ok.inj hwire']
    | closing hmany _ _ => exact absurd hmany hone

end Play

/-- **One key, one owner, one name.** Let a request about a key be made, and anything happen in the
    meantime. Whatever the call sends goes to the owners of its keys, under their names
    (`World.Routed`). And if, before or after, another request about the key is made while the same
    servers are alive (`Fleet.isAlive?`, `Fleet.Steady`), then what the two send under the name of
    the key goes to the same server. -/
theorem one_owner_one_name (harisen : w.fleet.Arisen)
    (hplan : w.client.plan w.clock w.fleet r = .ok plan)
    (hplay : (w.started r).play script = some f) {key : String} (hkey : key ∈ r.keys) :
    ∃ wire, w.Routed r script f key wire ∧
      ∀ (w' : World) (r' : Request) (plan' : Plan) (script' : Memcache.Script) (f' : Fleet),
        w'.client = w.client → w'.fleet.Arisen →
        w'.client.plan w'.clock w'.fleet r' = .ok plan' →
        (w'.started r').play script' = some f' → key ∈ r'.keys →
          w'.Routed r' script' f' key wire ∧
            ((∀ server, w.fleet.isAlive? server = some true ↔
                w'.fleet.isAlive? server = some true) →
              (w.started r).Steady script → (w'.started r').Steady script' →
                ∀ server server' p p', w.Sent r script server p → w'.Sent r' script' server' p' →
                  p.key = Text.encode wire → p'.key = Text.encode wire → server = server') := by
  obtain ⟨wire, hrouted⟩ := exists_routed harisen.booked hplan hplay hkey
  refine ⟨wire, hrouted, ?_⟩
  intro w' r' plan' script' f' hclient harisen' hplan' hplay' hkey'
  obtain ⟨wire', hrouted'⟩ := exists_routed harisen'.booked hplan' hplay' hkey'
  -- the key has one name
  have hname := hrouted'.name
  rw [hclient, hrouted.name] at hname
  obtain rfl := Except.ok.inj hname
  refine ⟨hrouted', ?_⟩
  intro hliving hsteady hsteady' server server' p p' hsent hsent' hp hp'
  exact harisen.owner_unique harisen' (Client.open_of_plan hplan) (Client.open_of_plan hplan')
    hliving (hrouted.owner server p hsent hp) (hrouted'.owner server' p' hsent' hp')
    (hsent.alive harisen.booked hplan hplay hsteady)
    (hsent'.alive harisen'.booked hplan' hplay' hsteady')

/-- A client of two servers, and nothing done yet. -/
def named : World where
  client := { keys := .namespaced "ns:" }
  fleet := .ofServers [⟨"a:1"⟩, ⟨"b:2"⟩] {} .failImmediately
  network := {}
  clock := 0

/-- The client when it has been started: its ring has been built anew. -/
def launched : World :=
  { named with fleet := named.fleet.launch.1.settled 0 }

/-- A value is stored under a key. -/
def keep : Request :=
  .store .set "k" (.text "v") .never 0

/-- The first turns of a command's task: it gets a connection, and sends its command. -/
def reach (ticket : Ticket) : Memcache.Script :=
  [(0, .step ticket none), (0, .step ticket (some (.connected 1)))]

/-- One of the two servers of `named` owns the key. -/
theorem exists_owner {f : Fleet} (h : f.ring = .ofEndpoints [⟨"a:1"⟩, ⟨"b:2"⟩]) :
    ∃ server, (server = ⟨"a:1"⟩ ∨ server = ⟨"b:2"⟩) ∧ f.locate "ns:k" = some server := by
  unfold Fleet.locate
  rw [h]
  cases howner : (Ring.ofEndpoints [⟨"a:1"⟩, ⟨"b:2"⟩]).locate "ns:k" with
  | none => exact absurd (Ring.locate_eq_none_iff.mp howner) (List.cons_ne_nil _ _)
  | some server => exact ⟨server, by simpa using Ring.mem_of_locate howner, rfl⟩

theorem plan_keep {server : Endpoint} (h : named.fleet.locate "ns:k" = some server) :
    named.client.plan named.clock named.fleet keep =
      .ok (.single (some server) (.store .set "ns:k" ⟨Flags.text, [0x76]⟩ 0 0)) := by
  have hwire : named.client.wireKey "k" = .ok "ns:k" := by decide +kernel
  unfold Client.plan keep
  dsimp only
  rw [if_neg (by decide), hwire, ← h]
  rfl

theorem plan_fetch {server : Endpoint} (h : launched.fleet.locate "ns:k" = some server) :
    launched.client.plan launched.clock launched.fleet (.get "k") =
      .ok (.single (some server) (.get "ns:k")) := by
  have hwire : launched.client.wireKey "k" = .ok "ns:k" := by decide +kernel
  unfold Client.plan
  dsimp only
  rw [if_neg (by decide), hwire, ← h]

/-- What a request about one key sends in the course of a script can be computed. -/
theorem exists_sent (hplan : w.client.plan w.clock w.fleet r = .ok (.single (some server) command))
    (h : ((w.fleet.spawnAll [(server, .execute command)]).1.play script).isSome = true ∧
      (w.fleet.spawnAll [(server, .execute command)]).1.Steady script ∧
      (1, command.encode 0) ∈ requests (((w.fleet.spawnAll [(server, .execute command)]).1.site
        server).record w.fleet.nextTicket
          ((w.fleet.spawnAll [(server, .execute command)]).1.tale server script)).1) :
    ∃ f, (w.started r).play script = some f ∧ (w.started r).Steady script ∧
      ∀ p ∈ command.packets 0, w.Sent r script server p := by
  have hstarted : w.started r = (w.fleet.spawnAll [(server, .execute command)]).1 :=
    (asked_of_plan hplan).1
  have hshare : (Plan.single (some server) command).shares[0]? = some (server, command) := rfl
  rw [← hstarted] at h
  obtain ⟨hplay, hsteady, hmem⟩ := h
  obtain ⟨f, hf⟩ := Option.isSome_iff_exists.mp hplay
  exact ⟨f, hf, hsteady, fun p hp => ⟨_, mem_tickets hplan hshare, _, command, 1, 0,
    lookup_started hplan hshare, rfl, hmem, hp⟩⟩

/-- A value is stored before the client has been started and read afterwards. Whichever server owns
    the key, both requests have gone to it, and both have named the key as it is sent. -/
theorem one_owner_one_name_launched :
    named.fleet.Arisen ∧ launched.fleet.Arisen ∧ ∃ server f f' p p',
      (named.started keep).play (reach 0) = some f ∧
      (launched.started (.get "k")).play (reach 2) = some f' ∧
      named.Routed keep (reach 0) f "k" "ns:k" ∧
      launched.Routed (.get "k") (reach 2) f' "k" "ns:k" ∧
      named.Sent keep (reach 0) server p ∧ p.key = Text.encode "ns:k" ∧
      launched.Sent (.get "k") (reach 2) server p' ∧ p'.key = Text.encode "ns:k" := by
  have hnamed : named.fleet.Arisen := Fleet.arisen_ofServers ..
  have hlaunched : launched.fleet.Arisen :=
    ⟨[⟨"a:1"⟩, ⟨"b:2"⟩], {}, .failImmediately, [(0, .launch), (0, .settled)], by decide, rfl⟩
  obtain ⟨server, hserver, howner⟩ : ∃ server, _ ∧ named.fleet.locate "ns:k" = some server :=
    exists_owner rfl
  obtain ⟨server', hserver', howner'⟩ : ∃ server, _ ∧ launched.fleet.locate "ns:k" = some server :=
    exists_owner rfl
  obtain ⟨f, hplay, hsteady, hsent⟩ : ∃ f, (named.started keep).play (reach 0) = some f ∧ _ :=
    exists_sent (plan_keep howner) (by rcases hserver with rfl | rfl <;> decide +kernel)
  obtain ⟨f', hplay', hsteady', hsent'⟩ :
      ∃ f, (launched.started (.get "k")).play (reach 2) = some f ∧ _ :=
    exists_sent (plan_fetch howner') (by rcases hserver' with rfl | rfl <;> decide +kernel)
  obtain ⟨wire, hrouted, hmeet⟩ :=
    one_owner_one_name hnamed (plan_keep howner) hplay List.mem_cons_self
  have hname : named.client.keys.apply "k" = .ok "ns:k" := by decide +kernel
  obtain rfl : wire = "ns:k" := Except.ok.inj (hrouted.name.symm.trans hname)
  obtain ⟨hrouted', hsame⟩ := hmeet launched (.get "k") _ (reach 2) f' rfl hlaunched
    (plan_fetch howner') hplay' List.mem_cons_self
  have hp := hsent _ List.mem_cons_self
  have hp' := hsent' _ List.mem_cons_self
  have hliving : ∀ server, named.fleet.isAlive? server = some true ↔
      launched.fleet.isAlive? server = some true := by
    intro server
    have hnodes : launched.fleet.nodes =
        named.fleet.nodes.mapValues fun node => { node with listening := true } := rfl
    unfold Fleet.isAlive?
    rw [hnodes, Table.lookup_mapValues, Option.map_map]
    rfl
  obtain rfl := hsame hliving hsteady hsteady' server server' _ _ hp hp' rfl rfl
  exact ⟨hnamed, hlaunched, server, f, f', _, _, hplay, hplay', hrouted, hrouted', hp, rfl, hp', rfl⟩

end Sim.World

end Memcache
