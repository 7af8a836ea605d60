import Mathlib
import Memcache.Proofs.Connection.Stream
import Memcache.Proofs.Node.Stepping
import Memcache.Proofs.Wire.RoundTrip

/-!
# `Memcache.Proofs.Node.Turns` — what a turn leaves as it is

Many tasks have turns on one node, and what one of them may count on is what the turns of the others
leave alone. `Task.step` never opens a closed pool and never puts a connection into one. It takes no
place in the queue (`Pool.Waits`) from anybody but its own task. And it clears `Node.alive` at most;
only the probe that the sweeper makes, `Purpose.revive`, sets it, and only when its connection has
received the whole answer to a no-op.

Nothing has to be known of the node or the task for this, so it is true from any state on.

## Contents

* `Pool.Waits`, `Pool.Stays` — a place in the queue, and what every function of a pool keeps;
* `Node.Fate`, `Turn.Lawful` — what a turn may do; `Task.lawful_step` — **and does**;
* `Stage.Sounds`, `Task.revive_step` — **the turns of a probe that brings its node back**;
* `Exchange.scan_noop` — the whole answer to a no-op.
-/

namespace Memcache

/-! ## Pools -/

namespace Pool

variable {p p' p'' : Pool} {t : Ticket} {spared spared' : Ticket → Prop}

/-- The ticket is `waiting` in the queue, or has the permit that was handed over to it,
    `granted`. -/
def Waits (p : Pool) (t : Ticket) : Prop :=
  p.claims.lookup t = some .waiting ∨ p.claims.lookup t = some .granted

/-- What stays as it is from `p` to `p'`: a `closed` pool is closed, and `idle` is empty once it
    was; and tickets that are `spared` still wait. -/
structure Stays (spared : Ticket → Prop) (p p' : Pool) : Prop where
  endpoint : p'.endpoint = p.endpoint
  settings : p'.settings = p.settings
  closed : p.closed = true → p'.closed = true
  idle : p.closed = true → p.idle = [] → p'.idle = []
  waits : ∀ k, spared k → p.Waits k → p'.Waits k

theorem Stays.refl (spared : Ticket → Prop) (p : Pool) : p.Stays spared p :=
  ⟨rfl, rfl, id, fun _ => id, fun _ _ => id⟩

theorem Stays.trans (h : p.Stays spared p') (h' : p'.Stays spared p'') : p.Stays spared p'' where
  endpoint := h'.endpoint.trans h.endpoint
  settings := h'.settings.trans h.settings
  closed hclosed := h'.closed (h.closed hclosed)
  idle hclosed hidle := h'.idle (h.closed hclosed) (h.idle hclosed hidle)
  waits k hk hwaits := h'.waits k hk (h.waits k hk hwaits)

/-- Who spares `spared` spares any tickets among them. -/
theorem Stays.mono (h : p.Stays spared p') (hspared : ∀ k, spared' k → spared k) :
    p.Stays spared' p' :=
  { h with waits := fun k hk => h.waits k (hspared k hk) }

theorem Waits.congr {k : Ticket} (h : p.Waits k) (hlookup : p'.claims.lookup k = p.claims.lookup k) :
    p'.Waits k := by
  unfold Waits
  rwa [hlookup]

/-- A ticket that has a lease has no place in the queue. -/
theorem Waits.ne_of_lease {k : Ticket} {lease : Lease} (h : p.Waits k)
    (hlease : p.lease? t = some lease) : k ≠ t := by
  rintro rfl
  unfold lease? at hlease
  rcases h with hwaiting | hgranted
  · rw [hwaiting] at hlease
    contradiction
  · rw [hgranted] at hlease
    contradiction

/-! ### Permits -/

/-- Passing on a permit by `handOver` takes nobody's place: one `waiting` ticket may become
    `granted`, and no other claim changes. -/
theorem lookup_handOver {claims claims' : Table Ticket Claim} (h : handOver claims = some claims')
    (k : Ticket) :
    claims'.lookup k = claims.lookup k ∨
      claims.lookup k = some .waiting ∧ claims'.lookup k = some .granted := by
  induction claims generalizing claims' with
  | nil => contradiction
  | cons e rest ih =>
      obtain ⟨t, c⟩ := e
      by_cases hc : c = .waiting
      · subst hc
        obtain rfl := Option.some.inj h
        by_cases hkt : t = k
        · exact .inr ⟨if_pos hkt, if_pos hkt⟩
        · exact .inl ((if_neg hkt).trans (if_neg hkt).symm)
      · obtain ⟨rest', hrest', rfl⟩ : ∃ rest', handOver rest = some rest' ∧
            (t, c) :: rest' = claims' := by
          cases c with
          | waiting => exact absurd rfl hc
          | granted | opening | lent _ => simpa [handOver, Option.map_eq_some_iff] using h
        by_cases hkt : t = k
        · exact .inl ((if_pos hkt).trans (if_pos hkt).symm)
        · rw [Table.lookup, Table.lookup, if_neg hkt, if_neg hkt]
          exact ih hrest'

theorem stays_freePermit (p : Pool) : p.Stays spared p.freePermit := by
  unfold freePermit
  split
  · next claims hclaims =>
      refine ⟨rfl, rfl, id, fun _ => id, fun k _ hwaits => ?_⟩
      split at hclaims
      · contradiction
      · rcases lookup_handOver hclaims k with hsame | ⟨-, hgranted⟩
        · exact hwaits.congr hsame
        · exact .inr hgranted
  · exact ⟨rfl, rfl, id, fun _ => id, fun _ _ => id⟩

/-- What is done to the claim of `t` spares all others. -/
theorem stays_claims {claims : Table Ticket Claim}
    (hclaims : ∀ k, k ≠ t → claims.lookup k = p.claims.lookup k) :
    p.Stays (· ≠ t) { p with claims := claims } :=
  ⟨rfl, rfl, id, fun _ => id, fun k hk hwaits => hwaits.congr (hclaims k hk)⟩

theorem stays_insert (c : Claim) : p.Stays (· ≠ t) { p with claims := p.claims.insert t c } :=
  stays_claims fun _ hk => (Table.lookup_insert ..).trans (if_neg hk)

theorem stays_erase : p.Stays (· ≠ t) { p with claims := p.claims.erase t } :=
  stays_claims fun _ hk => (Table.lookup_erase ..).trans (if_neg hk)

theorem stays_surrender (p : Pool) (t : Ticket) : p.Stays (· ≠ t) (p.surrender t) :=
  stays_erase.trans (stays_freePermit _)

/-! ### Connections -/

theorem stays_stock (p : Pool) (c : Connection) : p.Stays spared (p.stock c) := by
  unfold stock
  split
  · exact .refl ..
  · next hopen =>
      refine ⟨rfl, rfl, id, fun hclosed _ => ?_, fun _ _ => id⟩
      exact absurd (.inl hclosed) hopen

theorem stays_clearIdle (p : Pool) : p.Stays spared p.clearIdle :=
  ⟨rfl, rfl, id, fun _ _ => rfl, fun _ _ => id⟩

theorem stays_close (p : Pool) : p.Stays spared p.close :=
  ⟨rfl, rfl, fun _ => rfl, fun _ _ => rfl, fun _ _ => id⟩

/-- Only a `lent` claim is written by `putLease`, so nobody in the queue is concerned. -/
theorem stays_putLease (p : Pool) (t : Ticket) (lease : Lease) :
    p.Stays spared (p.putLease t lease) := by
  refine ⟨rfl, rfl, id, fun _ => id, fun k _ hwaits => hwaits.congr ?_⟩
  unfold putLease
  dsimp only
  rw [Table.lookup_modify]
  split
  · next hk =>
      rcases hwaits with hwaiting | hgranted
      · rw [hwaiting]
        rfl
      · rw [hgranted]
        rfl
  · rfl

theorem stays_settle (p : Pool) (t : Ticket) (success : Bool) :
    p.Stays spared (p.settle t success) := by
  unfold settle
  split
  · exact stays_putLease ..
  · exact .refl ..

theorem stays_discard (p : Pool) (t : Ticket) : p.Stays spared (p.discard t) := by
  unfold discard
  split
  · exact .refl ..
  · exact stays_putLease ..

theorem stays_release (p : Pool) (t : Ticket) : p.Stays spared (p.release t) := by
  unfold release
  split
  · exact .refl ..
  · next lease hlease =>
      have hback : p.Stays (· ≠ t)
          ((if lease.sound then p.stock lease.connection else p).surrender t) := by
        refine Stays.trans ?_ (stays_surrender _ t)
        split
        · exact stays_stock ..
        · exact .refl ..
      -- whoever gives a connection back is not in the queue
      exact { hback with waits := fun k _ hwaits => hback.waits k (hwaits.ne_of_lease hlease) hwaits }

/-! ### Claims -/

theorem stays_proceed (p : Pool) (t : Ticket) : p.Stays (· ≠ t) (p.proceed t).1 := by
  unfold proceed
  split
  · next c rest hidle =>
      refine { stays_insert (.lent { connection := c }) with idle := ?_ }
      intro _ hempty
      rw [hidle] at hempty
      contradiction
  · exact stays_insert .opening

theorem stays_enter (p : Pool) (t : Ticket) : p.Stays (· ≠ t) (p.enter t).1 := by
  unfold enter
  split
  · exact .refl ..
  · split
    · exact stays_insert .waiting
    · have hpermit : p.Stays (· ≠ t) { p with permits := p.permits - 1 } :=
        ⟨rfl, rfl, id, fun _ => id, fun _ _ => id⟩
      exact hpermit.trans (stays_proceed _ t)

/-- Who goes on by `Pool.proceed` is lent an idle connection or has one opened, and is not in the
    queue. -/
theorem proceed_ne_queued : (p.proceed t).2 ≠ .queued := by
  unfold proceed
  split
  · nofun
  · nofun

theorem waits_enter (h : (p.enter t).2 = .queued) : (p.enter t).1.Waits t := by
  unfold enter at h ⊢
  by_cases hclosed : p.closed = true
  · rw [if_pos hclosed] at h
    contradiction
  · rw [if_neg hclosed] at h ⊢
    by_cases hpermits : p.permits = 0
    · rw [if_pos hpermits]
      exact .inl ((Table.lookup_insert ..).trans (if_pos rfl))
    · rw [if_neg hpermits] at h
      exact absurd h proceed_ne_queued

theorem stays_resume {answer : Pool × Admission} (h : p.resume t = some answer) :
    p.Stays (· ≠ t) answer.1 := by
  cases resume_eq_some_iff.mp h with
  | granted _ _ => exact stays_proceed p t
  | refused _ _ => exact stays_surrender p t
  | dismissed _ _ => exact stays_erase

/-- Nobody is sent back into the queue by `Pool.resume`. -/
theorem resume_ne_queued {answer : Pool × Admission} (h : p.resume t = some answer) :
    answer.2 ≠ .queued := by
  cases resume_eq_some_iff.mp h with
  | granted _ _ => exact proceed_ne_queued
  | refused _ _ | dismissed _ _ => nofun

theorem stays_opened (p : Pool) (t : Ticket) (link : Nat) : p.Stays (· ≠ t) (p.opened t link) :=
  stays_claims fun _ hk => (Table.lookup_modify ..).trans (if_neg hk)

theorem stays_withdraw (p : Pool) (t : Ticket) : p.Stays (· ≠ t) (p.withdraw t) := by
  unfold withdraw
  split
  · exact .refl ..
  · exact stays_erase
  · exact stays_surrender p t
  · exact stays_surrender p t
  · exact stays_release p t

/-- A closed pool answers `refused` to whoever waits. -/
theorem resume_of_closed (hclosed : p.closed = true) (hwaits : p.Waits t) :
    ∃ p', p.resume t = some (p', .refused) := by
  rcases hwaits with hwaiting | hgranted
  · exact ⟨_, resume_eq_some_iff.mpr (.dismissed hwaiting hclosed)⟩
  · exact ⟨_, resume_eq_some_iff.mpr (.refused hgranted hclosed)⟩

end Pool

/-! ## Turns -/

/-- **What becomes of a node in a turn of a task that does not bring it back**: `alive` and
    `deadSince?` stay, or it is taken out of use now, and announced as `failed`. -/
inductive Node.Fate (now : Time) (n : Node) : Node → Option NodeEvent → Prop where
  | spared {n' : Node} (halive : n'.alive = n.alive) (hsince : n'.deadSince? = n.deadSince?) :
      Fate now n n' none
  | killed {n' : Node} (hlive : n.alive = true) (halive : n'.alive = false)
      (hsince : n'.deadSince? = some now) : Fate now n n' (n.announce .failed)

/-- What a turn of the task `ticket` may do: spare the claims of all others in the pool, leave
    `listening` as it is, and decide the node's fate. -/
structure Turn.Lawful (now : Time) (ticket : Ticket) (n : Node) (purpose : Purpose) (turn : Turn) :
    Prop where
  pool : n.pool.Stays (· ≠ ticket) turn.node.pool
  listening : turn.node.listening = n.listening
  task : turn.task.purpose = purpose
  /-- A task in the queue has a place there. -/
  queued : ∀ deadline, turn.task.stage = .queued deadline → turn.node.pool.Waits ticket
  fate : purpose ≠ .revive → n.Fate now turn.node turn.event?

namespace Node

variable {now : Time} {n n' : Node} {event? : Option NodeEvent}

theorem fate_refl (now : Time) (n : Node) : n.Fate now n none :=
  .spared rfl rfl

/-- The fate of a node does not depend on its policy or its pool's connections. -/
theorem Fate.congr {m : Node} (h : m.Fate now n' event?) (halive : m.alive = n.alive)
    (hsince : m.deadSince? = n.deadSince?) (hlistening : m.listening = n.listening)
    (hendpoint : m.endpoint = n.endpoint) : n.Fate now n' event? := by
  have hannounce : m.announce .failed = n.announce .failed := by
    unfold announce
    rw [hlistening, hendpoint]
  cases h with
  | spared halive' hsince' => exact .spared (halive'.trans halive) (hsince'.trans hsince)
  | killed hlive halive' hsince' =>
      rw [hannounce]
      exact .killed (halive ▸ hlive) halive' hsince'

theorem fate_markDead (now : Time) (n : Node) : n.Fate now (n.markDead now).1 (n.markDead now).2 := by
  unfold markDead
  split
  · next hlive => exact .killed hlive rfl rfl
  · exact fate_refl now n

theorem fate_record (now : Time) (success : Bool) (n : Node) :
    n.Fate now (n.record now success).1 (n.record now success).2 := by
  unfold record
  dsimp only
  split
  · exact (fate_markDead now { n with policy := _ }).congr rfl rfl rfl rfl
  · exact .spared rfl rfl

theorem listening_record (now : Time) (success : Bool) (n : Node) :
    (n.record now success).1.listening = n.listening := by
  unfold record markDead
  dsimp only
  split
  · split <;> rfl
  · rfl

theorem stays_record (now : Time) (success : Bool) (n : Node) {spared : Ticket → Prop} :
    n.pool.Stays spared (n.record now success).1.pool := by
  unfold record markDead
  dsimp only
  split
  · split
    · exact Pool.stays_clearIdle _
    · exact .refl ..
  · exact .refl ..

end Node

namespace Turn.Lawful

variable {now : Time} {ticket : Ticket} {n : Node} {purpose : Purpose} {turn : Turn}

/-- What was done to the pool before, as long as all others were spared, counts as part of the
    turn. -/
theorem after {pool : Pool} (h : turn.Lawful now ticket { n with pool := pool } purpose)
    (hpool : n.pool.Stays (· ≠ ticket) pool) : turn.Lawful now ticket n purpose where
  pool := hpool.trans h.pool
  listening := h.listening
  task := h.task
  queued := h.queued
  fate hpurpose := (h.fate hpurpose).congr rfl rfl rfl hpool.endpoint

/-- What is in `Turn.effects` makes no difference. -/
theorem sending (h : turn.Lawful now ticket n purpose) (effects : List Effect) :
    Turn.Lawful now ticket n purpose { turn with effects := effects } :=
  ⟨h.pool, h.listening, h.task, h.queued, h.fate⟩

end Turn.Lawful

namespace Task

variable {now : Time} {ticket : Ticket} {n : Node} {t : Task}

/-! ### The parts of a turn -/

/-- A turn that changes nothing but `stage` and `opened` of the task. -/
theorem lawful_stage {stage : Stage} {opened : Nat} {effects : List Effect}
    (hqueued : ∀ deadline, stage ≠ .queued deadline) :
    Turn.Lawful now ticket n t.purpose
      { node := n, task := { t with stage := stage, opened := opened }, effects := effects } where
  pool := .refl ..
  listening := rfl
  task := rfl
  queued deadline hstage := absurd hstage (hqueued deadline)
  fate _ := .spared rfl rfl

theorem lawful_finish (result : TaskResult) :
    Turn.Lawful now ticket n t.purpose { node := n, task := t.finish result } :=
  lawful_stage nofun

theorem lawful_account (success : Bool) (result : TaskResult) :
    (t.account now n success result).Lawful now ticket n t.purpose where
  pool := n.stays_record now success
  listening := n.listening_record now success
  task := rfl
  queued _ hstage := by contradiction
  fate _ := n.fate_record now success

theorem lawful_denied (e : PoolError) : (t.denied now n e).Lawful now ticket n t.purpose := by
  unfold denied
  split
  · exact lawful_account ..
  · exact lawful_stage nofun

theorem lawful_ended (reply : Reply) (result : Except ConnectionError Unit) :
    (t.ended now ticket n reply result).Lawful now ticket n t.purpose := by
  unfold ended
  dsimp only
  split
  · exact (lawful_finish (n := { n with pool := _ }) _).after (Pool.stays_settle ..)
  · have hback : n.pool.Stays (· ≠ ticket)
        ((n.pool.settle ticket (Verdict.succeeded result)).release ticket) :=
      (Pool.stays_settle ..).trans (Pool.stays_release ..)
    split
    · exact (lawful_account (n := { n with pool := _ }) ..).after hback
    · exact (lawful_account (n := { n with pool := _ }) ..).after hback

theorem lawful_heard (x : Exchange) (v : Verdict) :
    (t.heard now ticket n x v).Lawful now ticket n t.purpose := by
  cases v with
  | waiting => exact lawful_stage nofun
  | ended result => exact lawful_ended ..

theorem lawful_engage (holder : Ticket) (command : Command) :
    (t.engage now ticket holder n command).Lawful now ticket n t.purpose := by
  unfold engage
  split
  · exact lawful_ended ..
  · exact ((lawful_heard (n := { n with pool := _ }) ..).after (Pool.stays_putLease ..)).sending _

theorem lawful_probed (result : Except ConnectionError Unit) :
    (t.probed now n result).Lawful now ticket n t.purpose := by
  unfold probed
  dsimp only
  split
  · next hpurpose =>
      refine ⟨?_, ?_, rfl, nofun, fun hother => absurd hpurpose hother⟩
      · unfold Node.markAlive
        split <;> exact .refl ..
      · unfold Node.markAlive
        split <;> rfl
  · next hpurpose =>
      exact ⟨.refl .., rfl, rfl, nofun, fun hother => absurd hpurpose hother⟩
  · exact lawful_stage nofun

theorem lawful_sounded (c : Connection) (x : Exchange) (v : Verdict) :
    (t.sounded now n c x v).Lawful now ticket n t.purpose := by
  cases v with
  | waiting => exact lawful_stage nofun
  | ended result => exact lawful_probed ..

theorem lawful_stockUp : (t.stockUp now n).Lawful now ticket n t.purpose := by
  unfold stockUp
  split
  · exact lawful_stage nofun
  · exact lawful_stage nofun

theorem lawful_equipped : (t.equipped now ticket n).Lawful now ticket n t.purpose := by
  unfold equipped
  split
  · exact lawful_engage ..
  · exact lawful_stage nofun

theorem lawful_admitted {a : Admission} (hqueued : a = .queued → n.pool.Waits ticket) :
    (t.admitted now ticket n a).Lawful now ticket n t.purpose := by
  cases a with
  | queued => exact ⟨.refl .., rfl, rfl, fun _ _ => hqueued rfl, fun _ => .spared rfl rfl⟩
  | lent => exact lawful_equipped
  | opening => exact lawful_stage nofun
  | refused => exact lawful_denied ..

theorem lawful_acquire : (t.acquire now ticket n).Lawful now ticket n t.purpose :=
  (lawful_admitted (n := { n with pool := _ }) Pool.waits_enter).after (Pool.stays_enter ..)

theorem lawful_connected (link : Nat) :
    (t.connected now ticket n link).Lawful now ticket n t.purpose := by
  unfold connected
  dsimp only
  split
  · exact (lawful_sounded ..).sending _
  · exact (lawful_sounded ..).sending _
  · have hstocked : Turn.Lawful now ticket { n with pool := n.pool.stock { link := link } }
        t.purpose _ := lawful_stockUp (t := { t with opened := t.opened + 1 })
    exact hstocked.after (Pool.stays_stock ..)
  · exact (lawful_equipped (n := { n with pool := _ })).after (Pool.stays_opened ..)

theorem lawful_unreachable (e : ConnectionError) :
    (t.unreachable now ticket n e).Lawful now ticket n t.purpose := by
  unfold unreachable
  split
  · exact lawful_probed ..
  · exact lawful_probed ..
  · exact lawful_account ..
  · exact lawful_stage nofun
  · exact (lawful_denied (n := { n with pool := _ }) ..).after (Pool.stays_withdraw ..)

theorem lawful_start : (t.start now ticket n).Lawful now ticket n t.purpose := by
  unfold start
  split
  · exact lawful_acquire
  · exact lawful_engage ..
  · split
    · exact lawful_acquire
    · exact lawful_stage nofun
  · exact lawful_stage nofun
  · exact lawful_stage nofun
  · exact lawful_stockUp

theorem lawful_listen {arrival? : Option Arrival} {x : Exchange} {deadline : Time} {turn : Turn}
    (h : t.Listened now ticket arrival? n x deadline turn) :
    turn.Lawful now ticket n t.purpose := by
  cases h with
  | heard _ _ => exact (lawful_heard (n := { n with pool := _ }) ..).after (Pool.stays_putLease ..)
  | interrupted _ _ => exact lawful_ended ..

theorem result?_of_finished {result : TaskResult} (h : t.stage = .finished result) :
    t.result? = some result := by
  unfold result?
  rw [h]

theorem unended_of_step {arrival? : Option Arrival} {turn : Turn}
    (h : t.step now ticket arrival? n = some turn) : t.result? = none := by
  unfold result?
  cases step_eq_some_iff.mp h with
  | begun hstage | resumed hstage _ | overdue hstage _ _ | connected hstage _ | refused hstage _
  | unconnected hstage _ _ _ | listened hstage _ | sounded hstage _ | broken hstage _ _ =>
      rw [hstage]

/-! ### Whole turns -/

/-- **Every turn `Task.step` of every task is `Lawful`.** -/
theorem lawful_step {arrival? : Option Arrival} {turn : Turn}
    (h : t.step now ticket arrival? n = some turn) : turn.Lawful now ticket n t.purpose := by
  cases step_eq_some_iff.mp h with
  | begun _ => exact lawful_start
  | @resumed _ pool a _ hresume =>
      have hadmitted : Turn.Lawful now ticket { n with pool := pool } t.purpose
          (t.admitted now ticket { n with pool := pool } a) :=
        lawful_admitted fun hqueued => absurd hqueued (Pool.resume_ne_queued hresume)
      exact hadmitted.after (Pool.stays_resume hresume)
  | overdue _ _ _ =>
      exact (lawful_denied (n := { n with pool := _ }) ..).after (Pool.stays_withdraw ..)
  | connected _ _ => exact lawful_connected ..
  | refused _ _ | unconnected _ _ _ _ => exact lawful_unreachable ..
  | listened _ hlistened => exact lawful_listen hlistened
  | sounded _ _ => exact lawful_sounded ..
  | broken _ _ _ => exact lawful_probed ..

end Task

/-! ## Probes that bring their node back -/

/-- The octets are one packet with opcode `noop` and tag 0, and nothing else. -/
def NoopAnswer (bs : Bytes) : Prop :=
  ∃ p, Decoder.responses.drain bs = ⟨[p], [], none⟩ ∧ p.opcode = Opcode.noop ∧ p.tag = 0

namespace Exchange

/-- What `Exchange.take` makes of a packet in the first no-op: it is done, and the packet has opcode
    `noop` and tag 0, or it fails. -/
theorem take_noop (p : Packet) :
    ((Command.noop.exchange 0).take p).2 = .ok .done ∧ p.opcode = Opcode.noop ∧ p.tag = 0 ∨
      ∃ e, ((Command.noop.exchange 0).take p).2 = .error e := by
  have hspan : Command.noop.span = 1 := rfl
  unfold take Command.exchange
  dsimp only
  by_cases htag : Command.noop.span ≤ p.tag - 0
  · rw [if_pos htag]
    exact .inr ⟨_, rfl⟩
  · rw [if_neg htag]
    unfold Command.handle Command.handleStatus Command.expecting
    dsimp only
    by_cases hopcode : p.opcode = Opcode.noop
    · rw [if_pos hopcode]
      refine .inl ⟨rfl, hopcode, ?_⟩
      rw [hspan, UInt32.sub_zero, UInt32.le_iff_toNat_le, UInt32.toNat_one] at htag
      rw [← UInt32.toNat_inj, UInt32.toNat_zero]
      omega
    · rw [if_neg hopcode]
      exact .inr ⟨_, rfl⟩

/-- **What the first no-op on a connection makes of octets**: nothing yet, or it fails, or they are
    a `NoopAnswer`. -/
theorem scan_noop (bs : Bytes) :
    (Command.noop.exchange 0).scan bs = (Command.noop.exchange 0, bs, .waiting) ∨
      (∃ e, ((Command.noop.exchange 0).scan bs).2.2 = .ended (.error e)) ∨
      ((Command.noop.exchange 0).scan bs).2.2 = .ended (.ok ()) ∧ NoopAnswer bs := by
  cases hparse : Decoder.responses.parse bs with
  | error e =>
      rw [scan_of_error hparse]
      exact .inr (.inl ⟨_, rfl⟩)
  | ok front =>
      cases front with
      | none => exact .inl (scan_of_none hparse)
      | some front =>
          obtain ⟨p, n⟩ := front
          right
          rw [scan_of_packet hparse]
          rcases take_noop p with ⟨htake, hopcode, htag⟩ | ⟨e, htake⟩
          · rw [htake]
            dsimp only
            by_cases hrest : (bs.drop n).length = 0
            · rw [if_pos hrest]
              refine .inr ⟨rfl, p, ?_, hopcode, htag⟩
              rw [Decoder.drain_of_packet hparse, List.eq_nil_of_length_eq_zero hrest,
                Decoder.drain_of_none rfl]
            · rw [if_neg hrest]
              exact .inl ⟨_, rfl⟩
          · rw [htake]
            exact .inl ⟨_, rfl⟩

end Exchange

/-- Where a probe may stand: at its start, `dialling`, at its end, or `probing` with the first no-op
    of its connection. -/
def Stage.Sounds : Stage → Prop
  | .fresh | .dialling _ | .finished (.probed _) => True
  | .probing _ x _ => x = Command.noop.exchange 0
  | _ => False

/-- **What a turn of a `revive` does to its node.** -/
inductive Turn.Probes (now : Time) (n : Node) (t : Task) (arrival? : Option Arrival) (turn : Turn) :
    Prop where
  /-- It begins, and asks for a connection to the node's endpoint. -/
  | begun (hfresh : t.stage = .fresh) (hdial : turn.effects = [.dial n.endpoint])
      (hnode : turn.node = n) (hevent : turn.event? = none) (hsounds : turn.task.stage.Sounds)
      (hopen : turn.task.result? = none)
  /-- It goes on: no connection is asked for, and the node stays as it is. -/
  | goesOn (hbegun : t.stage ≠ .fresh) (hdial : ∀ e, .dial e ∉ turn.effects)
      (hnode : turn.node = n) (hevent : turn.event? = none) (hsounds : turn.task.stage.Sounds)
      (hopen : turn.task.result? = none)
  /-- It fails, and `deadSince?` of a dead node is set to now. -/
  | failed (e : ConnectionError) (hbegun : t.stage ≠ .fresh) (hdial : turn.effects = [])
      (hnode : turn.node = n.touch now) (hevent : turn.event? = none)
      (hresult : turn.task.stage = .finished (.probed (.error e)))
  /-- The octets `bs` are a `NoopAnswer`, and `markAlive` puts the node back into use. -/
  | answered (c : Connection) (deadline : Time) (bs : Bytes) (hdial : turn.effects = [])
      (hstage : t.stage = .probing c (Command.noop.exchange 0) deadline)
      (harrival : arrival? = some (.octets bs)) (hanswer : NoopAnswer (c.buffer.contents ++ bs))
      (hnode : turn.node = n.markAlive.1) (hevent : turn.event? = n.markAlive.2)
      (hresult : turn.task.stage = .finished (.probed (.ok ())))

namespace Task

variable {now : Time} {ticket : Ticket} {n : Node} {t : Task}

theorem probes_failed {arrival? : Option Arrival} {e : ConnectionError}
    (hpurpose : t.purpose = .revive) (hbegun : t.stage ≠ .fresh) :
    (t.probed now n (.error e)).Probes now n t arrival? := by
  refine .failed e hbegun ?_ ?_ ?_ ?_
  all_goals
    unfold probed
    rw [hpurpose]
  all_goals rfl

/-- **Every turn of a `revive` is one of `Probes`**, and leaves it where a probe may stand. -/
theorem revive_step {arrival? : Option Arrival} {turn : Turn} (hpurpose : t.purpose = .revive)
    (hsounds : t.stage.Sounds) (h : t.step now ticket arrival? n = some turn) :
    turn.Probes now n t arrival? := by
  have hunreachable : t.stage ≠ .fresh →
      ∀ e, (t.unreachable now ticket n e).Probes now n t arrival? := by
    intro hbegun e
    unfold unreachable
    rw [hpurpose]
    exact probes_failed hpurpose hbegun
  cases step_eq_some_iff.mp h with
  | resumed hstage _ | overdue hstage _ _ | listened hstage _ =>
      rw [hstage] at hsounds
      exact absurd hsounds id
  | begun hstage =>
      have hstart : t.start now ticket n = t.dial now n := by
        unfold start
        rw [hpurpose]
      rw [hstart]
      exact .begun hstage rfl rfl rfl trivial rfl
  | refused hstage _ | unconnected hstage _ _ _ =>
      exact hunreachable (by rw [hstage]; exact nofun) _
  | @connected _ link hstage harrival =>
      have hdigest : (Command.noop.exchange 0).digest .empty =
          (Command.noop.exchange 0, .empty, .waiting) := Exchange.digest_of_none rfl
      have hconnected : t.connected now ticket n link =
          { t.sounded now n { link := link, nextTag := 0 + Command.noop.span }
              (Command.noop.exchange 0) .waiting with
            effects := [.send link (Command.noop.encode 0)] } := by
        unfold connected Connection.begin
        rw [hpurpose]
        dsimp only
        rw [← Command.exchange, hdigest]
        rfl
      rw [hconnected]
      exact .goesOn (by rw [hstage]; exact nofun) (by simp) rfl rfl rfl rfl
  | broken hstage _ _ => exact probes_failed hpurpose (by rw [hstage]; exact nofun)
  | @sounded c x deadline bs hstage harrival =>
      have hprobing : t.stage ≠ .fresh := by
        rw [hstage]
        nofun
      rw [hstage] at hsounds
      obtain rfl : x = Command.noop.exchange 0 := hsounds
      obtain ⟨hexchange, hverdict⟩ := (Command.noop.exchange 0).receive_eq_scan c bs
      rcases Exchange.scan_noop (c.buffer.contents ++ bs) with hscan | ⟨e, hscan⟩ |
        ⟨hscan, hanswer⟩
      · rw [hscan] at hexchange hverdict
        rw [hexchange, hverdict]
        exact .goesOn hprobing (by simp [sounded]) rfl rfl rfl rfl
      · rw [hverdict, hscan]
        exact probes_failed hpurpose hprobing
      · rw [hverdict, hscan]
        refine .answered c deadline bs ?_ hstage harrival hanswer ?_ ?_ ?_
        all_goals
          unfold sounded probed
          rw [hpurpose]
        all_goals rfl

end Task

end Memcache
