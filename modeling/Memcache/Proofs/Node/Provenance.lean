import Mathlib
import Memcache.Proofs.Connection.Closing
import Memcache.Proofs.Node.Attempt
import Memcache.Proofs.Node.Course

/-!
# `Memcache.Proofs.Node.Provenance` — where the status of a command comes from

What `Node.outcome` reports of a command is the client's own finding, or the status of the packet
that closed the server's answer. By its name a `Status` tells which of the two it is
(`Status.isClientSide`). By its number, `Status.code`, it is meant to tell as well, for the client
keeps four numbers for itself; but a server can send any number of 16 bits, and `Status.ofWire` does
not keep it from sending one of the four.

The argument follows the task of a command from one `Stage` to the next. Before the command is sent
the task can only end with a finding of the client. In `Stage.talking` it has taken in what was
heard so far, so it ends with what the server said only when what was heard is the whole answer.

## Contents

* `Status.Reserved`, `Status.reserved_iff` — the numbers that the client keeps for itself;
  `Command.reserved_closingStatus_iff`;
* `Exchange.closed_scan` — **a whole answer ends with the packet that closed it**;
* `Unanswered`, `Sourced` — where an outcome comes from; `Task.sources_step`,
  `Task.Course.sourced` — **every turn, and every course, tells**;
* `Task.Course.status_provenance` — **a status is the client's or the server's, its name tells which,
  and its number does unless the server has sent a reserved one**;
* `Task.Course.reserved_status_of_server` — so the number alone does not.
-/

namespace Memcache

/-! ## Reserved numbers -/

namespace Status

/-- The numbers `Status.code` of the statuses that are the client's own by `Status.isClientSide`. -/
def Reserved (code : UInt16) : Prop :=
  ∃ s : Status, s.isClientSide = true ∧ s.code = code

/-- **The `Reserved` numbers are `0xff01` to `0xff04`.** -/
theorem reserved_iff {code : UInt16} : Reserved code ↔ 0xff01 ≤ code ∧ code ≤ 0xff04 := by
  constructor
  · rintro ⟨s, hs, rfl⟩
    cases s with
    | transportError | noAvailableNode | localFailure | nodeDead => decide
    | _ => contradiction
  · rintro ⟨hlow, hhigh⟩
    have hcases : code = 0xff01 ∨ code = 0xff02 ∨ code = 0xff03 ∨ code = 0xff04 := by
      rw [UInt16.le_iff_toNat_le] at hlow hhigh
      simp only [← UInt16.toNat_inj]
      have hends : (0xff01 : UInt16).toNat = 65281 ∧ (0xff02 : UInt16).toNat = 65282 ∧
          (0xff03 : UInt16).toNat = 65283 ∧ (0xff04 : UInt16).toNat = 65284 := ⟨rfl, rfl, rfl, rfl⟩
      omega
    rcases hcases with rfl | rfl | rfl | rfl
    · exact ⟨.transportError, rfl, rfl⟩
    · exact ⟨.noAvailableNode, rfl, rfl⟩
    · exact ⟨.localFailure, rfl, rfl⟩
    · exact ⟨.nodeDead, rfl, rfl⟩

theorem not_reserved_zero : ¬ Reserved 0 := by
  rw [reserved_iff]
  decide

end Status

/-- **A server's status has a `Reserved` number if the server has sent one.** The number that closes
    a `multiGet` is not looked at (`Command.closingStatus`). -/
theorem Command.reserved_closingStatus_iff (c : Command) (p : Packet) :
    Status.Reserved (c.closingStatus p).code ↔
      c.isBatch = false ∧ Status.Reserved p.status := by
  have hother : ∀ {b : Bool}, b = false →
      (Status.Reserved (Status.ofWire p.status).code ↔ b = false ∧ Status.Reserved p.status) := by
    intro b hb
    rw [Status.code_ofWire]
    exact ⟨fun h => ⟨hb, h⟩, fun h => h.2⟩
  cases c with
  | multiGet keys =>
      exact ⟨fun h => absurd h Status.not_reserved_zero, fun h => absurd h.1 Bool.noConfusion⟩
  | _ => exact hother rfl

/-! ## Whole answers -/

namespace Exchange

variable {x : Exchange} {bs : Bytes}

/-- **A whole answer ends with the packet that closed it:** if `Exchange.scan` ends without an
    error, `Decoder.drain` finds the packets `ps ++ [p]` with nothing left, and `Command.handle`
    answers `.done` to the last one, its tag counted from the exchange's `base`. -/
theorem closed_scan (hok : (x.scan bs).2.2 = .ended (.ok ())) :
    ∃ ps p before, Decoder.responses.drain bs = ⟨ps ++ [p], [], none⟩ ∧
      x.command.handle before { p with tag := p.tag - x.base } =
        ((x.scan bs).1.reply, .ok .done) := by
  induction bs using Decoder.drain.induct Decoder.responses generalizing x with
  | case1 bs e hparse =>
      rw [scan_of_error hparse] at hok
      cases hok
  | case2 bs hparse =>
      rw [scan_of_none hparse] at hok
      cases hok
  | case3 bs p n hparse ih =>
      rw [scan_of_packet hparse] at hok ⊢
      rw [Decoder.drain_of_packet hparse]
      unfold take at hok ⊢
      dsimp only at hok ⊢
      by_cases hforeign : x.command.span ≤ p.tag - x.base
      · rw [if_pos hforeign] at hok
        cases hok
      · rw [if_neg hforeign] at hok ⊢
        dsimp only at hok ⊢
        cases hhandled : (x.command.handle x.reply { p with tag := p.tag - x.base }).2 with
        | error e =>
            rw [hhandled] at hok
            cases hok
        | ok progress =>
            rw [hhandled] at hok
            cases progress with
            | more =>
                obtain ⟨ps, last, before, hdrain, hdone⟩ := ih hok
                refine ⟨p :: ps, last, before, ?_, hdone⟩
                rw [hdrain]
                rfl
            | done =>
                dsimp only at hok ⊢
                have hrest : (bs.drop n).length = 0 := by
                  by_contra hleft
                  rw [if_neg hleft] at hok
                  cases hok
                refine ⟨[], p, x.reply, ?_, Prod.ext rfl hhandled⟩
                rw [List.eq_nil_of_length_eq_zero hrest, Decoder.drain_of_none rfl]
                rfl

end Exchange

/-! ## Turns -/

/-- The client's own finding: there was no complete reply (`Status.transportError`), or the node was
    dead (`Status.nodeDead`). -/
def Outcome.Unanswered (outcome : Outcome Unit) : Prop :=
  outcome.report.status = .transportError ∨ outcome.report.status = .nodeDead

theorem Outcome.unanswered_transportError (message : String) :
    (Outcome.fail .transportError message).Unanswered :=
  .inl rfl

/-- **Where the `outcome` of a `command` comes from,** given what was `sent` and `heard`. -/
inductive Sourced (command : Command) (sent : List (Nat × Bytes)) (heard : Bytes)
    (outcome : Outcome Unit) : Prop where
  /-- It is the client's own finding, by `Outcome.Unanswered`. -/
  | client (hstatus : outcome.Unanswered)
  /-- The command was sent once, with tags from `base`; `Exchange.scan` ends on what was `heard`
      without an error, and the outcome is what `Node.outcome` makes of the reply. -/
  | server (link : Nat) (base : UInt32) (hsent : sent = [(link, command.encode base)])
      (hscan : ((command.exchange base).scan heard).2.2 = .ended (.ok ()))
      (houtcome : outcome = Node.outcome ((command.exchange base).scan heard).1.reply)

/-- A stage other than `Stage.finished`, or one in which an `executed` outcome is `good`. -/
def Stage.EndsIn (good : Outcome Unit → Prop) : Stage → Prop
  | .finished (.executed outcome _) => good outcome
  | _ => True

theorem Stage.EndsIn.mono {good good' : Outcome Unit → Prop} {stage : Stage} (h : stage.EndsIn good)
    (himplies : ∀ outcome, good outcome → good' outcome) : stage.EndsIn good' := by
  cases stage with
  | fresh | queued _ | dialling _ | talking _ _ | probing _ _ _ => trivial
  | finished result =>
      cases result with
      | executed outcome reply => exact himplies outcome h
      | borrowed _ | ran _ _ | probed _ | warmed _ => trivial

/-- A turn that ends the command only with a `Sourced` outcome; its `Turn.effects` are added to what
    was `sent` before. -/
def Turn.Sources (command : Command) (sent : List (Nat × Bytes)) (heard : Bytes) (turn : Turn) :
    Prop :=
  turn.task.stage.EndsIn (Sourced command (sent ++ requests turn.effects) heard)

/-- A turn that can end a command only with an `Outcome.Unanswered`. -/
def Turn.Unanswered (turn : Turn) : Prop :=
  turn.task.stage.EndsIn Outcome.Unanswered

theorem Turn.Unanswered.sources {turn : Turn} (h : turn.Unanswered) (command : Command)
    (sent : List (Nat × Bytes)) (heard : Bytes) : turn.Sources command sent heard :=
  Stage.EndsIn.mono h fun _ => .client

namespace Task

variable {ticket : Ticket} {command : Command} {now : Time} {n : Node} {t : Task}
  {sent : List (Nat × Bytes)} {heard : Bytes}

/-! ### Before the command is sent -/

theorem unanswered_denied {e : PoolError} (hpurpose : t.purpose = .execute command) :
    (t.denied now n e).Unanswered := by
  unfold denied
  rw [hpurpose]
  exact Outcome.unanswered_transportError _

/-- A command that `Task.engage` sends on a connection without octets left over has not ended. -/
theorem unanswered_engage {lease : Lease} (hlent : n.pool.claims.lookup ticket = some (.lent lease))
    (hempty : lease.connection.buffer.contents = []) :
    (t.engage now ticket ticket n command).Unanswered := by
  rw [engage_of_empty hlent hempty]
  trivial

theorem unanswered_admitted {a : Admission} (hpurpose : t.purpose = .execute command)
    (hleaves : a.Leaves (n.pool.claims.lookup ticket)) :
    (t.admitted now ticket n a).Unanswered := by
  cases a with
  | queued | opening => trivial
  | refused => exact unanswered_denied hpurpose
  | lent =>
      obtain ⟨lease, hlent, hempty⟩ := hleaves
      unfold admitted equipped
      rw [hpurpose]
      exact unanswered_engage hlent hempty

theorem unanswered_start (hpurpose : t.purpose = .execute command) (hsound : n.pool.Sound)
    (hnone : n.pool.claims.lookup ticket = none) :
    (t.start now ticket n).Unanswered := by
  unfold start
  rw [hpurpose]
  dsimp only
  split
  · obtain ⟨-, hleaves⟩ : n.pool.Evolves false ticket _ ∧ _ := Pool.evolves_enter hsound hnone
    exact unanswered_admitted (n := { n with pool := _ }) hpurpose hleaves
  · exact .inr rfl

theorem unanswered_connected {link : Nat} (hpurpose : t.purpose = .execute command)
    (hopening : n.pool.claims.lookup ticket = some .opening) (hfresh : n.pool.uses link = 0) :
    (t.connected now ticket n link).Unanswered := by
  obtain ⟨-, hlent⟩ : n.pool.Evolves false ticket (n.pool.opened ticket link) ∧ _ :=
    Pool.evolves_opened hopening hfresh
  unfold connected equipped
  rw [hpurpose]
  exact unanswered_engage (n := { n with pool := n.pool.opened ticket link }) hlent rfl

theorem unanswered_unreachable {e : ConnectionError} (hpurpose : t.purpose = .execute command) :
    (t.unreachable now ticket n e).Unanswered := by
  unfold unreachable
  rw [hpurpose]
  exact unanswered_denied hpurpose

/-! ### While it waits for its answer -/

theorem sources_ended_error {reply : Reply} {e : ConnectionError}
    (hpurpose : t.purpose = .execute command) :
    (t.ended now ticket n reply (.error e)).Sources command sent heard := by
  unfold ended
  rw [hpurpose]
  exact Sourced.client (Outcome.unanswered_transportError _)

/-- After `Task.heard`, with what `Exchange.scan` made of the octets, the command has not ended or
    has a `Sourced` outcome. -/
theorem sources_heard {link : Nat} {base : UInt32} {x : Exchange} {rest : Bytes} {v : Verdict}
    (hpurpose : t.purpose = .execute command) (hsent : sent = [(link, command.encode base)])
    (hscan : (command.exchange base).scan heard = (x, rest, v)) :
    (t.heard now ticket n x v).Sources command sent heard := by
  unfold Task.heard
  cases v with
  | waiting => trivial
  | ended result =>
      cases result with
      | error e => exact sources_ended_error hpurpose
      | ok u =>
          dsimp only [ended]
          rw [hpurpose]
          refine Sourced.server link base ?_ ?_ ?_
          · rw [hsent]
            rfl
          · rw [hscan]
          · rw [hscan]

theorem sources_listen {x : Exchange} {deadline : Time} {arrival? : Option Arrival} {turn : Turn}
    (hpurpose : t.purpose = .execute command) (hstage : t.stage = .talking x deadline)
    (htells : t.stage.Tells command (n.pool.claims.lookup ticket) sent heard)
    (hlistened : t.Listened now ticket arrival? n x deadline turn) :
    turn.Sources command sent (heard ++ t.hears arrival?) := by
  have hholder : t.holder ticket = ticket := holder_of_acquires (by rw [hpurpose]; rfl)
  cases hlistened with
  | interrupted _ _ => exact sources_ended_error hpurpose
  | @heard bs lease harrival hlease =>
      have hhears : t.hears arrival? = bs := by
        rw [harrival]
        exact hears_octets hstage bs
      rw [hstage] at htells
      obtain ⟨link, base, c, hsent, hlent, hscan⟩ := htells
      rw [hholder] at hlease
      obtain rfl : lease = ⟨c, false⟩ :=
        Option.some.inj (hlease.symm.trans (Pool.lease?_eq_some_iff.mpr hlent))
      rw [hhears]
      exact sources_heard hpurpose hsent (Exchange.scan_append_eq_receive bs hscan)

/-! ### Every turn -/

/-- **A turn that ends a command tells where its outcome comes from,** if `Stage.Tells` held of its
    stage before. -/
theorem sources_step {turn : Turn} {arrival? : Option Arrival}
    (hpurpose : t.purpose = .execute command)
    (hsound : n.pool.Sound) (hfits : t.Fits ticket n.pool)
    (htells : t.stage.Tells command (n.pool.claims.lookup ticket) sent heard)
    (hfresh : ∀ link, arrival? = some (.connected link) → n.pool.uses link = 0)
    (hturn : t.step now ticket arrival? n = some turn) :
    turn.Sources command sent (heard ++ t.hears arrival?) := by
  have hholds := (fits_of_acquires (by rw [hpurpose]; rfl)).mp hfits
  cases step_eq_some_iff.mp hturn with
  | begun hstage =>
      rw [hstage] at hholds
      exact (unanswered_start hpurpose hsound hholds).sources ..
  | @resumed _ pool _ hstage hresume =>
      obtain ⟨-, hleaves⟩ : n.pool.Evolves false ticket pool ∧ _ :=
        Pool.evolves_resume hsound hresume
      exact (unanswered_admitted (n := { n with pool := pool }) hpurpose hleaves).sources ..
  | overdue _ _ _ => exact (unanswered_denied hpurpose).sources ..
  | connected hstage harrival =>
      rw [hstage] at hholds
      exact (unanswered_connected hpurpose hholds (hfresh _ harrival)).sources ..
  | refused _ _ | unconnected _ _ _ _ => exact (unanswered_unreachable hpurpose).sources ..
  | listened hstage hlistened => exact sources_listen hpurpose hstage htells hlistened
  | sounded hstage _ | broken hstage _ _ =>
      rw [hstage] at htells
      exact absurd htells id

end Task

/-! ## Courses -/

namespace Task.Course

variable {ticket : Ticket} {command : Command} {n : Node} {t : Task} {effects : List Effect}
  {heard : Bytes} {outcome : Outcome Unit} {reply : Reply}

/-- **At every point of a `Course`** the command has not ended, or its outcome is `Sourced` by the
    requests that were sent and the octets that were heard. -/
theorem sourced (h : Course ticket command n t effects heard) :
    t.stage.EndsIn (Sourced command (requests effects) heard) := by
  induction h with
  | begun hsound hnone => trivial
  | stepped now arrival? h hfresh hturn ih =>
      obtain ⟨hpurpose, hsound, hfits, htells⟩ := h.standing
      have hsources := sources_step hpurpose hsound hfits htells hfresh hturn
      rwa [Turn.Sources, ← requests_append] at hsources
  | others h hk hevolves ih => exact ih

/-- **A status is the client's or the server's; its name tells which, and its number does unless the
    server has sent a `Reserved` one.** Let a `Course` have ended a command on a node, whatever
    others did there and whatever the network delivered. Either its status is `transportError` or
    `nodeDead`, which `Status.isClientSide` knows by the name and whose number is `Reserved`. Or the
    command was sent once, the octets `heard` are packets with nothing behind them, and the status
    is `Command.closingStatus` of the last packet. Then it is not one of the client's names; and its
    number is `Reserved` just if `Packet.status` of that packet is, and the command is not a
    `multiGet`, whose last packet counts as a success whatever its number. -/
theorem status_provenance (h : Course ticket command n t effects heard)
    (hresult : t.result? = some (.executed outcome reply)) :
    ((outcome.report.status = .transportError ∨ outcome.report.status = .nodeDead) ∧
        outcome.report.status.isClientSide = true ∧
        Status.Reserved outcome.report.status.code) ∨
      ∃ link base ps p, requests effects = [(link, command.encode base)] ∧
        Decoder.responses.drain heard = ⟨ps ++ [p], [], none⟩ ∧
        outcome.report.status = command.closingStatus p ∧
        outcome.report.status.isClientSide = false ∧
        (Status.Reserved outcome.report.status.code ↔
          command.isBatch = false ∧ Status.Reserved p.status) := by
  have hends := h.sourced
  rw [stage_of_result? hresult] at hends
  have hsourced : Sourced command (requests effects) heard outcome := hends
  cases hsourced with
  | client hstatus =>
      have hclient : outcome.report.status.isClientSide = true := by
        rcases hstatus with hstatus | hstatus <;> rw [hstatus] <;> rfl
      exact .inl ⟨hstatus, hclient, _, hclient, rfl⟩
  | server link base hsent hscan houtcome =>
      obtain ⟨ps, p, before, hdrain, hdone⟩ := Exchange.closed_scan hscan
      have hreported := Command.status_outcome_of_done (p := { p with tag := p.tag - base }) hdone
      have hstatus : outcome.report.status = command.closingStatus p := by
        rw [houtcome]
        exact hreported
      refine .inr ⟨link, base, ps, p, hsent, hdrain, hstatus, ?_, ?_⟩
      · rw [hstatus]
        exact command.isClientSide_closingStatus p
      · rw [hstatus]
        exact command.reserved_closingStatus_iff p

/-- A server's refusal of a read: a packet with this `Packet.status` and no contents. -/
def refusal (status : UInt16) : Packet :=
  { magic := Magic.response, opcode := Opcode.get, status := status }

/-- A `refusal` is the whole answer to the first `get` on a connection. -/
theorem scan_refusal {key : String} {status : UInt16} (hfailed : status ≠ 0) :
    ((Command.get key).exchange 0).scan (refusal status).encode =
      (⟨.get key, ({} : Reply).absorb (refusal status), 0⟩, [], .ended (.ok ())) := by
  have hparse : Decoder.responses.parse ((refusal status).encode ++ []) =
      .ok (some (refusal status, (refusal status).encode.length)) :=
    Decoder.parse_encode_of_lt [] rfl (Nat.zero_le _) (Nat.two_pow_pos 32) (Nat.two_pow_pos 16)
      (Nat.two_pow_pos 8)
  have hunsuccessful : ¬ (({} : Reply).absorb (refusal status)).status.isOk = true := by
    rw [Reply.status, Reply.status?_absorb, Option.getD_some, Status.isOk_ofWire]
    exact hfailed
  rw [List.append_nil] at hparse
  refine Exchange.scan_of_done (x := (Command.get key).exchange 0) hparse ?_ ?_
  · show ¬ (1 : UInt32) ≤ 0 - 0
    decide
  · show (Command.get key).handle {} (refusal status) = _
    simp only [Command.handle, Command.expecting, if_neg hunsuccessful]
    rfl

/-- A `get` on a new node can be refused with any number but zero. -/
theorem exists_refused {status : UInt16} (hfailed : status ≠ 0) :
    ∃ n t outcome reply, Course 0 (.get "k") n t
        [.dial ⟨"a:1"⟩, .send 1 ((Command.get "k").encode 0)] (refusal status).encode ∧
      t.result? = some (.executed outcome reply) ∧ outcome.report.status = .ofWire status := by
  have hscan : ((Command.get "k").exchange 0).scan (refusal status).encode =
      (⟨.get "k", ({} : Reply).absorb (refusal status), 0⟩, [], .ended (.ok ())) :=
    scan_refusal hfailed
  have hok : (((Command.get "k").exchange 0).scan (refusal status).encode).2.2 =
      .ended (.ok ()) := by rw [hscan]
  obtain ⟨n, t, hcourse, hresult⟩ := exists_answered ⟨"a:1"⟩ {} .failImmediately 0 1 hok
  refine ⟨n, t, _, _, hcourse, hresult, ?_⟩
  rw [hscan]
  exact Node.status_outcome (Reply.status?_absorb ..) Status.ofWire_eq_ok

/-- A read that finds no such key reports the server's status, whose number is not `Reserved`. -/
theorem status_provenance_notFound :
    ∃ n t outcome reply, Course 0 (.get "k") n t
        [.dial ⟨"a:1"⟩, .send 1 ((Command.get "k").encode 0)] (refusal 1).encode ∧
      t.result? = some (.executed outcome reply) ∧ outcome.report.status.isClientSide = false ∧
      ¬ Status.Reserved outcome.report.status.code := by
  obtain ⟨n, t, outcome, reply, hcourse, hresult, hstatus⟩ :=
    exists_refused (show (1 : UInt16) ≠ 0 by decide)
  have hunreserved : ¬ Status.Reserved outcome.report.status.code := by
    rw [hstatus, Status.reserved_iff]
    decide
  refine ⟨n, t, outcome, reply, hcourse, hresult, ?_, hunreserved⟩
  rcases status_provenance hcourse hresult with
    ⟨-, -, hreserved⟩ | ⟨_, _, _, _, -, -, -, hserver, -⟩
  · exact absurd hreserved hunreserved
  · exact hserver

/-- So the number alone does not tell: a server has refused a `get` with `0xff01`, the number of
    `Status.transportError`. -/
theorem reserved_status_of_server :
    ¬ ∀ (ticket : Ticket) (command : Command) (n : Node) (t : Task) (effects : List Effect)
      (heard : Bytes) (outcome : Outcome Unit) (reply : Reply),
      Course ticket command n t effects heard → t.result? = some (.executed outcome reply) →
      Status.Reserved outcome.report.status.code → outcome.report.status.isClientSide = true := by
  intro hclaim
  obtain ⟨n, t, outcome, reply, hcourse, hresult, hstatus⟩ :=
    exists_refused (show (0xff01 : UInt16) ≠ 0 by decide)
  have hclient := hclaim _ _ _ _ _ _ _ _ hcourse hresult (by
    rw [hstatus, Status.reserved_iff]
    decide)
  rw [hstatus, Status.isClientSide_ofWire] at hclient
  contradiction

end Task.Course

end Memcache
