import Mathlib
import Memcache.Node
import Memcache.Proofs.Connection.Isolation

/-!
# `Memcache.Proofs.Connection.Closing` — the packet that ends an answer

`Command.handle` is done with a command at one packet of its answer, and this packet decides what is
reported: its status becomes `Reply.status?`, and `Node.outcome` of a complete reply has the status
of the reply. There is one exception. A `Command.multiGet` is closed by a no-op whose status
`Command.handleBatch` does not look at, so an error that the server reports there is taken for a
success.

## Contents

* `Status.isOk_ofWire`, `Status.isClientSide_ofWire` — what the number of a server can mean;
* `Command.closingStatus`, `Command.status?_of_done` — the status that a last packet leaves;
* `Closed` — readings of which the last one ends a command; `Exchange.closed_digest`,
  `Connection.closed_perform` — **a command that succeeds was ended by the last packet it was
  given**;
* `Connection.status_perform` — **the status of the closing packet is the one that is reported**,
  except for a batched read; `Connection.status_perform_refusedBatch` — the error that is lost.
-/

namespace Memcache

/-! ## Statuses of servers -/

namespace Status

@[simp] theorem ofWire_zero : ofWire 0 = .ok := rfl

/-- Only the number 0 is a success, `Status.isOk`. -/
@[simp] theorem isOk_ofWire (code : UInt16) : (ofWire code).isOk = true ↔ code = 0 := by
  rw [isOk, code_ofWire, beq_iff_eq]

/-- No number of a server stands for an ending that only the client knows of
    (`Status.isClientSide`). -/
theorem isClientSide_ofWire (code : UInt16) : (ofWire code).isClientSide = false := by
  unfold ofWire
  repeat' split
  all_goals rfl

/-- A number of a server that is a success goes by the name `Status.ok`. -/
theorem ofWire_eq_ok {code : UInt16} (h : (ofWire code).isOk = true) : ofWire code = .ok := by
  rw [(isOk_ofWire code).mp h, ofWire_zero]

end Status

/-! ## One packet -/

theorem Reply.status?_absorb (r : Reply) (p : Packet) :
    (r.absorb p).status? = some (.ofWire p.status) := by
  unfold Reply.absorb
  dsimp only
  split <;> rfl

namespace Command

variable {c : Command} {opcode : UInt8} {before reply : Reply} {p : Packet}

/-- A packet of another operation does not end a command, by `expecting`. -/
theorem of_expecting_done {body : Handled}
    (h : expecting opcode p before body = (reply, .ok .done)) : body = (reply, .ok .done) := by
  unfold expecting at h
  split at h
  · exact h
  · cases h

/-- The status that a command reports if `p` is the last packet of its answer. The no-op behind a
    `Command.multiGet` counts as a success whatever its status. -/
def closingStatus (c : Command) (p : Packet) : Status :=
  match c with
  | .multiGet _ => .ok
  | _ => .ofWire p.status

/-- True for `Command.multiGet`. -/
def isBatch : Command → Bool
  | .multiGet _ => true
  | _ => false

theorem isClientSide_closingStatus (c : Command) (p : Packet) :
    (c.closingStatus p).isClientSide = false := by
  cases c with
  | multiGet keys => rfl
  | _ => exact Status.isClientSide_ofWire p.status

theorem closingStatus_eq_ok (h : (c.closingStatus p).isOk = true) : c.closingStatus p = .ok := by
  cases c with
  | multiGet keys => rfl
  | _ => exact Status.ofWire_eq_ok h

/-- A batched read alone reports something other than the status of the packet, and only if the
    packet reports an error. -/
theorem closingStatus_eq_ofWire_iff :
    c.closingStatus p = .ofWire p.status ↔ c.isBatch = false ∨ p.status = 0 := by
  cases c with
  | multiGet keys =>
      have hok : Status.ok = .ofWire p.status ↔ p.status = 0 := by
        constructor
        · intro h
          have hisOk : (Status.ofWire p.status).isOk = true := by rw [← h]; rfl
          exact (Status.isOk_ofWire _).mp hisOk
        · intro h
          rw [h, Status.ofWire_zero]
      simpa [closingStatus, isBatch] using hok
  | _ => simp [closingStatus, isBatch]

theorem status?_of_handleStatus (h : handleStatus opcode p before = (reply, .ok .done)) :
    reply.status? = some (.ofWire p.status) := by
  have hbody : (before.absorb p, _) = (reply, _) := of_expecting_done h
  obtain rfl := (Prod.mk.inj hbody).1
  exact Reply.status?_absorb before p

theorem status?_of_handleBatch {keys : List String}
    (h : handleBatch keys p before = (reply, .ok .done)) : reply.status? = some .ok := by
  unfold handleBatch at h
  repeat' split at h
  all_goals cases h
  rfl

theorem status?_of_handleStat (h : handleStat p before = (reply, .ok .done)) :
    reply.status? = some (.ofWire p.status) := by
  unfold handleStat at h
  split at h
  · obtain rfl := (Prod.mk.inj h).1
    exact Reply.status?_absorb before p
  · next hzero =>
      split at h
      · obtain rfl := (Prod.mk.inj h).1
        rw [not_not.mp hzero]
        rfl
      · cases h

theorem status?_of_get {key : String}
    (h : (Command.get key).handle before p = (reply, .ok .done)) :
    reply.status? = some (.ofWire p.status) := by
  have hbody := of_expecting_done h
  dsimp only at hbody
  repeat' split at hbody
  all_goals cases hbody
  all_goals exact Reply.status?_absorb before p

/-- A counter change that succeeds has brought `Reply.counter?`. -/
theorem status?_of_mutate {mode : MutateMode} {key : String} {initial delta cas : UInt64}
    {expires : UInt32}
    (h : (Command.mutate mode key initial delta expires cas).handle before p =
      (reply, .ok .done)) :
    reply.status? = some (.ofWire p.status) ∧
      (reply.status.isOk = true → reply.counter?.isSome = true) := by
  have hbody := of_expecting_done h
  dsimp only at hbody
  split at hbody
  · split at hbody
    · cases hbody
    · obtain rfl := (Prod.mk.inj hbody).1
      exact ⟨Reply.status?_absorb before p, fun _ => rfl⟩
  · next hfailed =>
      obtain rfl := (Prod.mk.inj hbody).1
      exact ⟨Reply.status?_absorb before p, fun hok => absurd hok hfailed⟩

/-- **The status of the last packet is the status of the reply**, as `Command.closingStatus` has
    it. -/
theorem status?_of_done (h : c.handle before p = (reply, .ok .done)) :
    reply.status? = some (c.closingStatus p) := by
  cases c with
  | get key => exact status?_of_get h
  | multiGet keys => exact status?_of_handleBatch h
  | mutate mode key initial delta expires cas => exact (status?_of_mutate h).1
  | stats filter =>
      have hbody : handleStat p before = (reply, .ok .done) := of_expecting_done h
      exact status?_of_handleStat hbody
  | store _ _ _ _ _ | concat _ _ _ _ | delete _ _ | flush _ | noop =>
      exact status?_of_handleStatus h

end Command

/-! ## The closing packet -/

/-- The last of the readings `rs` ends the command, and leaves this `reply`. -/
def Closed (command : Command) (r : Reply) (rs : List Reading) (reply : Reply) : Prop :=
  ∃ before received p, rs = before ++ [⟨received, some p⟩] ∧
    command.handle (replay command r before) p = (reply, .ok .done)

/-- What was read first is part of the answer. -/
theorem Closed.append {command : Command} {r : Reply} {rs rs' : List Reading} {reply : Reply}
    (h : Closed command (replay command r rs) rs' reply) :
    Closed command r (rs ++ rs') reply := by
  obtain ⟨before, received, p, rfl, hdone⟩ := h
  exact ⟨rs ++ before, received, p, (List.append_assoc ..).symm, by rwa [replay_append]⟩

namespace Exchange

/-- **A digest that ends a command with success ends it with the last packet it gave**
    (`Exchange.readings`). -/
theorem closed_digest {x : Exchange} {b : ReceiveBuffer}
    (hok : (x.digest b).2.2 = .ended (.ok ())) :
    Closed x.command x.reply (x.readings b) (x.digest b).1.reply := by
  fun_induction digest x b with
  | case1 x b e hfront => cases hok
  | case2 x b hfront => cases hok
  | case3 x b p n hfront place hspan => cases hok
  | case4 x b p n hfront place hspan handled x' e hhandled => cases hok
  | case5 x b p n hfront place hspan handled x' hhandled ih =>
      have hrest : Closed x.command
          (replay x.command x.reply [⟨p, some { p with tag := place }⟩]) (x'.readings (b.use n))
          (x'.digest (b.use n)).1.reply := ih hok
      rw [readings_of_more hfront hspan hhandled]
      exact hrest.append
  | case6 x b p n hfront place hspan handled x' hhandled left =>
      have hend : handled.2 ≠ .ok .more := by simp [hhandled]
      rw [readings_of_end hfront hspan hend]
      exact ⟨[], p, _, rfl, Prod.ext rfl hhandled⟩

/-- A command that has ended reads nothing more in `Exchange.follow`, so its last packet is the last
    of all. -/
theorem closed_of_ended {x x' : Exchange} {c : Connection} {rs : List Reading}
    {result : Except ConnectionError Unit} {reads : List Bytes}
    (hclosed : Closed x.command x.reply rs x'.reply) :
    Closed x.command x.reply (rs ++ x'.followed c (.ended result) reads)
      (x'.follow c (.ended result) reads).1.reply := by
  rw [follow_ended, followed_ended, List.append_nil]
  exact hclosed

/-- Over many reads, too, a command that succeeds was ended by the last packet it was given
    (`Exchange.followed`). -/
theorem closed_follow {x : Exchange} {c : Connection} {reads : List Bytes}
    (hok : (x.follow c .waiting reads).2.2 = .ended (.ok ())) :
    Closed x.command x.reply (x.followed c .waiting reads)
      (x.follow c .waiting reads).1.reply := by
  induction reads generalizing x c with
  | nil => cases hok
  | cons bs reads ih =>
      have hfst := receive_fst x c bs
      rw [follow] at hok
      rw [followed, follow]
      dsimp only at hok ⊢
      cases hverdict : (x.receive c bs).2.2 with
      | waiting =>
          rw [hverdict] at hok
          have hrest := ih hok
          rw [hfst] at hrest ⊢
          exact hrest.append
      | ended result =>
          rw [hverdict, follow_ended] at hok
          have hclosed : Closed x.command x.reply (x.readings (c.buffer.makeRoom.push bs))
              (x.receive c bs).1.reply := closed_digest (hverdict.trans hok)
          exact closed_of_ended hclosed

end Exchange

namespace Connection

/-- **A command that succeeds in `Connection.perform` was ended by the last packet it was
    given.** -/
theorem closed_perform {c : Connection} {t : Trial}
    (hok : (c.perform t).2.verdict = .ended (.ok ())) :
    Closed t.command {} (c.perform t).2.readings (c.perform t).2.reply := by
  unfold perform at hok ⊢
  cases hreads : t.reads? with
  | none =>
      rw [hreads] at hok
      cases hok
  | some reads =>
      rw [hreads] at hok
      dsimp only at hok ⊢
      have hbegin := c.begin_exchange t.command
      cases hverdict : (c.begin t.command).2.2.1 with
      | waiting =>
          rw [hverdict] at hok
          have hrest := Exchange.closed_follow hok
          rw [hbegin] at hrest ⊢
          exact hrest.append
      | ended result =>
          rw [hverdict, Exchange.follow_ended] at hok
          have hclosed : Closed t.command {}
              ({ command := t.command, base := c.nextTag : Exchange }.readings c.buffer)
              (c.begin t.command).2.1.reply := Exchange.closed_digest (hverdict.trans hok)
          exact Exchange.closed_of_ended (x := { command := t.command, base := c.nextTag }) hclosed

end Connection

/-! ## What is reported -/

/-- The `Node.outcome` of a complete reply has the status of the reply. -/
theorem Node.status_outcome {reply : Reply} {s : Status} (hstatus : reply.status? = some s)
    (hname : s.isOk = true → s = .ok) : (Node.outcome reply).report.status = s := by
  have hs : reply.status = s := by rw [Reply.status, hstatus, Option.getD_some]
  unfold Node.outcome
  rw [hs]
  split
  · next hok => exact (hname hok).symm
  · next hfailed => simp [Outcome.fail, Report.failed, Report.status, hfailed]

/-- What `Node.outcome` makes of a reply that a last packet has completed has the packet's status,
    as far as the command looks at it (`Command.closingStatus`). -/
theorem Command.status_outcome_of_done {c : Command} {before reply : Reply} {p : Packet}
    (h : c.handle before p = (reply, .ok .done)) :
    (Node.outcome reply).report.status = c.closingStatus p :=
  Node.status_outcome (status?_of_done h) closingStatus_eq_ok

namespace Connection

/-- **The status of the closing packet is the one that is reported** by `Node.outcome`, over every
    connection, for every command and whatever arrives. Only for a batched read it is not
    (`Command.closingStatus`): what closes one is reported as a success, also if it carries an
    error. -/
theorem status_perform (c : Connection) (t : Trial)
    (hok : (c.perform t).2.verdict = .ended (.ok ())) :
    ∃ before received p, (c.perform t).2.readings = before ++ [⟨received, some p⟩] ∧
      t.command.handle (replay t.command {} before) p = ((c.perform t).2.reply, .ok .done) ∧
      (Node.outcome (c.perform t).2.reply).report.status = t.command.closingStatus p ∧
      (t.command.closingStatus p = .ofWire p.status ↔
        t.command.isBatch = false ∨ p.status = 0) := by
  obtain ⟨before, received, p, hreadings, hdone⟩ := closed_perform hok
  exact ⟨before, received, p, hreadings, hdone, Command.status_outcome_of_done hdone,
    Command.closingStatus_eq_ofWire_iff⟩

/-- The closing packet of a batched read for one key, if the server does not know the command. -/
def unknownNoop : Packet :=
  { magic := Magic.response, opcode := Opcode.noop, status := 0x0081, tag := 1 }

/-- A batched read on a new connection, with nothing but `unknownNoop` as its answer. -/
def refusedBatch : Trial :=
  ⟨.multiGet ["k"], some [unknownNoop.encode]⟩

theorem verdict_refusedBatch :
    ({ link := 0 : Connection }.perform refusedBatch).2.verdict = .ended (.ok ()) := by
  cbv

/-- The command is done with `unknownNoop`. -/
theorem status_perform_refusedBatch :
    ({ link := 0 : Connection }.perform refusedBatch).2.verdict = .ended (.ok ()) ∧
      ∃ before received p,
        ({ link := 0 : Connection }.perform refusedBatch).2.readings =
            before ++ [⟨received, some p⟩] ∧
          (Node.outcome ({ link := 0 : Connection }.perform refusedBatch).2.reply).report.status =
            refusedBatch.command.closingStatus p := by
  obtain ⟨before, received, p, hreadings, -, hstatus, -⟩ :=
    status_perform _ refusedBatch verdict_refusedBatch
  exact ⟨verdict_refusedBatch, before, received, p, hreadings, hstatus⟩

/-- **An error that closes a batched read is lost**: `unknownNoop`, the last packet of the answer,
    carries one, and what is reported is a success. So it is not true that the status of the closing
    packet is always the one that is reported. -/
theorem refusedBatch_succeeds :
    ¬ ∀ (c : Connection) (t : Trial), (c.perform t).2.verdict = .ended (.ok ()) →
      ∀ before received p, (c.perform t).2.readings = before ++ [⟨received, some p⟩] →
        (Node.outcome (c.perform t).2.reply).report.status = .ofWire p.status := by
  intro hclaim
  have hreadings : ({ link := 0 : Connection }.perform refusedBatch).2.readings =
      [] ++ [⟨unknownNoop, some unknownNoop⟩] := by cbv
  have hstatus :=
    hclaim _ refusedBatch verdict_refusedBatch [] unknownNoop unknownNoop hreadings
  have hpassed : (Node.outcome ({ link := 0 : Connection }.perform refusedBatch).2.reply).report =
      .pass 0 := by cbv
  rw [hpassed] at hstatus
  cases hstatus

end Connection

end Memcache
