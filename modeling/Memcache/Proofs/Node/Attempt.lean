import Mathlib
import Memcache.Proofs.Connection.Closing
import Memcache.Proofs.Node.Stepping

/-!
# `Memcache.Proofs.Node.Attempt` — how an attempt ends, and what its node hears of it

A command on a node (`Purpose.execute`) and the start of a node (`Purpose.warmUp`) are attempts:
their ends are what `Node.policy` goes by. Here every step of such a task is taken apart once, into
what it reports and what the node makes of it. A command reports that its node is dead, or that
there was no complete reply, or what the server made of it; nothing else is reported (`Reported`).
The policy hears of an attempt, by `Node.record`, when it ends and not before, and otherwise a step
changes nothing of the node but its `Node.pool`.

## Contents

* `Reported` — what a command can report; `Stage.Reports` — what a task has reported so far;
* `TaskResult.verdict?`, `Turn.Accounts` — what the policy hears of a turn, and what the node makes
  of it;
* `Task.attempts_step` — **every step of an attempt keeps to its report, and accounts for it**;
* `Task.step_dead` — **a command on a dead node ends at once and touches nothing**;
* `Task.Run`, `Task.Run.reported` — the same over any number of steps;
* `FailurePolicy.condemns`, `Node.hear`, `Node.record_eq` — the two halves of recording an end;
* `Task.advance`, `Task.death_of_advance` — the turns of an attempt on a node that may have died
  since; **one kills a live node only as a failure that the policy finds one too many**.
-/

namespace Memcache

/-! ## The address of a pool -/

namespace Pool

@[simp] theorem endpoint_freePermit (p : Pool) : p.freePermit.endpoint = p.endpoint := by
  unfold freePermit
  split <;> rfl

@[simp] theorem endpoint_surrender (p : Pool) (t : Ticket) :
    (p.surrender t).endpoint = p.endpoint :=
  endpoint_freePermit _

@[simp] theorem endpoint_stock (p : Pool) (c : Connection) :
    (p.stock c).endpoint = p.endpoint := by
  unfold stock
  split <;> rfl

@[simp] theorem endpoint_release (p : Pool) (t : Ticket) : (p.release t).endpoint = p.endpoint := by
  unfold release
  split
  · rfl
  · rw [endpoint_surrender]
    split <;> simp

@[simp] theorem endpoint_withdraw (p : Pool) (t : Ticket) :
    (p.withdraw t).endpoint = p.endpoint := by
  unfold withdraw
  split <;> simp

@[simp] theorem endpoint_settle (p : Pool) (t : Ticket) (success : Bool) :
    (p.settle t success).endpoint = p.endpoint := by
  unfold settle
  split <;> rfl

@[simp] theorem endpoint_proceed (p : Pool) (t : Ticket) :
    (p.proceed t).1.endpoint = p.endpoint := by
  unfold proceed
  split <;> rfl

@[simp] theorem endpoint_enter (p : Pool) (t : Ticket) : (p.enter t).1.endpoint = p.endpoint := by
  unfold enter
  split
  · rfl
  · split
    · rfl
    · rw [endpoint_proceed]

theorem endpoint_resume {p : Pool} {t : Ticket} {answer : Pool × Admission}
    (h : p.resume t = some answer) : answer.1.endpoint = p.endpoint := by
  cases resume_eq_some_iff.mp h with
  | granted _ _ => exact endpoint_proceed p t
  | refused _ _ => exact endpoint_surrender p t
  | dismissed _ _ => rfl

end Pool

/-! ## Complete replies -/

namespace Exchange

/-- If this is where the command stands after its last packet, then `Command.handle` was done with
    that. -/
def Completes (x : Exchange) (v : Verdict) : Prop :=
  v = .ended (.ok ()) → ∃ before p, x.command.handle before p = (x.reply, .ok .done)

theorem command_digest (x : Exchange) (b : ReceiveBuffer) :
    (x.digest b).1.command = x.command := by
  rw [digest_fst]

theorem completes_digest (x : Exchange) (b : ReceiveBuffer) :
    (x.digest b).1.Completes (x.digest b).2.2 := by
  intro hok
  obtain ⟨before, received, p, -, hdone⟩ := closed_digest hok
  exact ⟨_, p, by rw [command_digest]; exact hdone⟩

end Exchange

/-! ## Reports -/

/-- The tasks whose end `Node.policy` hears of: those of `Purpose.execute` and `Purpose.warmUp`. -/
inductive Purpose.IsAttempt : Purpose → Prop where
  | execute (command : Command) : IsAttempt (.execute command)
  | start : IsAttempt (.warmUp true)

/-- **What a command can report**, given the `reply` that was read of its answer. -/
inductive Reported (command : Command) (outcome : Outcome Unit) (reply : Reply) : Prop where
  /-- Its node is dead, and nothing was read. -/
  | turnedAway (message : String) (houtcome : outcome = .fail .nodeDead message)
  /-- There was no complete reply. -/
  | failed (message : String) (houtcome : outcome = .fail .transportError message)
  /-- What `Node.outcome` makes of a reply that the packet `p` has completed. -/
  | answered (before : Reply) (p : Packet) (hdone : command.handle before p = (reply, .ok .done))
      (houtcome : outcome = Node.outcome reply)

/-- What a task with this `Purpose` has reported so far, if it is an attempt. -/
def Stage.Reports (purpose : Purpose) : Stage → Prop
  | .fresh | .dialling _ => True
  | .queued _ => ∃ command, purpose = .execute command
  | .talking x _ => purpose = .execute x.command
  | .finished (.executed outcome reply) =>
    ∃ command, purpose = .execute command ∧ Reported command outcome reply
  | .finished (.warmed _) => purpose = .warmUp true
  | .probing _ _ _ | .finished _ => False

/-- What `Node.policy` hears of a status. A complete reply is a success whatever it says; that a
    node is dead is no news. -/
def Status.verdict? : Status → Option Bool
  | .nodeDead => none
  | .transportError => some false
  | _ => some true

theorem Status.verdict?_of_server {s : Status} (h : s.isClientSide = false) :
    s.verdict? = some true := by
  cases s <;> first | rfl | contradiction

/-- What `Node.policy` hears of the end of an attempt. -/
def TaskResult.verdict? : TaskResult → Option Bool
  | .executed outcome _ => outcome.report.status.verdict?
  | .warmed (.error _) => some false
  | _ => none

/-- What `Node.policy` hears of a turn. -/
def Turn.verdict? (turn : Turn) : Option Bool :=
  turn.task.result?.bind TaskResult.verdict?

/-- What the node makes of a turn: `Node.record` of how the attempt ended, if it has ended. -/
def Turn.Accounts (now : Time) (n : Node) (turn : Turn) : Prop :=
  (turn.node, turn.event?) =
    match turn.verdict? with
    | some success => n.record now success
    | none => (n, none)

/-- A turn of an attempt: it keeps to its report (`Stage.Reports`), changes the pool, and is
    accounted for (`Turn.Accounts`). -/
structure Turn.Attempts (now : Time) (n : Node) (purpose : Purpose) (turn : Turn) : Prop where
  reports : turn.task.stage.Reports purpose
  accounts : ∃ pool : Pool, pool.endpoint = n.pool.endpoint ∧
    turn.Accounts now { n with pool := pool }
  purpose : turn.task.purpose = purpose

namespace Turn.Attempts

variable {now : Time} {n : Node} {purpose : Purpose} {turn : Turn}

/-- What was done to the pool before the turn counts as part of it. -/
theorem after {pool : Pool} (h : turn.Attempts now { n with pool := pool } purpose)
    (hpool : pool.endpoint = n.pool.endpoint) : turn.Attempts now n purpose := by
  obtain ⟨q, hq, haccounts⟩ := h.accounts
  exact ⟨h.reports, ⟨q, hq.trans hpool, haccounts⟩, h.purpose⟩

/-- What is sent, `Turn.effects`, makes no difference. -/
theorem sending (h : turn.Attempts now n purpose) (effects : List Effect) :
    Turn.Attempts now n purpose { turn with effects := effects } :=
  ⟨h.reports, h.accounts, h.purpose⟩

/-- A turn that ends nothing leaves the node as it is. -/
theorem waiting {t : Task} (effects : List Effect) (hpurpose : t.purpose = purpose)
    (hreports : t.stage.Reports purpose) (hverdict : t.result?.bind TaskResult.verdict? = none) :
    Turn.Attempts now n purpose { node := n, task := t, effects := effects } := by
  refine ⟨hreports, ⟨n.pool, rfl, ?_⟩, hpurpose⟩
  unfold Turn.Accounts Turn.verdict?
  rw [hverdict]

end Turn.Attempts

/-- The policy hears of a complete reply as a success (`TaskResult.verdict?`). -/
theorem Reported.verdict?_answered {command : Command} {before reply : Reply} {p : Packet}
    (hdone : command.handle before p = (reply, .ok .done)) :
    TaskResult.verdict? (.executed (Node.outcome reply) reply) = some true := by
  have hserver := command.isClientSide_closingStatus p
  rw [← Command.status_outcome_of_done hdone] at hserver
  exact Status.verdict?_of_server hserver

namespace Task

variable {ticket : Ticket} {command : Command} {now : Time} {n : Node} {t : Task}

/-! ## Ends -/

theorem attempts_account {purpose : Purpose} {success : Bool} {result : TaskResult}
    (hpurpose : t.purpose = purpose) (hreports : (Stage.finished result).Reports purpose)
    (hverdict : result.verdict? = some success) :
    (t.account now n success result).Attempts now n purpose := by
  refine ⟨hreports, ⟨n.pool, rfl, ?_⟩, hpurpose⟩
  have hheard : (t.account now n success result).verdict? = some success := hverdict
  unfold Turn.Accounts
  rw [hheard]
  rfl

/-- A command that got no complete reply, and reports `Status.transportError`. -/
theorem attempts_failed {message : String} {reply : Reply}
    (hpurpose : t.purpose = .execute command) :
    (t.account now n false (.executed (.fail .transportError message) reply)).Attempts now n
      (.execute command) :=
  attempts_account hpurpose ⟨command, rfl, .failed message rfl⟩ rfl

theorem attempts_denied {e : PoolError} (hpurpose : t.purpose = .execute command) :
    (t.denied now n e).Attempts now n (.execute command) := by
  unfold denied
  rw [hpurpose]
  exact attempts_failed hpurpose

/-- **The end of a command is a success just if its reply is complete** (`Exchange.Completes`). -/
theorem attempts_ended {x : Exchange} {result : Except ConnectionError Unit}
    (hpurpose : t.purpose = .execute x.command) (hcompletes : x.Completes (.ended result)) :
    (t.ended now ticket n x.reply result).Attempts now n (.execute x.command) := by
  have hback (success : Bool) :
      ((n.pool.settle ticket success).release ticket).endpoint = n.pool.endpoint := by simp
  unfold ended
  rw [hpurpose]
  cases result with
  | ok u =>
      obtain ⟨before, p, hdone⟩ := hcompletes rfl
      have hreported : Reported x.command (Node.outcome x.reply) x.reply :=
        .answered before p hdone rfl
      exact Turn.Attempts.after (attempts_account hpurpose ⟨x.command, rfl, hreported⟩
        (Reported.verdict?_answered hdone)) (hback _)
  | error e => exact Turn.Attempts.after (attempts_failed hpurpose) (hback _)

/-! ## Talking -/

theorem attempts_heard {x : Exchange} {v : Verdict} (hpurpose : t.purpose = .execute x.command)
    (hcompletes : x.Completes v) :
    (t.heard now ticket n x v).Attempts now n (.execute x.command) := by
  cases v with
  | waiting => exact .waiting [] hpurpose rfl rfl
  | ended result => exact attempts_ended hpurpose hcompletes

/-- Going on after the packets that `Exchange.digest` has found complete. -/
theorem attempts_digested {x : Exchange} (b : ReceiveBuffer)
    (hpurpose : t.purpose = .execute x.command) :
    (t.heard now ticket n (x.digest b).1 (x.digest b).2.2).Attempts now n
      (.execute x.command) := by
  have hcommand := x.command_digest b
  rw [← hcommand] at hpurpose ⊢
  exact attempts_heard hpurpose (x.completes_digest b)

theorem attempts_engage (hpurpose : t.purpose = .execute command) :
    (t.engage now ticket ticket n command).Attempts now n (.execute command) := by
  unfold engage
  split
  · -- the connection is no longer there: nothing is sent, and nothing was read
    have hcompletes : Exchange.Completes { command := command, base := 0 }
        (.ended (.error .closed)) := nofun
    exact attempts_ended (x := { command := command, base := 0 }) hpurpose hcompletes
  · next lease hlease =>
      let x : Exchange := { command := command, base := lease.connection.nextTag }
      let pool := n.pool.putLease ticket ⟨(lease.connection.begin command).1, false⟩
      have hdigested : (t.heard now ticket { n with pool := pool }
          (x.digest lease.connection.buffer).1 (x.digest lease.connection.buffer).2.2).Attempts now
          { n with pool := pool } (.execute command) :=
        attempts_digested (x := x) lease.connection.buffer hpurpose
      exact (hdigested.after rfl).sending _

theorem attempts_listen {turn : Turn} {arrival? : Option Arrival} {x : Exchange} {deadline : Time}
    (hpurpose : t.purpose = .execute x.command)
    (hlistened : t.Listened now ticket arrival? n x deadline turn) :
    turn.Attempts now n (.execute x.command) := by
  cases hlistened with
  | heard _ _ => exact Turn.Attempts.after (attempts_digested _ hpurpose) rfl
  | interrupted _ _ => exact attempts_ended hpurpose nofun

/-! ## Connecting -/

theorem attempts_dial {purpose : Purpose} (hpurpose : t.purpose = purpose) :
    (t.dial now n).Attempts now n purpose :=
  .waiting _ hpurpose trivial rfl

theorem attempts_equipped (hpurpose : t.purpose = .execute command) :
    (t.equipped now ticket n).Attempts now n (.execute command) := by
  unfold equipped
  rw [hpurpose]
  exact attempts_engage hpurpose

theorem attempts_admitted {a : Admission} (hpurpose : t.purpose = .execute command) :
    (t.admitted now ticket n a).Attempts now n (.execute command) := by
  cases a with
  | queued => exact .waiting [] hpurpose ⟨command, rfl⟩ rfl
  | lent => exact attempts_equipped hpurpose
  | opening => exact attempts_dial hpurpose
  | refused => exact attempts_denied hpurpose

theorem attempts_acquire (hpurpose : t.purpose = .execute command) :
    (t.acquire now ticket n).Attempts now n (.execute command) :=
  (attempts_admitted hpurpose).after (Pool.endpoint_enter ..)

theorem attempts_stockUp (hpurpose : t.purpose = .warmUp true) :
    (t.stockUp now n).Attempts now n (.warmUp true) := by
  unfold stockUp
  split
  · exact attempts_dial hpurpose
  · exact .waiting [] hpurpose rfl rfl

theorem attempts_connected {purpose : Purpose} {link : Nat} (hpurpose : t.purpose = purpose)
    (hattempt : purpose.IsAttempt) : (t.connected now ticket n link).Attempts now n purpose := by
  unfold connected
  rw [hpurpose]
  cases hattempt with
  | execute command =>
      exact Turn.Attempts.after (attempts_equipped hpurpose) rfl
  | start =>
      have hnext : Task.purpose { t with purpose := .warmUp true, opened := t.opened + 1 } =
          .warmUp true := rfl
      exact Turn.Attempts.after (attempts_stockUp hnext) (Pool.endpoint_stock ..)

theorem attempts_unreachable {purpose : Purpose} {e : ConnectionError}
    (hpurpose : t.purpose = purpose) (hattempt : purpose.IsAttempt) :
    (t.unreachable now ticket n e).Attempts now n purpose := by
  unfold unreachable
  rw [hpurpose]
  cases hattempt with
  | execute command => exact (attempts_denied hpurpose).after (Pool.endpoint_withdraw ..)
  | start => exact attempts_account hpurpose rfl rfl

/-! ## Steps -/

/-- **A command on a dead node ends at once and touches nothing**: the node stays as it is, the
    network is asked for nothing, and the outcome is `Node.deadOutcome`. -/
theorem step_dead {arrival? : Option Arrival} (hpurpose : t.purpose = .execute command)
    (hfresh : t.stage = .fresh) (hdead : n.alive = false) :
    t.step now ticket arrival? n =
      some { node := n, task := t.finish (.executed n.deadOutcome {}) } := by
  rw [step_eq_some_iff.mpr (.begun hfresh), start, hpurpose]
  dsimp only
  rw [if_neg (by rw [hdead]; exact Bool.false_ne_true)]

theorem attempts_dead (hpurpose : t.purpose = .execute command) :
    Turn.Attempts now n (.execute command)
      { node := n, task := t.finish (.executed n.deadOutcome {}) } :=
  .waiting [] hpurpose ⟨command, rfl, .turnedAway _ rfl⟩ rfl

theorem attempts_start {purpose : Purpose} (hpurpose : t.purpose = purpose)
    (hattempt : purpose.IsAttempt) : (t.start now ticket n).Attempts now n purpose := by
  unfold start
  rw [hpurpose]
  cases hattempt with
  | execute command =>
      dsimp only
      split
      · exact attempts_acquire hpurpose
      · exact attempts_dead hpurpose
  | start => exact attempts_stockUp hpurpose

/-- **Every `Task.step` of an attempt keeps to its report, and accounts for it**
    (`Turn.Attempts`). -/
theorem attempts_step {turn : Turn} {arrival? : Option Arrival} (hattempt : t.purpose.IsAttempt)
    (hreports : t.stage.Reports t.purpose) (hturn : t.step now ticket arrival? n = some turn) :
    turn.Attempts now n t.purpose := by
  cases step_eq_some_iff.mp hturn with
  | begun _ => exact attempts_start rfl hattempt
  | resumed hstage hresume =>
      rw [hstage] at hreports
      obtain ⟨command, hpurpose⟩ := hreports
      rw [hpurpose]
      exact (attempts_admitted hpurpose).after (Pool.endpoint_resume hresume)
  | overdue hstage _ _ =>
      rw [hstage] at hreports
      obtain ⟨command, hpurpose⟩ := hreports
      rw [hpurpose]
      exact (attempts_denied hpurpose).after (Pool.endpoint_withdraw ..)
  | connected _ _ => exact attempts_connected rfl hattempt
  | refused _ _ | unconnected _ _ _ _ => exact attempts_unreachable rfl hattempt
  | @listened x _ _ hstage hlistened =>
      rw [hstage] at hreports
      have hpurpose : t.purpose = .execute x.command := hreports
      rw [hpurpose]
      exact attempts_listen hpurpose hlistened
  | sounded hstage _ | broken hstage _ _ =>
      rw [hstage] at hreports
      exact absurd hreports id

/-! ## Runs -/

/-- The task of a command after some steps. In which state each `Task.step` finds the node, and what
    the network delivers then, is open. -/
inductive Run (ticket : Ticket) (command : Command) : Task → Prop where
  | begun : Run ticket command { purpose := .execute command }
  | stepped {t : Task} {turn : Turn} (now : Time) (arrival? : Option Arrival) (n : Node)
      (h : Run ticket command t) (hturn : t.step now ticket arrival? n = some turn) :
      Run ticket command turn.task

theorem Run.reports {ticket : Ticket} {command : Command} {t : Task}
    (h : Run ticket command t) :
    t.purpose = .execute command ∧ t.stage.Reports (.execute command) := by
  induction h with
  | begun => exact ⟨rfl, trivial⟩
  | stepped now arrival? n _ hturn ih =>
      obtain ⟨hpurpose, hreports⟩ := ih
      have hattempts := attempts_step (by rw [hpurpose]; exact .execute command)
        (by rwa [hpurpose]) hturn
      rw [hpurpose] at hattempts
      exact ⟨hattempts.purpose, hattempts.reports⟩

theorem stage_of_result? {result : TaskResult} (h : t.result? = some result) :
    t.stage = .finished result := by
  unfold result? at h
  split at h
  · next ended hstage => rw [hstage, Option.some.inj h]
  · contradiction

/-- **Whatever it went through, a command reports one of the three** (`Reported`). -/
theorem Run.reported {ticket : Ticket} {command : Command} {t : Task} {outcome : Outcome Unit}
    {reply : Reply} (h : Run ticket command t)
    (hresult : t.result? = some (.executed outcome reply)) : Reported command outcome reply := by
  obtain ⟨-, hreports⟩ := h.reports
  rw [stage_of_result? hresult] at hreports
  obtain ⟨other, hsame, hreported⟩ := hreports
  obtain rfl := Purpose.execute.inj hsame
  exact hreported

end Task

/-! ## The two halves of recording an end -/

namespace FailurePolicy

/-- The end of an attempt is a failure, and one too many for `FailurePolicy.shouldMarkDead`. -/
def condemns (now : Time) (success : Bool) (p : FailurePolicy) : Bool :=
  !success && (p.record now success).shouldMarkDead

/-- The policy after it heard of an end. It starts afresh, by `FailurePolicy.reset`, if that was one
    failure too many. -/
def next (now : Time) (success : Bool) (p : FailurePolicy) : FailurePolicy :=
  if p.condemns now success then (p.record now success).reset else p.record now success

/-- A success changes nothing, and takes no node out of use. -/
theorem next_of_success (now : Time) (p : FailurePolicy) : p.next now true = p :=
  rfl

theorem condemns_of_success (now : Time) (p : FailurePolicy) : p.condemns now true = false :=
  rfl

end FailurePolicy

namespace Node

/-- The policy of the node hears of an end. -/
def hear (now : Time) (success : Bool) (n : Node) : Node :=
  { n with policy := n.policy.next now success }

/-- **What `Node.record` does is to let the policy hear of an end, and then to take the node out of
    use if that was one failure too many** (`FailurePolicy.condemns`). -/
theorem record_eq (now : Time) (success : Bool) (n : Node) :
    n.record now success =
      if n.policy.condemns now success then (n.hear now success).markDead now
      else (n.hear now success, none) := by
  unfold record hear FailurePolicy.next
  show (if n.policy.condemns now success then _ else _) = _
  split
  · rfl
  · rfl

end Node

/-! ## Attempts that are under way -/

namespace Task

/-- A task whose end the policy hears of, and that has kept to its report (`Stage.Reports`). -/
structure Attempting (t : Task) : Prop where
  purpose : t.purpose.IsAttempt
  reports : t.stage.Reports t.purpose

/-- A step of an attempt. A command that has found its node alive asks for a connection also if
    `Node.alive` was cleared since. -/
def advance (now : Time) (ticket : Ticket) (arrival? : Option Arrival) (n : Node) (t : Task) :
    Option Turn :=
  match t.purpose, t.stage with
  | .execute _, .fresh => some (t.acquire now ticket n)
  | _, _ => t.step now ticket arrival? n

variable {now : Time} {ticket : Ticket} {arrival? : Option Arrival} {n : Node} {t : Task}

/-- On a live node, and after the first step of the task, it is `Task.step`. -/
theorem advance_eq_step (h : n.alive = true ∨ t.stage ≠ .fresh) :
    t.advance now ticket arrival? n = t.step now ticket arrival? n := by
  unfold advance
  split
  · next command hpurpose hstage =>
      have halive : n.alive = true := h.resolve_right fun hne => hne hstage
      rw [step_eq_some_iff.mpr (.begun hstage), start, hpurpose]
      dsimp only
      rw [if_pos halive]
  · rfl

/-- The start asks for nothing first. -/
theorem advance_warmUp {counted : Bool} (hpurpose : t.purpose = .warmUp counted) :
    t.advance now ticket arrival? n = t.step now ticket arrival? n := by
  unfold advance
  rw [hpurpose]

theorem attempts_advance {turn : Turn} (h : t.Attempting)
    (hturn : t.advance now ticket arrival? n = some turn) : turn.Attempts now n t.purpose := by
  unfold advance at hturn
  split at hturn
  · next command hpurpose hstage =>
      obtain rfl := Option.some.inj hturn
      rw [hpurpose]
      exact attempts_acquire hpurpose
  · exact attempts_step h.purpose h.reports hturn

theorem Attempting.reports_of_result? {result : TaskResult} (h : t.Attempting)
    (hresult : t.result? = some result) : (Stage.finished result).Reports t.purpose := by
  rw [← stage_of_result? hresult]
  exact h.reports

theorem Attempting.of_attempts {turn : Turn} (h : t.Attempting)
    (hattempts : turn.Attempts now n t.purpose) : turn.task.Attempting :=
  ⟨hattempts.purpose ▸ h.purpose, hattempts.purpose ▸ hattempts.reports⟩

theorem Attempting.step {turn : Turn} (h : t.Attempting)
    (hturn : t.step now ticket arrival? n = some turn) : turn.task.Attempting :=
  h.of_attempts (attempts_step h.purpose h.reports hturn)

theorem Attempting.advance {turn : Turn} (h : t.Attempting)
    (hturn : t.advance now ticket arrival? n = some turn) : turn.task.Attempting :=
  h.of_attempts (attempts_advance h hturn)

end Task

namespace TaskResult

/-- The end of a command with a complete reply, by `Node.outcome`. -/
def Complete : TaskResult → Prop
  | .executed outcome reply => outcome = Node.outcome reply ∧
      ∃ (command : Command) (before : Reply) (p : Packet),
        command.handle before p = (reply, .ok .done)
  | _ => False

/-- The end of a command with `Status.transportError`, or of a start that did not reach its
    server. -/
def Failure : TaskResult → Prop
  | .executed outcome _ => ∃ message, outcome = .fail .transportError message
  | .warmed (.error _) => True
  | _ => False

theorem Complete.verdict? {result : TaskResult} (h : result.Complete) :
    result.verdict? = some true := by
  cases result with
  | executed outcome reply =>
      obtain ⟨rfl, command, before, p, hdone⟩ := h
      exact Reported.verdict?_answered hdone
  | borrowed _ | ran _ _ | probed _ | warmed _ => exact absurd h id

/-- The policy hears of nothing but complete replies and failures (`TaskResult.Failure`). -/
theorem failure_of_verdict? {result : TaskResult} {purpose : Purpose}
    (hreports : (Stage.finished result).Reports purpose) (h : result.verdict? = some false) :
    result.Failure := by
  cases result with
  | executed outcome reply =>
      obtain ⟨command, -, hreported⟩ := hreports
      cases hreported with
      | turnedAway message houtcome =>
          rw [houtcome] at h
          cases h
      | failed message houtcome => exact ⟨message, houtcome⟩
      | answered before p hdone houtcome =>
          rw [houtcome, Reported.verdict?_answered hdone] at h
          cases h
  | warmed result =>
      cases result with
      | ok n => cases h
      | error e => exact trivial
  | borrowed _ | ran _ _ | probed _ => exact absurd hreports id

end TaskResult

/-- **A live node dies in a turn only if that is the end of a failed attempt, and only if
    `FailurePolicy.shouldMarkDead` then says so.** -/
theorem Task.death_of_advance {now : Time} {ticket : Ticket} {arrival? : Option Arrival} {n : Node}
    {t : Task} {turn : Turn} (h : t.Attempting)
    (hturn : t.advance now ticket arrival? n = some turn) (halive : n.alive = true)
    (hdead : turn.node.alive = false) :
    ∃ result, turn.task.result? = some result ∧ result.Failure ∧
      (n.policy.record now false).shouldMarkDead = true := by
  obtain ⟨pool, -, haccounts⟩ := (attempts_advance h hturn).accounts
  have hlives : turn.node.alive ≠ n.alive := by
    rw [halive, hdead]
    exact Bool.false_ne_true
  unfold Turn.Accounts at haccounts
  cases hverdict : turn.verdict? with
  | none =>
      rw [hverdict] at haccounts
      exact absurd (congrArg (·.1.alive) haccounts) hlives
  | some success =>
      rw [hverdict] at haccounts
      dsimp only at haccounts
      rw [Node.record_eq] at haccounts
      split at haccounts
      · next hcondemns =>
          cases success with
          | true => cases hcondemns
          | false =>
              obtain ⟨result, hresult, hheard⟩ := Option.bind_eq_some_iff.mp hverdict
              have hreports := (h.advance hturn).reports_of_result? hresult
              exact ⟨result, hresult, TaskResult.failure_of_verdict? hreports hheard, hcondemns⟩
      · exact absurd (congrArg (·.1.alive) haccounts) hlives

end Memcache
