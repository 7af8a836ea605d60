import Mathlib
import Memcache.Proofs.Node.Attempt
import Memcache.Proofs.Pool.Workload

/-!
# `Memcache.Proofs.Node.Lifecycle` — the life of a node under a listener

A node lives and dies while any number of attempts on it are under way: commands that began while
`Node.alive` was set end when it has long been cleared, or is set again. An attempt that fails is
heard by the policy first (`FailurePolicy.record`), and if `FailurePolicy.shouldMarkDead` finds that
it is one failure too many the node is taken out of use after that, so something else may happen in
between. `Lifecycle` is a node with its attempts, with the failures that are still to take it out of
use, and with what its listener has heard; `Lifecycle.Step` is any one thing that happens to it, at
any time of the clock.

## Contents

* `Act`, `Lifecycle`, `Lifecycle.Step` — what can happen, and by what;
* `Lifecycle.steps_of_step` — **a step made in one go is one of the runs**;
* `Lifecycle.Inv`, `Lifecycle.inv_step` — what stays true;
* `Lifecycle.lawful` — **announcements alternate, and a node dies of nothing but a call or its
  failures**.
-/

namespace Memcache

/-! ## Lives -/

/-- A failure that was one too many: which attempt, when, how it ended, and what the policy had
    heard before. -/
structure Sentence where
  ticket : Ticket
  time : Time
  result : TaskResult
  policy : FailurePolicy

/-- It was a `TaskResult.Failure`, and `FailurePolicy.shouldMarkDead` then said so. -/
structure Sentence.ByPolicy (sentence : Sentence) : Prop where
  failure : sentence.result.Failure
  policy : (sentence.policy.record sentence.time false).shouldMarkDead = true

/-- What can happen to a node. -/
inductive Act where
  /-- A command is called, and finds `Node.alive` set. -/
  | called (ticket : Ticket) (command : Command)
  /-- A command is called, and finds `Node.alive` cleared; what it asks of the network, and its
      result. -/
  | turnedAway (ticket : Ticket) (command : Command) (effects : List Effect)
      (result? : Option TaskResult)
  /-- The start is called. -/
  | begun (ticket : Ticket)
  /-- An attempt goes on, and the policy hears nothing (`Turn.verdict?`). -/
  | went (ticket : Ticket)
  /-- An attempt ends, and the policy hears of it (`Turn.verdict?`). -/
  | ended (ticket : Ticket) (result : TaskResult)
  /-- A failure that was one too many takes the node out of use, by `Node.markDead`. -/
  | struck (sentence : Sentence)
  | markedDead
  | markedAlive
  /-- An attempt is given up, by `Task.withdraw`. -/
  | givenUp (ticket : Ticket)
  /-- Something else is done to the pool, or to `Node.deadSince?`. -/
  | aside

/-- A node under a listener, with the attempts on it in `tasks`. -/
structure Lifecycle where
  node : Node
  /-- The attempts that have not ended, `Task.Attempting`. -/
  tasks : Table Ticket Task := []
  /-- Failures that have not taken the node out of use yet. -/
  condemned : List Sentence := []
  /-- What the listener has heard, the oldest first. -/
  events : List NodeEvent := []

namespace Lifecycle

/-- A new node with `Node.listening`. -/
def start (endpoint : Endpoint) (settings : PoolSettings) (policy : PolicyChoice) : Lifecycle :=
  { node := { Node.new endpoint settings policy with listening := true } }

/-- The state after a change of the node and its announcement, as of `Node.markDead` and
    `Node.markAlive`. -/
def mark (s : Lifecycle) (marked : Node × Option NodeEvent) : Lifecycle :=
  { s with node := marked.1, events := s.events ++ marked.2.toList }

/-- The state after a turn of a task. -/
def turned (s : Lifecycle) (ticket : Ticket) (turn : Turn) : Lifecycle :=
  { s.mark (turn.node, turn.event?) with tasks := turn.tasks ticket s.tasks }

/-- The failures to come, after the policy heard of an end: one more if the policy condemns it. -/
def sentences (s : Lifecycle) (now : Time) (ticket : Ticket) (success : Bool)
    (result : TaskResult) : List Sentence :=
  if s.node.policy.condemns now success then
    s.condemned ++ [⟨ticket, now, result, s.node.policy⟩]
  else s.condemned

/-- **One thing that happens to a node**, at any time. -/
inductive Step (s : Lifecycle) : Act → Lifecycle → Prop where
  | called {ticket : Ticket} (command : Command) (hfree : s.tasks.lookup ticket = none)
      (halive : s.node.alive = true) :
      Step s (.called ticket command)
        { s with tasks := s.tasks.insert ticket { purpose := .execute command } }
  | turnedAway {ticket : Ticket} {command : Command} (now : Time) (arrival? : Option Arrival)
      {turn : Turn} (hfree : s.tasks.lookup ticket = none) (hdead : s.node.alive = false)
      (hturn : Task.step now ticket arrival? s.node { purpose := .execute command } = some turn) :
      Step s (.turnedAway ticket command turn.effects turn.task.result?) (s.turned ticket turn)
  | begun {ticket : Ticket} (hfree : s.tasks.lookup ticket = none) :
      Step s (.begun ticket) { s with tasks := s.tasks.insert ticket { purpose := .warmUp true } }
  | went {ticket : Ticket} {task : Task} {turn : Turn} (now : Time) (arrival? : Option Arrival)
      (htask : s.tasks.lookup ticket = some task)
      (hturn : task.advance now ticket arrival? s.node = some turn)
      (hverdict : turn.verdict? = none) : Step s (.went ticket) (s.turned ticket turn)
  /-- The policy hears of the end, by `Node.hear`. If it was one failure too many, what becomes of
      the node is still to come. -/
  | ended {ticket : Ticket} {task : Task} {turn : Turn} {result : TaskResult} {success : Bool}
      {pool : Pool} (now : Time) (arrival? : Option Arrival)
      (htask : s.tasks.lookup ticket = some task)
      (hturn : task.advance now ticket arrival? s.node = some turn)
      (hresult : turn.task.result? = some result) (hverdict : result.verdict? = some success)
      (hpool : pool.endpoint = s.node.pool.endpoint)
      (haccounts : (turn.node, turn.event?) =
        { s.node with pool := pool }.record now success) :
      Step s (.ended ticket result)
        { s with
          node := { s.node with pool := pool }.hear now success
          tasks := turn.tasks ticket s.tasks
          condemned := s.sentences now ticket success result }
  | struck {before after : List Sentence} {sentence : Sentence} (now : Time)
      (hcondemned : s.condemned = before ++ sentence :: after) :
      Step s (.struck sentence)
        { s.mark (s.node.markDead now) with condemned := before ++ after }
  | markedDead (now : Time) : Step s .markedDead (s.mark (s.node.markDead now))
  | markedAlive : Step s .markedAlive (s.mark s.node.markAlive)
  | givenUp {ticket : Ticket} {task : Task} (htask : s.tasks.lookup ticket = some task) :
      Step s (.givenUp ticket)
        { s with node := task.withdraw ticket s.node, tasks := s.tasks.erase ticket }
  | aside (pool : Pool) (deadSince? : Option Time) (hpool : pool.endpoint = s.node.pool.endpoint) :
      Step s .aside { s with node := { s.node with pool := pool, deadSince? := deadSince? } }

/-- Any number of things that happen. -/
def Steps : Lifecycle → Lifecycle → Prop :=
  Relation.ReflTransGen fun s s' => ∃ act, s.Step act s'

/-! ## What stays true -/

/-- What a listener hears in the place `i`: `NodeEvent.failed` and `NodeEvent.revived` in turn. -/
def announcement (endpoint : Endpoint) (i : Nat) : NodeEvent :=
  if i % 2 = 0 then .failed endpoint else .revived endpoint

/-- Announcements alternate and begin with a failure; `Node.alive` is set just if as many revivals
    as failures were announced; the attempts keep to their reports (`Task.Attempting`); and no
    failure is to take the node out of use that is not `Sentence.ByPolicy`. -/
structure Inv (endpoint : Endpoint) (s : Lifecycle) : Prop where
  listening : s.node.listening = true
  address : s.node.pool.endpoint = endpoint
  events : s.events = (List.range s.events.length).map (announcement endpoint)
  alive : s.node.alive = true ↔ s.events.length % 2 = 0
  tasks : ∀ ticket task, s.tasks.lookup ticket = some task → task.Attempting
  condemned : ∀ sentence ∈ s.condemned, sentence.ByPolicy

variable {endpoint : Endpoint} {s s' : Lifecycle} {now : Time} {ticket : Ticket}

theorem inv_start (endpoint : Endpoint) (settings : PoolSettings) (policy : PolicyChoice) :
    (start endpoint settings policy).Inv endpoint where
  listening := rfl
  address := rfl
  events := rfl
  alive := ⟨fun _ => rfl, fun _ => rfl⟩
  tasks := by
    intro ticket task htask
    contradiction
  condemned := fun _ hmem => absurd hmem List.not_mem_nil

/-- A change of nothing but `Node.pool`, `Node.policy` and the attempts. -/
theorem Inv.quiet (h : s.Inv endpoint) (halive : s'.node.alive = s.node.alive)
    (hlistening : s'.node.listening = s.node.listening)
    (haddress : s'.node.pool.endpoint = s.node.pool.endpoint) (hevents : s'.events = s.events)
    (htasks : ∀ ticket task, s'.tasks.lookup ticket = some task → task.Attempting)
    (hcondemned : ∀ sentence ∈ s'.condemned, sentence.ByPolicy) : s'.Inv endpoint where
  listening := hlistening.trans h.listening
  address := haddress.trans h.address
  events := by rw [hevents, ← h.events]
  alive := by rw [halive, hevents, h.alive]
  tasks := htasks
  condemned := hcondemned

/-- One more announcement, which is the one that is due. -/
theorem events_snoc {events : List NodeEvent} {event : NodeEvent}
    (h : events = (List.range events.length).map (announcement endpoint))
    (hevent : event = announcement endpoint events.length) :
    events ++ [event] =
      (List.range (events ++ [event]).length).map (announcement endpoint) := by
  rw [List.length_append, List.length_singleton, List.range_succ, List.map_append, ← h, hevent]
  rfl

/-- The flag `Node.alive` flips, and the announcement that is due is made. -/
theorem Inv.flip (h : s.Inv endpoint) {n : Node} {event : Endpoint → NodeEvent}
    (hflip : n.alive = !s.node.alive) (hlistening : n.listening = s.node.listening)
    (haddress : n.pool.endpoint = s.node.pool.endpoint)
    (hevent : event endpoint = announcement endpoint s.events.length) :
    (s.mark (n, s.node.announce event)).Inv endpoint := by
  have hannounce : s.node.announce event = some (event endpoint) := by
    unfold Node.announce Node.endpoint
    rw [if_pos h.listening, h.address]
  have halive : n.alive = true ↔ (s.events ++ [event endpoint]).length % 2 = 0 := by
    have hodd : n.alive = true ↔ ¬ s.events.length % 2 = 0 := by
      rw [hflip, ← h.alive, Bool.not_eq_true, Bool.not_eq_true']
    rw [hodd, List.length_append, List.length_singleton]
    omega
  rw [hannounce]
  exact ⟨hlistening.trans h.listening, haddress.trans h.address, events_snoc h.events hevent,
    halive, h.tasks, h.condemned⟩

/-- A node that `Node.markDead` takes out of use says so, and one that is dead already does not. -/
theorem Inv.markDead (h : s.Inv endpoint) (now : Time) :
    (s.mark (s.node.markDead now)).Inv endpoint := by
  unfold Node.markDead
  split
  · next halive =>
      have hevent : NodeEvent.failed endpoint = announcement endpoint s.events.length := by
        unfold announcement
        rw [if_pos (h.alive.mp halive)]
      exact h.flip (by rw [halive]; rfl) rfl rfl hevent
  · exact h.quiet rfl rfl rfl (List.append_nil _) h.tasks h.condemned

/-- A node that `Node.markAlive` puts back into use says so, and one that is alive already does
    not. -/
theorem Inv.markAlive (h : s.Inv endpoint) : (s.mark s.node.markAlive).Inv endpoint := by
  unfold Node.markAlive
  split
  · exact h.quiet rfl rfl rfl (List.append_nil _) h.tasks h.condemned
  · next hdead =>
      have hevent : NodeEvent.revived endpoint = announcement endpoint s.events.length := by
        unfold announcement
        rw [if_neg fun heven => hdead (h.alive.mpr heven)]
      exact h.flip (by rw [Bool.not_eq_true _ |>.mp hdead]; rfl) rfl rfl hevent

/-- A new attempt. -/
theorem Inv.tasks_insert (h : s.Inv endpoint) {task : Task} (htask : task.Attempting) :
    ∀ t other, (s.tasks.insert ticket task).lookup t = some other → other.Attempting := by
  intro t other hother
  rw [Table.lookup_insert] at hother
  split at hother
  · obtain rfl := Option.some.inj hother
    exact htask
  · exact h.tasks t other hother

/-- An attempt that went on. -/
theorem Inv.tasks_turned (h : s.Inv endpoint) {turn : Turn} (hturn : turn.task.Attempting) :
    ∀ t other, (turn.tasks ticket s.tasks).lookup t = some other → other.Attempting := by
  intro t other hother
  by_cases hticket : t = ticket
  · subst hticket
    obtain rfl := Turn.eq_of_lookup_tasks hother
    exact hturn
  · rw [Turn.lookup_tasks_of_ne hticket] at hother
    exact h.tasks t other hother

/-- A turn that changes nothing of the node but its `Node.pool`. -/
theorem Inv.turned (h : s.Inv endpoint) {turn : Turn} {pool : Pool}
    (hpool : pool.endpoint = s.node.pool.endpoint)
    (hnode : turn.node = { s.node with pool := pool }) (hevent : turn.event? = none)
    (hattempting : turn.task.Attempting) : (s.turned ticket turn).Inv endpoint := by
  unfold Lifecycle.turned
  rw [hnode, hevent]
  exact h.quiet rfl rfl hpool (List.append_nil _) (h.tasks_turned hattempting) h.condemned

/-- **A command on a dead node leaves everything as it was**, and reports `Node.deadOutcome`. -/
theorem turned_dead {command : Command} {arrival? : Option Arrival} {turn : Turn}
    (hdead : s.node.alive = false)
    (hturn : Task.step now ticket arrival? s.node { purpose := .execute command } = some turn) :
    turn.node = s.node ∧ turn.event? = none ∧ turn.effects = [] ∧
      turn.task.result? = some (.executed s.node.deadOutcome {}) := by
  rw [Task.step_dead rfl rfl hdead] at hturn
  obtain rfl := Option.some.inj hturn
  exact ⟨rfl, rfl, rfl, rfl⟩

/-- A turn of which the policy hears nothing (`Turn.verdict?`) changes nothing but the pool. -/
theorem quiet_turn {task : Task} {arrival? : Option Arrival} {turn : Turn} (h : task.Attempting)
    (hturn : task.advance now ticket arrival? s.node = some turn)
    (hverdict : turn.verdict? = none) :
    ∃ pool : Pool, pool.endpoint = s.node.pool.endpoint ∧
      turn.node = { s.node with pool := pool } ∧ turn.event? = none := by
  obtain ⟨pool, hpool, haccounts⟩ := (Task.attempts_advance h hturn).accounts
  unfold Turn.Accounts at haccounts
  rw [hverdict] at haccounts
  obtain ⟨hnode, hevent⟩ := Prod.mk.inj haccounts
  exact ⟨pool, hpool, hnode, hevent⟩

/-- The failures to come are `Sentence.ByPolicy`, if those before them are. -/
theorem byPolicy_sentences (h : s.Inv endpoint) {success : Bool} {result : TaskResult}
    {purpose : Purpose} (hreports : (Stage.finished result).Reports purpose)
    (hverdict : result.verdict? = some success) :
    ∀ sentence ∈ s.sentences now ticket success result, sentence.ByPolicy := by
  intro sentence hmem
  unfold sentences at hmem
  split at hmem
  · next hcondemns =>
      rcases List.mem_append.mp hmem with hbefore | hnew
      · exact h.condemned sentence hbefore
      · obtain rfl := List.mem_singleton.mp hnew
        cases success with
        | true => cases hcondemns
        | false => exact ⟨TaskResult.failure_of_verdict? hreports hverdict, hcondemns⟩
  · exact h.condemned sentence hmem

/-- Giving an attempt up by `Task.withdraw` leaves its node as it is, but for the pool. -/
theorem withdraw_eq (task : Task) (ticket : Ticket) (n : Node) :
    ∃ pool : Pool, pool.endpoint = n.pool.endpoint ∧
      task.withdraw ticket n = { n with pool := pool } := by
  unfold Task.withdraw
  split
  · exact ⟨_, Pool.endpoint_withdraw .., rfl⟩
  · exact ⟨_, Pool.endpoint_withdraw .., rfl⟩
  · exact ⟨n.pool, rfl, rfl⟩

/-- **The invariant holds after everything that happens** (`Lifecycle.Step`). -/
theorem inv_step {act : Act} (h : s.Inv endpoint) (hstep : s.Step act s') : s'.Inv endpoint := by
  cases hstep with
  | called command hfree halive =>
      exact h.quiet rfl rfl rfl rfl (h.tasks_insert ⟨.execute command, trivial⟩) h.condemned
  | begun hfree => exact h.quiet rfl rfl rfl rfl (h.tasks_insert ⟨.start, trivial⟩) h.condemned
  | @turnedAway ticket command now arrival? turn hfree hdead hturn =>
      obtain ⟨hnode, hevent, -, -⟩ := turned_dead hdead hturn
      have hattempting : Task.Attempting { purpose := .execute command } :=
        ⟨.execute command, trivial⟩
      exact h.turned rfl hnode hevent (hattempting.step hturn)
  | went now arrival? htask hturn hverdict =>
      have hattempting := h.tasks _ _ htask
      obtain ⟨pool, hpool, hnode, hevent⟩ := quiet_turn hattempting hturn hverdict
      exact h.turned hpool hnode hevent (hattempting.advance hturn)
  | @ended ticket task turn result success pool now arrival? htask hturn hresult hverdict hpool
      haccounts =>
      have hattempting := (h.tasks _ _ htask).advance hturn
      exact h.quiet rfl rfl hpool rfl (h.tasks_turned hattempting)
        (byPolicy_sentences h (hattempting.reports_of_result? hresult) hverdict)
  | struck now hcondemned =>
      have hmarked := h.markDead now
      refine ⟨hmarked.listening, hmarked.address, hmarked.events, hmarked.alive, h.tasks, ?_⟩
      intro sentence hmem
      apply h.condemned
      rw [hcondemned]
      rcases List.mem_append.mp hmem with hbefore | hafter
      · exact List.mem_append_left _ hbefore
      · exact List.mem_append_right _ (List.mem_cons_of_mem _ hafter)
  | markedDead now => exact h.markDead now
  | markedAlive => exact h.markAlive
  | @givenUp ticket task htask =>
      obtain ⟨pool, hpool, hnode⟩ := withdraw_eq task ticket s.node
      have htasks : ∀ t other, (s.tasks.erase ticket).lookup t = some other →
          other.Attempting := by
        intro t other hother
        rw [Table.lookup_erase] at hother
        split at hother
        · contradiction
        · exact h.tasks t other hother
      rw [hnode]
      exact h.quiet rfl rfl hpool rfl htasks h.condemned
  | aside pool deadSince? hpool => exact h.quiet rfl rfl hpool rfl h.tasks h.condemned

theorem inv_steps (h : s.Inv endpoint) (hsteps : s.Steps s') : s'.Inv endpoint := by
  induction hsteps with
  | refl => exact h
  | tail _ hstep ih =>
      obtain ⟨act, hstep⟩ := hstep
      exact inv_step ih hstep

/-! ## Steps made in one go -/

/-- **A turn that is made in one go is one of the runs**: the policy hears of the end, and if that
    was one failure too many it takes the node out of use at once (`Node.record_eq`). -/
theorem steps_of_turn {task : Task} {turn : Turn} (now : Time) (arrival? : Option Arrival)
    (h : s.Inv endpoint) (htask : s.tasks.lookup ticket = some task)
    (hturn : task.advance now ticket arrival? s.node = some turn) :
    s.Steps (s.turned ticket turn) := by
  cases hverdict : turn.verdict? with
  | none => exact .single ⟨_, .went now arrival? htask hturn hverdict⟩
  | some success =>
      obtain ⟨pool, hpool, haccounts⟩ :=
        (Task.attempts_advance (h.tasks _ _ htask) hturn).accounts
      obtain ⟨result, hresult, hresultVerdict⟩ := Option.bind_eq_some_iff.mp hverdict
      unfold Turn.Accounts at haccounts
      rw [hverdict] at haccounts
      dsimp only at haccounts
      have hended := Step.ended now arrival? htask hturn hresult hresultVerdict hpool haccounts
      rw [Node.record_eq] at haccounts
      unfold sentences at hended
      unfold turned
      rw [haccounts]
      cases hcondemns : s.node.policy.condemns now success with
      | true =>
          rw [if_pos hcondemns] at hended
          rw [if_pos rfl]
          have hstruck := Step.struck (s := { s with
            node := { s.node with pool := pool }.hear now success
            tasks := turn.tasks ticket s.tasks
            condemned := s.condemned ++ [⟨ticket, now, result, s.node.policy⟩] }) now rfl
          rw [List.append_nil] at hstruck
          exact .tail (.single ⟨_, hended⟩) ⟨_, hstruck⟩
      | false =>
          rw [if_neg (by rw [hcondemns]; exact Bool.false_ne_true)] at hended
          rw [if_neg Bool.false_ne_true]
          have hsame : s.mark ({ s.node with pool := pool }.hear now success, none) =
              { s with node := { s.node with pool := pool }.hear now success } := by
            unfold mark
            rw [Option.toList_none, List.append_nil]
          rw [hsame]
          exact .single ⟨_, hended⟩

/-- What becomes of a task does not depend on whether it had been noted. -/
theorem turned_insert (s : Lifecycle) (ticket : Ticket) (turn : Turn) (task : Task) :
    { s with tasks := s.tasks.insert ticket task }.turned ticket turn = s.turned ticket turn := by
  have htasks : turn.tasks ticket (s.tasks.insert ticket task) = turn.tasks ticket s.tasks := by
    unfold Turn.tasks
    split
    · exact Table.erase_insert ..
    · exact Table.insert_insert ..
  unfold turned
  rw [htasks]
  rfl

/-- **And so is the first step of an attempt**, with the look at `Node.alive`. -/
theorem steps_of_step {purpose : Purpose} {turn : Turn} (now : Time) (arrival? : Option Arrival)
    (h : s.Inv endpoint) (hfree : s.tasks.lookup ticket = none) (hattempt : purpose.IsAttempt)
    (hturn : Task.step now ticket arrival? s.node { purpose := purpose } = some turn) :
    s.Steps (s.turned ticket turn) := by
  have hnoted : Table.lookup ticket (s.tasks.insert ticket { purpose := purpose }) =
      some { purpose := purpose } := by
    rw [Table.lookup_insert, if_pos rfl]
  rw [← turned_insert s ticket turn { purpose := purpose }]
  cases hattempt with
  | execute command =>
      cases halive : s.node.alive with
      | true =>
          have hcalled := Step.called command hfree halive
          rw [← Task.advance_eq_step (.inl halive)] at hturn
          have hrest := steps_of_turn now arrival? (inv_step h hcalled) hnoted hturn
          exact .head ⟨_, hcalled⟩ hrest
      | false =>
          rw [turned_insert]
          exact .single ⟨_, .turnedAway now arrival? hfree halive hturn⟩
  | start =>
      have hbegun := Step.begun hfree
      rw [← Task.advance_warmUp rfl] at hturn
      have hrest := steps_of_turn now arrival? (inv_step h hbegun) hnoted hturn
      exact .head ⟨_, hbegun⟩ hrest

/-! ## The law of a node's life -/

/-- **What a step may do to a node.** -/
structure Lawful (s : Lifecycle) (act : Act) (s' : Lifecycle) : Prop where
  /-- A live node dies of a call, or of a failure that was `Act.struck`. -/
  death : s.node.alive = true → s'.node.alive = false →
    act = .markedDead ∨ ∃ sentence ∈ s.condemned, act = .struck sentence ∧ sentence.ByPolicy
  /-- Only the end of an attempt is one failure too many, and only if `FailurePolicy.shouldMarkDead`
      says so then. -/
  sentence : ∀ sentence ∈ s'.condemned, sentence ∈ s.condemned ∨
    act = .ended sentence.ticket sentence.result ∧ sentence.policy = s.node.policy ∧ sentence.ByPolicy
  /-- A complete reply changes nothing of what is known against the node (`TaskResult.Complete`). -/
  reply : ∀ ticket result, act = .ended ticket result → result.Complete →
    s'.node.alive = s.node.alive ∧ s'.node.policy = s.node.policy ∧
      s'.condemned = s.condemned ∧ s'.events = s.events
  /-- A command on a dead node ends at once, and touches neither the node nor the network. -/
  dead : ∀ ticket command, s.node.alive = false →
    (∀ effects result?, act = .turnedAway ticket command effects result? →
      s'.node = s.node ∧ effects = [] ∧ result? = some (.executed s.node.deadOutcome {})) ∧
    act ≠ .called ticket command

theorem death_of_step {act : Act} (h : s.Inv endpoint) (hstep : s.Step act s')
    (halive : s.node.alive = true) (hdead : s'.node.alive = false) :
    act = .markedDead ∨ ∃ sentence ∈ s.condemned, act = .struck sentence ∧ sentence.ByPolicy := by
  -- everything but the two leaves a live node alive
  have hlives : s'.node.alive ≠ s.node.alive := by
    rw [halive, hdead]
    exact Bool.false_ne_true
  cases hstep with
  | markedDead now => exact .inl rfl
  | @struck before after sentence now hcondemned =>
      have hmem : sentence ∈ s.condemned := by
        rw [hcondemned]
        exact List.mem_append_right _ List.mem_cons_self
      exact .inr ⟨sentence, hmem, rfl, h.condemned sentence hmem⟩
  | called _ _ _ | begun _ | ended _ _ _ _ _ _ _ _ | aside _ _ _ => exact absurd rfl hlives
  | turnedAway now arrival? hfree hdead' hturn =>
      rw [halive] at hdead'
      contradiction
  | went now arrival? htask hturn hverdict =>
      obtain ⟨pool, -, hnode, -⟩ := quiet_turn (h.tasks _ _ htask) hturn hverdict
      exact absurd (congrArg Node.alive hnode) hlives
  | @givenUp ticket task htask =>
      obtain ⟨pool, -, hnode⟩ := withdraw_eq task ticket s.node
      exact absurd (congrArg Node.alive hnode) hlives
  | markedAlive =>
      have hsame : s.node.markAlive = (s.node, none) := if_pos halive
      exact absurd (congrArg (·.1.alive) hsame) hlives

theorem sentence_of_step {act : Act} (h : s.Inv endpoint) (hstep : s.Step act s')
    {sentence : Sentence} (hmem : sentence ∈ s'.condemned) :
    sentence ∈ s.condemned ∨ act = .ended sentence.ticket sentence.result ∧
      sentence.policy = s.node.policy ∧ sentence.ByPolicy := by
  have hbyPolicy := (inv_step h hstep).condemned sentence hmem
  cases hstep with
  | called _ _ _ | begun _ | turnedAway _ _ _ _ _ | went _ _ _ _ _ | markedDead _ | markedAlive
  | givenUp _ | aside _ _ _ => exact .inl hmem
  | ended now arrival? htask hturn hresult hverdict hpool haccounts =>
      have hsentences : sentence ∈ s.sentences now _ _ _ := hmem
      unfold sentences at hsentences
      split at hsentences
      · rcases List.mem_append.mp hsentences with hbefore | hnew
        · exact .inl hbefore
        · obtain rfl := List.mem_singleton.mp hnew
          exact .inr ⟨rfl, rfl, hbyPolicy⟩
      · exact .inl hsentences
  | struck now hcondemned =>
      rw [hcondemned]
      rcases List.mem_append.mp hmem with hbefore | hafter
      · exact .inl (List.mem_append_left _ hbefore)
      · exact .inl (List.mem_append_right _ (List.mem_cons_of_mem _ hafter))

theorem reply_of_step {result : TaskResult} (hstep : s.Step (.ended ticket result) s')
    (hcomplete : result.Complete) :
    s'.node.alive = s.node.alive ∧ s'.node.policy = s.node.policy ∧
      s'.condemned = s.condemned ∧ s'.events = s.events := by
  cases hstep with
  | ended now arrival? htask hturn hresult hverdict hpool haccounts =>
      rw [hcomplete.verdict?] at hverdict
      obtain rfl := Option.some.inj hverdict
      refine ⟨rfl, FailurePolicy.next_of_success now s.node.policy, ?_, rfl⟩
      unfold sentences
      rw [FailurePolicy.condemns_of_success, if_neg Bool.false_ne_true]

/-- **Everything that happens is `Lifecycle.Lawful`.** -/
theorem lawful_step {act : Act} (h : s.Inv endpoint) (hstep : s.Step act s') :
    s.Lawful act s' where
  death := death_of_step h hstep
  sentence := fun _ hmem => sentence_of_step h hstep hmem
  reply := by
    rintro ticket result rfl hcomplete
    exact reply_of_step hstep hcomplete
  dead := by
    intro ticket command hdead
    constructor
    · rintro effects result? rfl
      cases hstep with
      | turnedAway now arrival? hfree hdead' hturn =>
          obtain ⟨hnode, -, heffects, hresult⟩ := turned_dead hdead hturn
          exact ⟨hnode, heffects, hresult⟩
    · rintro rfl
      cases hstep with
      | called command hfree halive =>
          rw [hdead] at halive
          contradiction

/-- The last announcement tells whether the node is dead. -/
theorem Inv.dead_iff (h : s.Inv endpoint) :
    s.node.alive = false ↔ s.events.getLast? = some (.failed endpoint) := by
  have hodd : s.node.alive = false ↔ ¬ s.events.length % 2 = 0 := by
    rw [← h.alive, Bool.not_eq_true]
  rw [hodd, h.events]
  cases hlength : s.events.length with
  | zero => simp
  | succ k =>
      rw [List.range_succ, List.map_append, List.map_singleton, List.getLast?_concat,
        Option.some_inj]
      simp only [List.length_append, List.length_map, List.length_range, List.length_singleton]
      unfold announcement
      split
      · simp only [iff_true]
        omega
      · simp only [reduceCtorEq, iff_false]
        omega

/-- **Announcements alternate, and a node dies of nothing but a call or its failures.** Let a new
    node have a listener, whatever its address, its settings and its policy, and let anything happen
    to it, in any order and at any times (`Lifecycle.Step`). Then the listener has heard that it
    failed, that it was revived, and so on in turn (`announcement`); the node is dead just if the
    last it heard was `NodeEvent.failed`; whatever happens next is `Lifecycle.Lawful`; an attempt
    whose turn is made in one go (`Task.advance`) kills the node only as a `TaskResult.Failure`, and
    only if `FailurePolicy.shouldMarkDead` then says so; and while the node is dead, every command
    can be turned away. -/
theorem lawful (endpoint : Endpoint) (settings : PoolSettings) (policy : PolicyChoice)
    (s : Lifecycle) (hsteps : (start endpoint settings policy).Steps s) :
    s.events = (List.range s.events.length).map (announcement endpoint) ∧
      (s.node.alive = false ↔ s.events.getLast? = some (.failed endpoint)) ∧
      (∀ act s', s.Step act s' → s.Lawful act s') ∧
      (∀ ticket task now arrival? turn, s.tasks.lookup ticket = some task →
        task.advance now ticket arrival? s.node = some turn → s.node.alive = true →
        turn.node.alive = false → ∃ result, turn.task.result? = some result ∧ result.Failure ∧
          (s.node.policy.record now false).shouldMarkDead = true) ∧
      ∀ ticket command, s.node.alive = false → s.tasks.lookup ticket = none →
        ∃ s',
          s.Step (.turnedAway ticket command [] (some (.executed s.node.deadOutcome {}))) s' := by
  have hinv := inv_steps (inv_start endpoint settings policy) hsteps
  refine ⟨hinv.events, hinv.dead_iff, fun act s' hstep => lawful_step hinv hstep, ?_, ?_⟩
  · intro ticket task now arrival? turn htask hturn halive hdead
    exact Task.death_of_advance (hinv.tasks _ _ htask) hturn halive hdead
  · intro ticket command hdead hfree
    exact ⟨_, .turnedAway 0 none hfree hdead (Task.step_dead rfl rfl hdead)⟩

/-- Two commands begin, the first is refused, the node is revived, and then the second is refused:
    it dies twice, with a revival in between. -/
theorem lawful_overlapping :
    ∃ s, (start ⟨"a:1"⟩ {} .failImmediately).Steps s ∧
      s.events = [.failed ⟨"a:1"⟩, .revived ⟨"a:1"⟩, .failed ⟨"a:1"⟩] ∧
      s.node.alive = false ∧ ∀ act s', s.Step act s' → s.Lawful act s' := by
  have hstart := inv_start ⟨"a:1"⟩ {} .failImmediately
  have hfirst : Steps _ (turned _ 0 _) :=
    steps_of_step 0 none hstart rfl (.execute (.get "k")) rfl
  have hsecond : Steps _ (turned _ 1 _) :=
    steps_of_step 0 none (inv_steps hstart hfirst) rfl (.execute (.get "l")) rfl
  have hboth := hfirst.trans hsecond
  have hrefused : Steps _ (turned _ 0 _) :=
    steps_of_turn 1 (some .refused) (inv_steps hstart hboth) rfl rfl
  have hrevived := (hboth.trans hrefused).tail ⟨_, .markedAlive⟩
  have hagain : Steps _ (turned _ 1 _) :=
    steps_of_turn 2 (some .refused) (inv_steps hstart hrevived) rfl rfl
  have hrun := hrevived.trans hagain
  exact ⟨_, hrun, rfl, rfl, (lawful _ _ _ _ hrun).2.2.1⟩

end Lifecycle

end Memcache
