import Mathlib
import Memcache.Fleet
import Memcache.Proofs.Fleet.Turnover
import Memcache.Proofs.Node.Turns
import Memcache.Proofs.Table.Writes

/-!
# `Memcache.Proofs.Fleet.Deeds` — everything that can be done with a fleet

Whatever a client, its callers, the background or the network bring about in a fleet, it comes down
to a few deeds: a task is set up, has a turn, is forgotten or given up; the sweeper has a turn; the
connections of a server are looked after; a node is marked; the fleet is started, disposed of or
listened to. `Fleet.act` does one of them in one go, and `Fleet.Runs` are deeds one after the other,
each at any time and with anything that a network might deliver.

What a deed does is told once here: to each node (`Node.Touched`), to the fleet as a whole
(`Fleet.Ruled`), and to the tasks (`Fleet.JobOrigin`). From these three follows what a deed
preserves, such as that a task that waits for a permit has its place in `Pool.claims`
(`Fleet.InPlace`).

## Contents

* `Tending`, `Deed`, `Fleet.act`, `Fleet.Runs` — deeds and runs;
* `Fleet.spawnAll_eq`, `Fleet.launch_eq`, `Fleet.lookup_spawnAll` — tasks that are set up;
  `Fleet.turned`, `Fleet.act_step` — a turn of a task; `Fleet.Swept` — a turn of the sweeper;
* `Node.Touched`, `Fleet.touched_act`, `Fleet.kept_act` — **what a deed does to the nodes**;
* `Fleet.Ruled`, `Fleet.ruled_act` — what it does to the fleet as a whole;
* `Fleet.JobOrigin`, `Fleet.jobOrigin_act` — **where the tasks come from**;
* `Fleet.InPlace`, `Fleet.inPlace_act` — who waits has a place, also after a deed.
-/

namespace Memcache

/-! ## Deeds -/

/-- What can be done to the connections of a server from outside of its tasks. -/
inductive Tending where
  | release (ticket : Ticket)
  | discard (ticket : Ticket)
  | clearIdle
  | close
  deriving DecidableEq, Repr

/-- The pool afterwards, by the function of `Pool` that the name tells. -/
def Tending.apply : Tending → Pool → Pool
  | .release ticket, p => p.release ticket
  | .discard ticket, p => p.discard ticket
  | .clearIdle, p => p.clearIdle
  | .close, p => p.close

/-- What can be done with a fleet. -/
inductive Deed where
  | spawn (server : Endpoint) (purpose : Purpose)
  | step (ticket : Ticket) (arrival? : Option Arrival)
  | forget (ticket : Ticket)
  | cancel (ticket : Ticket)
  | sweep
  | tend (server : Endpoint) (tending : Tending)
  | markDead (server : Endpoint)
  | markAlive (server : Endpoint)
  | launch
  | settled
  | dispose
  | drain
  deriving DecidableEq, Repr

namespace Fleet

/-- **One deed,** by the function of `Fleet` that the name tells, unless a task or the sweeper has
    to go on waiting. -/
def act (now : Time) (f : Fleet) : Deed → Option Fleet
  | .spawn server purpose => some (f.spawn server purpose).1
  | .step ticket arrival? => (f.step now ticket arrival?).map (·.1)
  | .forget ticket => some (f.forget ticket)
  | .cancel ticket => some (f.cancel ticket)
  | .sweep => f.sweep now
  | .tend server tending =>
    some (f.update server fun node => ({ node with pool := tending.apply node.pool }, none))
  | .markDead server => some (f.markDead now server)
  | .markAlive server => some (f.markAlive server)
  | .launch => some f.launch.1
  | .settled => some (f.settled now)
  | .dispose => some f.dispose
  | .drain => some f.drain.1

/-- Deeds that are `allowed`, one after the other and each at any time. -/
abbrev Runs (allowed : Deed → Prop) : Fleet → Fleet → Prop :=
  Relation.ReflTransGen fun f f' => ∃ now deed, allowed deed ∧ f.act now deed = some f'

variable {f f' : Fleet} {now : Time} {ticket : Ticket} {server : Endpoint}

/-! ## What deeds are made of -/

section Notify
variable (f : Fleet) (event? : Option NodeEvent)

/-- An announcement by `Fleet.notify` changes nothing but `Fleet.ring` and `Fleet.events`. -/
theorem notify_eq :
    ∃ ring events, f.notify event? = { f with ring := ring, events := events } := by
  cases event? with
  | none => exact ⟨f.ring, f.events, rfl⟩
  | some event =>
      unfold notify
      dsimp only
      split
      · exact ⟨f.ring, f.events, rfl⟩
      · exact ⟨f.rebuild.ring, f.events ++ [event], rfl⟩

@[simp] theorem notify_nodes : (f.notify event?).nodes = f.nodes := by
  obtain ⟨ring, events, h⟩ := f.notify_eq event?
  rw [h]

@[simp] theorem notify_jobs : (f.notify event?).jobs = f.jobs := by
  obtain ⟨ring, events, h⟩ := f.notify_eq event?
  rw [h]

@[simp] theorem notify_disposed : (f.notify event?).disposed = f.disposed := by
  obtain ⟨ring, events, h⟩ := f.notify_eq event?
  rw [h]

@[simp] theorem notify_sweeper : (f.notify event?).sweeper = f.sweeper := by
  obtain ⟨ring, events, h⟩ := f.notify_eq event?
  rw [h]

@[simp] theorem notify_settings : (f.notify event?).settings = f.settings := by
  obtain ⟨ring, events, h⟩ := f.notify_eq event?
  rw [h]

/-- When `Fleet.disposed` is set nothing is published. -/
theorem notify_of_disposed (h : f.disposed = true) : f.notify event? = f := by
  cases event? with
  | none => rfl
  | some event => exact if_pos h

end Notify

@[simp] theorem update_jobs (f : Fleet) (server : Endpoint)
    (change : Node → Node × Option NodeEvent) : (f.update server change).jobs = f.jobs := by
  unfold update
  split
  · rfl
  · exact notify_jobs ..

theorem job?_eq_some_iff {job : Job} {node : Node} :
    f.job? ticket = some (job, node) ↔
      f.jobs.lookup ticket = some job ∧ f.nodes.lookup job.server = some node := by
  unfold job?
  cases f.jobs.lookup ticket with
  | none => simp
  | some job' =>
      rw [Option.map_eq_some_iff]
      constructor
      · rintro ⟨node', hnode, heq⟩
        obtain ⟨rfl, rfl⟩ := Prod.mk.inj heq
        exact ⟨rfl, hnode⟩
      · rintro ⟨hjob, hnode⟩
        obtain rfl := Option.some.inj hjob
        exact ⟨node, hnode, rfl⟩

/-! ### Tasks that are set up -/

/-- A task as `Fleet.spawn` sets it up. -/
def newJob (task : Endpoint × Purpose) : Job :=
  { server := task.1, task := { purpose := task.2 } }

/-- Setting up tasks changes nothing but `Fleet.jobs` and `Fleet.nextTicket`. -/
theorem spawnAll_eq (f : Fleet) (tasks : List (Endpoint × Purpose)) :
    ∃ jobs, (f.spawnAll tasks).1 =
      { f with jobs := jobs, nextTicket := f.nextTicket + tasks.length } := by
  induction tasks generalizing f with
  | nil => exact ⟨f.jobs, rfl⟩
  | cons task rest ih =>
      obtain ⟨jobs, hjobs⟩ := ih (f.spawn task.1 task.2).1
      refine ⟨jobs, hjobs.trans ?_⟩
      rw [List.length_cons, Nat.add_comm rest.length 1, ← Nat.add_assoc]
      rfl

/-- A start, `Fleet.launch`, listens to all nodes, and sets up a task for each. -/
theorem launch_eq (f : Fleet) :
    ∃ jobs, f.launch.1 =
      { f with
        nodes := f.nodes.mapValues fun node => { node with listening := true }
        jobs := jobs
        nextTicket := f.nextTicket + f.nodes.keys.length } := by
  obtain ⟨jobs, hspawn⟩ := spawnAll_eq
    { f with nodes := f.nodes.mapValues fun node => { node with listening := true } }
    (f.nodes.keys.map fun server => (server, .warmUp true))
  refine ⟨jobs, ?_⟩
  unfold launch
  dsimp only
  rw [Table.keys_mapValues, hspawn, List.length_map]

/-- The tickets of `Fleet.spawnAll` are consecutive. -/
theorem tickets_spawnAll (f : Fleet) (tasks : List (Endpoint × Purpose)) :
    (f.spawnAll tasks).2 = List.range' f.nextTicket tasks.length := by
  induction tasks generalizing f with
  | nil => rfl
  | cons task rest ih =>
      rw [List.length_cons, List.range'_succ]
      exact congrArg _ (ih _)

/-- Each new ticket of `Fleet.spawnAll` has its task, and the others have what they had. -/
theorem lookup_spawnAll (f : Fleet) (tasks : List (Endpoint × Purpose)) (ticket : Ticket) :
    (f.spawnAll tasks).1.jobs.lookup ticket =
      if f.nextTicket ≤ ticket ∧ ticket < f.nextTicket + tasks.length then
        (tasks[ticket - f.nextTicket]?).map newJob
      else f.jobs.lookup ticket := by
  induction tasks generalizing f with
  | nil =>
      rw [if_neg (by simp)]
      rfl
  | cons task rest ih =>
      refine (ih (f.spawn task.1 task.2).1).trans ?_
      show (if f.nextTicket + 1 ≤ ticket ∧ ticket < f.nextTicket + 1 + rest.length then
          (rest[ticket - (f.nextTicket + 1)]?).map newJob
        else (f.jobs.insert f.nextTicket (newJob task)).lookup ticket) = _
      rw [Table.lookup_insert, List.length_cons]
      by_cases hfirst : ticket = f.nextTicket
      · subst hfirst
        rw [if_neg (by simp), if_pos rfl, if_pos (by simp), Nat.sub_self]
        rfl
      · rw [if_neg hfirst]
        by_cases hrest : f.nextTicket + 1 ≤ ticket ∧ ticket < f.nextTicket + 1 + rest.length
        all_goals simp only [Ticket] at *
        · obtain ⟨k, rfl⟩ := Nat.exists_eq_add_of_le hrest.1
          rw [if_pos hrest, if_pos (by omega)]
          have hk (n : Nat) : n + 1 + k - n = k + 1 := by omega
          rw [Nat.add_sub_cancel_left, hk, List.getElem?_cons_succ]
        · rw [if_neg hrest, if_neg (by omega)]

/-- A task is an old one, or has just been set up, as `newJob`. -/
theorem mem_spawnAll {tasks : List (Endpoint × Purpose)} {job : Job}
    (h : (f.spawnAll tasks).1.jobs.lookup ticket = some job) :
    f.jobs.lookup ticket = some job ∨ ∃ task ∈ tasks, job = newJob task := by
  rw [lookup_spawnAll] at h
  split at h
  · obtain ⟨task, htask, rfl⟩ := Option.map_eq_some_iff.mp h
    exact .inr ⟨task, List.mem_of_getElem? htask, rfl⟩
  · exact .inl h

/-! ### Turns -/

/-- The fleet after a turn of a task: node and task are as `Turn` has them, and what the node
    announces is published. -/
def turned (f : Fleet) (ticket : Ticket) (job : Job) (turn : Turn) : Fleet :=
  { f with
    nodes := f.nodes.insert job.server turn.node
    jobs := f.jobs.insert ticket { job with task := turn.task }
    ended := if turn.task.result?.isSome then f.ended ++ [ticket] else f.ended }.notify turn.event?

theorem lookup_job_turned {job : Job} {turn : Turn} :
    (f.turned ticket job turn).jobs.lookup ticket = some { job with task := turn.task } := by
  rw [turned, notify_jobs, Table.lookup_insert, if_pos rfl]

theorem lookup_node_turned {job : Job} {turn : Turn} :
    (f.turned ticket job turn).nodes.lookup job.server = some turn.node := by
  rw [turned, notify_nodes, Table.lookup_insert, if_pos rfl]

theorem step_eq_some {arrival? : Option Arrival} {effects : List Effect}
    (h : f.step now ticket arrival? = some (f', effects)) :
    ∃ job node turn, f.job? ticket = some (job, node) ∧
      job.task.step now ticket arrival? node = some turn ∧ f' = f.turned ticket job turn ∧
      effects = turn.effects := by
  unfold step at h
  split at h
  · contradiction
  · next job node hjob =>
      obtain ⟨turn, hturn, heq⟩ := Option.map_eq_some_iff.mp h
      obtain ⟨rfl, rfl⟩ := Prod.mk.inj heq
      exact ⟨job, node, turn, hjob, hturn, rfl, rfl⟩

theorem act_step {arrival? : Option Arrival} (h : f.act now (.step ticket arrival?) = some f') :
    ∃ job node turn, f.jobs.lookup ticket = some job ∧ f.nodes.lookup job.server = some node ∧
      job.task.step now ticket arrival? node = some turn ∧ f' = f.turned ticket job turn := by
  obtain ⟨⟨f'', effects⟩, hstep, rfl⟩ := Option.map_eq_some_iff.mp h
  obtain ⟨job, node, turn, hjob, hturn, hf, -⟩ := step_eq_some hstep
  obtain ⟨hjob, hnode⟩ := job?_eq_some_iff.mp hjob
  exact ⟨job, node, turn, hjob, hnode, hturn, hf⟩

/-- What a `Turn` leads to, told of the fleet. -/
theorem step_of_turn {arrival? : Option Arrival} {job : Job} {node : Node} {turn : Turn}
    (hjob : f.job? ticket = some (job, node))
    (hturn : job.task.step now ticket arrival? node = some turn) :
    f.step now ticket arrival? = some (f.turned ticket job turn, turn.effects) := by
  unfold step
  rw [hjob]
  dsimp only
  rw [hturn]
  rfl

theorem result?_turned {job : Job} {turn : Turn} :
    (f.turned ticket job turn).result? ticket = turn.task.result? := by
  unfold result?
  rw [lookup_job_turned]

/-! ### The sweeper -/

/-- Forgetting tasks changes nothing but `Fleet.jobs` and `Fleet.ended`. -/
theorem forgetAll_eq (f : Fleet) (tickets : List Ticket) :
    ∃ jobs ended, tickets.foldl forget f = { f with jobs := jobs, ended := ended } ∧
      ∀ t, jobs.lookup t = if t ∈ tickets then none else f.jobs.lookup t := by
  induction tickets generalizing f with
  | nil => exact ⟨f.jobs, f.ended, rfl, fun t => (if_neg List.not_mem_nil).symm⟩
  | cons ticket rest ih =>
      obtain ⟨jobs, ended, hf, hjobs⟩ := ih (f.forget ticket)
      refine ⟨jobs, ended, hf, fun t => (hjobs t).trans ?_⟩
      show (if t ∈ rest then none else (f.jobs.erase ticket).lookup t) = _
      rw [Table.lookup_erase]
      by_cases ht : t = ticket
      · subst ht
        simp
      · simp [ht]

/-- **What a turn of the sweeper, `Fleet.sweep`, may be.** -/
inductive Swept (now : Time) (f : Fleet) : Fleet → Prop where
  /-- It finds no node that is `Fleet.due`, and sleeps on. -/
  | idle {wake : Time} (hsweeper : f.sweeper = .asleep wake) (hwake : wake ≤ now)
      (hdue : f.due now = []) : Swept now f (f.rest now)
  /-- It probes the nodes that are `Fleet.due`. -/
  | probed {wake : Time} (hsweeper : f.sweeper = .asleep wake) (hwake : wake ≤ now) :
      Swept now f { (f.spawnAll ((f.due now).map fun server => (server, .revive))).1 with
        sweeper := .probing (f.spawnAll ((f.due now).map fun server => (server, .revive))).2 }
  /-- All its probes are over, and it goes to sleep. -/
  | rested {tickets : List Ticket} (hsweeper : f.sweeper = .probing tickets)
      (hended : ∀ t ∈ tickets, (f.result? t).isSome = true) :
      Swept now f ((tickets.foldl forget f).rest now)

theorem swept_of_sweep (h : f.sweep now = some f') : f.Swept now f' := by
  unfold sweep at h
  cases hsweeper : f.sweeper with
  | absent =>
      rw [hsweeper] at h
      contradiction
  | asleep wake =>
      rw [hsweeper] at h
      dsimp only at h
      split at h
      · contradiction
      · next hwake =>
          have hawake : wake ≤ now := Nat.le_of_not_lt hwake
          split at h
          · next hdue =>
              obtain rfl := Option.some.inj h
              exact .idle hsweeper hawake hdue
          · obtain rfl := Option.some.inj h
            exact .probed hsweeper hawake
  | probing tickets =>
      rw [hsweeper] at h
      obtain ⟨⟨collected, results⟩, hcollect, rfl⟩ := Option.map_eq_some_iff.mp h
      unfold collect at hcollect
      split at hcollect
      · next hall =>
          obtain ⟨rfl, -⟩ := Prod.mk.inj (Option.some.inj hcollect)
          exact .rested hsweeper fun t ht => List.all_eq_true.mp hall t ht
      · contradiction

/-! ## What a deed does to the nodes -/

/-- The servers of `Fleet.nodes` are the same, and each node is related to what it has become. -/
structure Each (R : Node → Node → Prop) (f f' : Fleet) : Prop where
  nodes : ∀ server, Option.Rel R (f.nodes.lookup server) (f'.nodes.lookup server)
  keys : f.nodes.keys.Nodup → f'.nodes.keys.Nodup

namespace Each

variable {R S : Node → Node → Prop} {n n' : Node}

theorem forth (h : f.Each R f') (hnode : f.nodes.lookup server = some n) :
    ∃ n', f'.nodes.lookup server = some n' ∧ R n n' := by
  have hrel := h.nodes server
  rw [hnode] at hrel
  generalize f'.nodes.lookup server = after at hrel
  cases hrel with
  | some hR => exact ⟨_, rfl, hR⟩

theorem back (h : f.Each R f') (hnode : f'.nodes.lookup server = some n') :
    ∃ n, f.nodes.lookup server = some n ∧ R n n' := by
  have hrel := h.nodes server
  rw [hnode] at hrel
  generalize f.nodes.lookup server = before at hrel
  cases hrel with
  | some hR => exact ⟨_, rfl, hR⟩

theorem mono (h : f.Each R f') (hRS : ∀ n n', R n n' → S n n') : f.Each S f' := by
  refine ⟨fun server => ?_, h.keys⟩
  have hrel := h.nodes server
  generalize f.nodes.lookup server = before at hrel
  generalize f'.nodes.lookup server = after at hrel
  cases hrel with
  | some hR => exact .some (hRS _ _ hR)
  | none => exact .none

theorem of_eq (hrefl : ∀ n, R n n) (hnodes : f'.nodes = f.nodes) : f.Each R f' := by
  refine ⟨fun server => ?_, fun hkeys => hnodes ▸ hkeys⟩
  rw [hnodes]
  cases f.nodes.lookup server with
  | none => exact .none
  | some n => exact .some (hrefl n)

theorem of_insert (hrefl : ∀ n, R n n) (hnode : f.nodes.lookup server = some n) (hR : R n n')
    (hnodes : f'.nodes = f.nodes.insert server n') : f.Each R f' := by
  refine ⟨fun k => ?_, fun hkeys => hnodes ▸ Table.nodup_keys_insert hkeys⟩
  rw [hnodes, Table.lookup_insert]
  by_cases hk : k = server
  · subst hk
    rw [if_pos rfl, hnode]
    exact .some hR
  · rw [if_neg hk]
    cases f.nodes.lookup k with
    | none => exact .none
    | some n => exact .some (hrefl n)

theorem of_mapValues {change : Node → Node} (hR : ∀ n, R n (change n))
    (hnodes : f'.nodes = f.nodes.mapValues change) : f.Each R f' := by
  constructor
  · intro k
    rw [hnodes, Table.lookup_mapValues]
    cases f.nodes.lookup k with
    | none => exact .none
    | some n => exact .some (hR n)
  · rw [hnodes, Table.keys_mapValues]
    exact id

end Each

theorem each_update {R : Node → Node → Prop} {change : Node → Node × Option NodeEvent}
    (hrefl : ∀ n, R n n) (hR : ∀ n, R n (change n).1) : f.Each R (f.update server change) := by
  unfold update
  split
  · exact .of_eq hrefl rfl
  · next n hnode => exact .of_insert hrefl hnode (hR n) (notify_nodes ..)

end Fleet

/-- **What a deed may do to a node.** -/
inductive Node.Touched (now : Time) (f : Fleet) : Deed → Node → Node → Prop where
  | same (deed : Deed) (n : Node) : Touched now f deed n n
  | turn {ticket : Ticket} {arrival? : Option Arrival} {job : Job} {n : Node} {turn : Turn}
      (hjob : f.jobs.lookup ticket = some job) (hnode : f.nodes.lookup job.server = some n)
      (hturn : job.task.step now ticket arrival? n = some turn) :
      Touched now f (.step ticket arrival?) n turn.node
  | withdrawn (ticket : Ticket) (t : Task) (n : Node) :
      Touched now f (.cancel ticket) n (t.withdraw ticket n)
  | tended (server : Endpoint) (tending : Tending) (n : Node) :
      Touched now f (.tend server tending) n { n with pool := tending.apply n.pool }
  | dead (server : Endpoint) (n : Node) : Touched now f (.markDead server) n (n.markDead now).1
  | alive (server : Endpoint) (n : Node) : Touched now f (.markAlive server) n n.markAlive.1
  | launched (n : Node) : Touched now f .launch n { n with listening := true }
  | closed (n : Node) : Touched now f .dispose n { n with pool := n.pool.close }

/-- The tickets whose places in the queue a deed leaves alone: all but that of a task that has its
    turn or is given up. -/
def Deed.Spares : Deed → Ticket → Prop
  | .step ticket _ | .cancel ticket => (· ≠ ticket)
  | _ => fun _ => True

/-- What every deed leaves alone in a node: places in the queue of its pool (`Pool.Stays`), and
    whether it is listened to. -/
structure Node.Kept (spared : Ticket → Prop) (n n' : Node) : Prop where
  pool : n.pool.Stays spared n'.pool
  listening : n.listening = true → n'.listening = true

namespace Fleet

variable {f f' : Fleet} {now : Time} {deed : Deed} {ticket : Ticket} {server : Endpoint}

theorem touched_act (h : f.act now deed = some f') : f.Each (Node.Touched now f deed) f' := by
  have hsame : ∀ n, Node.Touched now f deed n n := .same deed
  cases deed with
  | step ticket arrival? =>
      obtain ⟨job, node, turn, hjob, hnode, hturn, rfl⟩ := act_step h
      exact .of_insert hsame hnode (.turn hjob hnode hturn) (notify_nodes ..)
  | cancel ticket =>
      obtain rfl := Option.some.inj h
      unfold cancel
      split
      · next job node hjob =>
          exact .of_insert hsame (job?_eq_some_iff.mp hjob).2 (.withdrawn ..) rfl
      · exact .of_eq hsame rfl
  | sweep =>
      cases swept_of_sweep h with
      | idle => exact .of_eq hsame rfl
      | probed => exact .of_eq hsame (spawnAll_nodes ..)
      | rested =>
          obtain ⟨jobs, ended, hforget, -⟩ := forgetAll_eq f _
          rw [hforget]
          exact .of_eq hsame rfl
  | tend server tending =>
      obtain rfl := Option.some.inj h
      exact each_update hsame (.tended server tending)
  | markDead server =>
      obtain rfl := Option.some.inj h
      exact each_update hsame (.dead server)
  | markAlive server =>
      obtain rfl := Option.some.inj h
      exact each_update hsame (.alive server)
  | launch =>
      obtain rfl := Option.some.inj h
      exact .of_mapValues .launched (spawnAll_nodes ..)
  | settled =>
      obtain rfl := Option.some.inj h
      unfold settled
      split <;> exact .of_eq hsame rfl
  | dispose =>
      obtain rfl := Option.some.inj h
      unfold dispose
      split
      · exact .of_eq hsame rfl
      · exact .of_mapValues .closed rfl
  | spawn | forget | drain =>
      obtain rfl := Option.some.inj h
      exact .of_eq hsame rfl

end Fleet

namespace Tending

theorem stays_apply (tending : Tending) (p : Pool) {spared : Ticket → Prop} :
    p.Stays spared (tending.apply p) := by
  cases tending with
  | release ticket => exact p.stays_release ticket
  | discard ticket => exact p.stays_discard ticket
  | clearIdle => exact p.stays_clearIdle
  | close => exact p.stays_close

end Tending

namespace Node

variable {now : Time} {f : Fleet} {deed : Deed} {n n' : Node}

theorem stays_withdraw (ticket : Ticket) (n : Node) (t : Task) :
    n.pool.Stays (· ≠ ticket) (t.withdraw ticket n).pool := by
  unfold Task.withdraw
  split
  · exact n.pool.stays_withdraw ticket
  · exact n.pool.stays_withdraw ticket
  · exact .refl ..

/-- **No deed opens a closed pool, or takes a place in the queue from anybody but the task that it
    is about** (`Deed.Spares`). -/
theorem kept_of_touched (h : n.Touched now f deed n') : n.Kept deed.Spares n' := by
  cases h with
  | same deed n => exact ⟨.refl .., id⟩
  | turn hjob hnode hturn =>
      have hlawful := Task.lawful_step hturn
      exact ⟨hlawful.pool, fun hlistening => hlawful.listening.trans hlistening⟩
  | withdrawn ticket t n =>
      refine ⟨stays_withdraw ticket n t, fun hlistening => ?_⟩
      unfold Task.withdraw
      split <;> exact hlistening
  | tended server tending n => exact ⟨tending.stays_apply n.pool, id⟩
  | dead server n =>
      unfold markDead
      split
      · exact ⟨n.pool.stays_clearIdle, id⟩
      · exact ⟨.refl .., id⟩
  | alive server n =>
      unfold markAlive
      split
      · exact ⟨.refl .., id⟩
      · exact ⟨.refl .., id⟩
  | launched n => exact ⟨.refl .., fun _ => rfl⟩
  | closed n => exact ⟨n.pool.stays_close, id⟩

end Node

/-! ## What a deed does to the fleet -/

namespace Fleet

variable {f f' : Fleet} {now : Time} {deed : Deed} {ticket : Ticket} {server : Endpoint}

theorem kept_act (h : f.act now deed = some f') : f.Each (Node.Kept deed.Spares) f' :=
  (touched_act h).mono fun _ _ => Node.kept_of_touched

/-- What a deed does to a fleet as a whole. -/
structure Ruled (f : Fleet) (deed : Deed) (f' : Fleet) : Prop where
  settings : f'.settings = f.settings
  disposed : f'.disposed = (f.disposed || deed = .dispose)
  /-- Nothing is published once `Fleet.disposed` is set, and only `Deed.settled` changes the
      ring. -/
  ring : f.disposed = true → deed ≠ .settled → f'.ring = f.ring
  events : f.disposed = true → f'.events = f.events ∨ f'.events = []
  sweeper : deed ≠ .sweep → deed ≠ .settled → deed ≠ .dispose → f'.sweeper = f.sweeper

/-- A change of nodes and tasks that is announced by `Fleet.notify`. -/
theorem ruled_notify {nodes : Table Endpoint Node} {jobs : Table Ticket Job} {ended : List Ticket}
    (event? : Option NodeEvent) (hdeed : deed ≠ .dispose) :
    f.Ruled deed ({ f with nodes := nodes, jobs := jobs, ended := ended }.notify event?) where
  settings := notify_settings ..
  disposed := by simp [hdeed]
  ring hdisposed _ := by
    rw [notify_of_disposed]
    exact hdisposed
  events hdisposed := by
    rw [notify_of_disposed]
    · exact .inl rfl
    · exact hdisposed
  sweeper _ _ _ := notify_sweeper ..

/-- A change of tasks alone. -/
theorem ruled_jobs {jobs : Table Ticket Job} {ended : List Ticket} {nextTicket : Ticket}
    (hdeed : deed ≠ .dispose) :
    f.Ruled deed { f with jobs := jobs, ended := ended, nextTicket := nextTicket } :=
  ⟨rfl, by simp [hdeed], fun _ _ => rfl, fun _ => .inl rfl, fun _ _ _ => rfl⟩

theorem ruled_update (change : Node → Node × Option NodeEvent) (hdeed : deed ≠ .dispose) :
    f.Ruled deed (f.update server change) := by
  unfold update
  split
  · exact ruled_jobs hdeed
  · exact ruled_notify _ hdeed

/-- A turn of the sweeper. -/
theorem ruled_sweep {jobs : Table Ticket Job} {ended : List Ticket} {nextTicket : Ticket}
    {sweeper : Sweeper} :
    f.Ruled .sweep { f with
      jobs := jobs, ended := ended, nextTicket := nextTicket, sweeper := sweeper } :=
  ⟨rfl, by simp, fun _ _ => rfl, fun _ => .inl rfl, fun hother => absurd rfl hother⟩

theorem ruled_act (h : f.act now deed = some f') : f.Ruled deed f' := by
  cases deed with
  | spawn server purpose =>
      obtain rfl := Option.some.inj h
      exact ruled_jobs nofun
  | forget ticket =>
      obtain rfl := Option.some.inj h
      exact ruled_jobs nofun
  | step ticket arrival? =>
      obtain ⟨job, node, turn, -, -, -, rfl⟩ := act_step h
      exact ruled_notify _ nofun
  | cancel ticket =>
      obtain rfl := Option.some.inj h
      unfold cancel
      split
      · exact ruled_notify none nofun
      · exact ruled_jobs nofun
  | sweep =>
      cases swept_of_sweep h with
      | idle => exact ruled_sweep
      | probed =>
          obtain ⟨jobs, hspawn⟩ := spawnAll_eq f ((f.due now).map fun server => (server, .revive))
          rw [hspawn]
          exact ruled_sweep
      | rested =>
          obtain ⟨jobs, ended, hforget, -⟩ := forgetAll_eq f _
          rw [hforget]
          exact ruled_sweep
  | tend | markDead | markAlive =>
      obtain rfl := Option.some.inj h
      exact ruled_update _ nofun
  | launch =>
      obtain rfl := Option.some.inj h
      obtain ⟨jobs, hlaunch⟩ := launch_eq f
      rw [hlaunch]
      exact ⟨rfl, by simp, fun _ _ => rfl, fun _ => .inl rfl, fun _ _ _ => rfl⟩
  | settled =>
      obtain rfl := Option.some.inj h
      refine ⟨?_, ?_, fun _ hother => absurd rfl hother, fun _ => .inl ?_,
        fun _ hother => absurd rfl hother⟩
      all_goals
        unfold settled
        split
      all_goals simp [rebuild, rest]
  | dispose =>
      obtain rfl := Option.some.inj h
      refine ⟨?_, ?_, fun hdisposed _ => ?_, fun hdisposed => .inl ?_,
        fun _ _ hother => absurd rfl hother⟩
      all_goals
        unfold dispose
        split
      all_goals simp_all
  | drain =>
      obtain rfl := Option.some.inj h
      exact ⟨rfl, by simp [drain], fun _ _ => rfl, fun _ => .inr rfl, fun _ _ _ => rfl⟩

/-! ### Tasks -/

/-- **Where the tasks of a fleet come from**: from `Fleet.spawn`, a start, the sweeper, or a turn of
    what was there. -/
inductive JobOrigin (now : Time) (f : Fleet) (ticket : Ticket) (job : Job) : Deed → Prop where
  | kept {deed : Deed} (hjob : f.jobs.lookup ticket = some job) (hspared : deed.Spares ticket) :
      JobOrigin now f ticket job deed
  | spawned {server : Endpoint} {purpose : Purpose} (hnew : job = newJob (server, purpose)) :
      JobOrigin now f ticket job (.spawn server purpose)
  | swept {server : Endpoint} (hnew : job = newJob (server, .revive)) (hdue : server ∈ f.due now) :
      JobOrigin now f ticket job .sweep
  | launched {server : Endpoint} (hnew : job = newJob (server, .warmUp true)) :
      JobOrigin now f ticket job .launch
  | turned {arrival? : Option Arrival} {old : Job} {node : Node} {turn : Turn}
      (hold : f.jobs.lookup ticket = some old) (hnode : f.nodes.lookup old.server = some node)
      (hturn : old.task.step now ticket arrival? node = some turn)
      (hjob : job = { old with task := turn.task }) :
      JobOrigin now f ticket job (.step ticket arrival?)

theorem jobOrigin_act {job : Job} (h : f.act now deed = some f')
    (hjob : f'.jobs.lookup ticket = some job) : JobOrigin now f ticket job deed := by
  cases deed with
  | spawn server purpose =>
      obtain rfl := Option.some.inj h
      rw [spawn, Table.lookup_insert] at hjob
      split at hjob
      · exact .spawned (Option.some.inj hjob).symm
      · exact .kept hjob trivial
  | forget other =>
      obtain rfl := Option.some.inj h
      rw [forget, Table.lookup_erase] at hjob
      split at hjob
      · contradiction
      · exact .kept hjob trivial
  | step other arrival? =>
      obtain ⟨old, node, turn, hold, hnode, hturn, rfl⟩ := act_step h
      rw [turned, notify_jobs, Table.lookup_insert] at hjob
      split at hjob
      · next hsame =>
          subst hsame
          exact .turned hold hnode hturn (Option.some.inj hjob).symm
      · next hother => exact .kept hjob hother
  | cancel other =>
      obtain rfl := Option.some.inj h
      have herase : (f.cancel other).jobs = f.jobs.erase other := by
        unfold cancel
        split <;> rfl
      rw [herase, Table.lookup_erase] at hjob
      split at hjob
      · contradiction
      · next hother => exact .kept hjob hother
  | sweep =>
      cases swept_of_sweep h with
      | idle => exact .kept hjob trivial
      | probed =>
          rcases mem_spawnAll hjob with hkept | ⟨task, htask, hnew⟩
          · exact .kept hkept trivial
          · obtain ⟨server, hdue, rfl⟩ := List.mem_map.mp htask
            exact .swept hnew hdue
      | rested =>
          obtain ⟨jobs, ended, hforget, hjobs⟩ := forgetAll_eq f _
          rw [hforget] at hjob
          have hlookup := (hjobs ticket).symm.trans hjob
          split at hlookup
          · contradiction
          · exact .kept hlookup trivial
  | tend server tending | markDead server | markAlive server =>
      obtain rfl := Option.some.inj h
      have hjobs := f.update_jobs server
      exact .kept ((congrArg _ (hjobs _)).symm.trans hjob) trivial
  | launch =>
      obtain rfl := Option.some.inj h
      rcases mem_spawnAll hjob with hkept | ⟨task, htask, hnew⟩
      · exact .kept hkept trivial
      · obtain ⟨server, -, rfl⟩ := List.mem_map.mp htask
        exact .launched hnew
  | settled =>
      obtain rfl := Option.some.inj h
      refine .kept ?_ trivial
      unfold settled at hjob
      split at hjob <;> exact hjob
  | dispose =>
      obtain rfl := Option.some.inj h
      refine .kept ?_ trivial
      unfold dispose at hjob
      split at hjob <;> exact hjob
  | drain =>
      obtain rfl := Option.some.inj h
      exact .kept hjob trivial

/-! ## A new fleet, and places in the queue -/

/-- Every task in `Stage.queued` has its place in the queue of its pool (`Pool.Waits`). -/
def InPlace (f : Fleet) : Prop :=
  ∀ ticket job deadline, f.jobs.lookup ticket = some job → job.task.stage = .queued deadline →
    ∃ node, f.nodes.lookup job.server = some node ∧ node.pool.Waits ticket

section New
variable (servers : List Endpoint) (settings : PoolSettings) (policy : PolicyChoice)

theorem nodup_eraseDups (servers : List Endpoint) : servers.eraseDups.Nodup := by
  induction hn : servers.length using Nat.strong_induction_on generalizing servers with
  | _ n ih =>
      cases servers with
      | nil => exact List.nodup_nil
      | cons server servers =>
          rw [List.eraseDups_cons, List.nodup_cons]
          refine ⟨?_, ih _ ?_ _ rfl⟩
          · intro hmem
            simpa using List.mem_eraseDups.mp hmem
          · subst hn
            exact Nat.lt_succ_of_le (List.length_filter_le ..)

/-- What `Fleet.ofServers` gives is a node for each server. -/
theorem servers_ofServers :
    (ofServers servers settings policy).nodes.keys = servers.eraseDups := by
  simp [ofServers, Table.keys, Function.comp_def]

theorem keys_ofServers : (ofServers servers settings policy).nodes.keys.Nodup := by
  rw [servers_ofServers]
  exact nodup_eraseDups servers

theorem lookup_ofServers {server : Endpoint} {node : Node}
    (h : (ofServers servers settings policy).nodes.lookup server = some node) :
    node = .new server settings policy := by
  have hmem := (Table.lookup_eq_some_iff (keys_ofServers servers settings policy)).mp h
  obtain ⟨server', -, heq⟩ := List.mem_map.mp hmem
  obtain ⟨rfl, rfl⟩ := Prod.mk.inj heq
  rfl

theorem inPlace_ofServers : (ofServers servers settings policy).InPlace := by
  intro ticket job deadline hjob
  have hnone : (ofServers servers settings policy).jobs.lookup ticket = none := rfl
  rw [hnone] at hjob
  contradiction

end New

theorem inPlace_act (hplace : f.InPlace) (h : f.act now deed = some f') : f'.InPlace := by
  intro ticket job deadline hjob hstage
  cases jobOrigin_act h hjob with
  | kept hjob hspared =>
      obtain ⟨node, hnode, hwaits⟩ := hplace ticket job deadline hjob hstage
      obtain ⟨node', hnode', hkept⟩ := (kept_act h).forth hnode
      exact ⟨node', hnode', hkept.pool.waits ticket hspared hwaits⟩
  | turned hold hnode hturn hnew =>
      subst hnew
      obtain ⟨old', node', turn', hold', hnode', hturn', rfl⟩ := act_step h
      obtain rfl := Option.some.inj (hold.symm.trans hold')
      obtain rfl := Option.some.inj (hnode.symm.trans hnode')
      obtain rfl := Option.some.inj (hturn.symm.trans hturn')
      exact ⟨_, lookup_node_turned, (Task.lawful_step hturn).queued deadline hstage⟩
  | spawned hnew | swept hnew | launched hnew =>
      subst hnew
      contradiction

end Fleet

end Memcache
