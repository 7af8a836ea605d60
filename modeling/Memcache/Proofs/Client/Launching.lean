import Mathlib
import Memcache.Proofs.Client.Refusal
import Memcache.Proofs.Fleet.Deeds
import Memcache.Proofs.Network.Unasked
import Memcache.Proofs.Node.Stepping
import Memcache.Sim.Session

/-!
# `Memcache.Proofs.Client.Launching` — a start comes to its end and sends nothing

`Fleet.launch` opens connections ahead of need, and nobody is served before its warm-ups are over.
Here no server is to get more than one connection (`Node.OneAhead`). A warm-up then has at most two
turns: in the first it asks for its connection (`Stage.dialling`), and in the second it has it, or
has been refused it, or has waited for as long as `PoolSettings.connectTimeout` lets it. Either way
it sends nothing.

What carries the argument is that the warm-ups do not depend on each other: a turn of one of them
does not wake up another. So however many servers there are, after one `World.round` all warm-ups
wait, and they wait until the same moment. From then on only time can pass, and when that moment has
come they are over, all of them.

## Contents

* `Node.OneAhead`, `Task.warmUp_step` — **what a turn of a warm-up can be**;
* `World.Launching`, `World.Launching.stepTask` — a start under way, and what each turn keeps;
* `World.runTasks`, `World.Launching.round`, `World.Launching.settle` — **after the turn of the
  background everything waits**;
* `World.Launching.nextMoment?` — then time passes, and no further than to the deadline;
* `World.Enough`, `World.Launching.turn`, `World.Launching.drive` — the call that waits for the
  warm-ups;
* `World.run_start` — **a start ends, whatever the network does, and asks no server anything**.
-/

namespace Memcache

/-! ## One warm-up -/

/-- A node with an open pool that opens at most one connection ahead of need
    (`PoolSettings.minConnections`). -/
structure Node.OneAhead (timeout : Duration) (n : Node) : Prop where
  opened : n.pool.closed = false
  few : n.pool.settings.minConnections ≤ 1
  timeout : n.pool.settings.connectTimeout = timeout

namespace Node

variable {timeout : Duration} {n n' : Node}

/-- `Node.OneAhead` is a matter of `Pool.settings` and `Pool.closed`. -/
theorem OneAhead.congr (h : n.OneAhead timeout) (hclosed : n'.pool.closed = n.pool.closed)
    (hsettings : n'.pool.settings = n.pool.settings) : n'.OneAhead timeout where
  opened := hclosed.trans h.opened
  few := hsettings ▸ h.few
  timeout := hsettings ▸ h.timeout

theorem OneAhead.record (h : n.OneAhead timeout) (now : Time) (success : Bool) :
    (n.record now success).1.OneAhead timeout := by
  unfold Node.record markDead
  dsimp only
  split
  · split
    · exact h.congr rfl rfl
    · exact h.congr rfl rfl
  · exact h.congr rfl rfl

theorem OneAhead.stock (h : n.OneAhead timeout) (c : Connection) :
    OneAhead timeout { n with pool := n.pool.stock c } := by
  unfold Pool.stock
  split
  · exact h
  · exact h.congr rfl rfl

/-- One connection is enough for `Pool.warmTarget`. -/
theorem OneAhead.stocked (h : n.OneAhead timeout) (c : Connection) :
    (n.pool.stock c).warmTarget ≤ (n.pool.stock c).idle.length := by
  have hfew := h.few
  unfold Pool.stock Pool.warmTarget
  split
  · next hfull =>
      rcases hfull with hclosed | hfull
      · rw [h.opened] at hclosed
        contradiction
      · exact (Nat.min_le_right ..).trans hfull
  · dsimp only
    rw [List.length_append, List.length_singleton]
    omega

end Node

namespace Task

variable {timeout : Duration} {now deadline : Time} {ticket : Ticket} {n : Node} {t : Task}
  {arrival? : Option Arrival} {turn : Turn}

/-- **What a turn of a warm-up can be:** it asks for a connection, and is in `Stage.dialling`, or it
    is over. -/
inductive WarmTurn (timeout : Duration) (now : Time) (n : Node) (t : Task) (turn : Turn) : Prop where
  | asked (hbefore : t.stage = .fresh) (hafter : turn.task.stage = .dialling (now + timeout))
      (heffects : turn.effects = [.dial n.endpoint])
  | ended (result : TaskResult) (hafter : turn.task.stage = .finished result)
      (heffects : turn.effects = [])

/-- A warm-up that gets no connection is over, by `Task.unreachable`. -/
theorem warmUp_unreachable (hpurpose : t.purpose = .warmUp true) (hnode : n.OneAhead timeout)
    (e : ConnectionError) :
    (t.unreachable now ticket n e).node.OneAhead timeout ∧
      (t.unreachable now ticket n e).task.purpose = .warmUp true ∧
      t.WarmTurn timeout now n (t.unreachable now ticket n e) := by
  have hturn : t.unreachable now ticket n e = t.account now n false (.warmed (.error e)) := by
    unfold unreachable
    rw [hpurpose]
  rw [hturn]
  exact ⟨hnode.record now false, hpurpose, .ended _ rfl rfl⟩

/-- **A warm-up has at most two turns.** It asks for a connection in the first, in `Stage.fresh`,
    and no other turn asks for anything. -/
theorem warmUp_step (hpurpose : t.purpose = .warmUp true) (hnode : n.OneAhead timeout)
    (hstage : t.stage = .fresh ∨ t.stage = .dialling deadline)
    (hturn : t.step now ticket arrival? n = some turn) :
    turn.node.OneAhead timeout ∧ turn.task.purpose = .warmUp true ∧
      t.WarmTurn timeout now n turn := by
  have hnone : ∀ {stage : Stage}, t.stage = stage → stage ≠ .fresh →
      stage ≠ .dialling deadline → False := by
    rintro stage rfl hfresh hdialling
    exact hstage.elim hfresh hdialling
  cases step_eq_some_iff.mp hturn with
  | begun hfresh =>
      have hstart : t.start now ticket n = t.stockUp now n := by
        unfold start
        rw [hpurpose]
      rw [hstart]
      unfold stockUp
      split
      · exact ⟨hnode, hpurpose, .asked hfresh (by simp [dial, hnode.timeout]) rfl⟩
      · exact ⟨hnode, hpurpose, .ended _ rfl rfl⟩
  | @connected _ link _ _ =>
      have hconnected : t.connected now ticket n link =
          { t with opened := t.opened + 1 }.stockUp now
            { n with pool := n.pool.stock { link := link } } := by
        unfold connected
        rw [hpurpose]
      rw [hconnected]
      unfold stockUp
      rw [if_neg (Nat.not_lt.mpr (hnode.stocked _))]
      exact ⟨hnode.stock _, hpurpose, .ended _ rfl rfl⟩
  | refused _ _ => exact warmUp_unreachable hpurpose hnode _
  | unconnected _ _ _ _ => exact warmUp_unreachable hpurpose hnode _
  | resumed hother _ | overdue hother _ _ | listened hother _ | sounded hother _
  | broken hother _ _ => exact (hnone hother nofun nofun).elim

/-- Where the warm-ups of one start stand: they have the same `deadline`. -/
inductive Warming (timeout : Duration) (now deadline : Time) (t : Task) : Prop where
  | fresh (hstage : t.stage = .fresh) (htime : now + timeout = deadline)
  | waiting (hstage : t.stage = .dialling deadline)
  | ended (result : TaskResult) (hstage : t.stage = .finished result)

/-- How many turns a warm-up may still have, by its stage. -/
def turnsLeft (t : Task) : Nat :=
  match t.stage with
  | .fresh => 2
  | .dialling _ => 1
  | _ => 0

theorem turnsLeft_le (t : Task) : t.turnsLeft ≤ 2 := by
  unfold turnsLeft
  split <;> omega

/-- After a turn of a warm-up `Task.turnsLeft` is less, and the deadline is the same. -/
theorem WarmTurn.after (h : t.WarmTurn timeout now n turn)
    (hbefore : t.stage = .fresh ∧ now + timeout = deadline ∨ t.stage = .dialling deadline) :
    turn.task.Warming timeout now deadline ∧ turn.task.turnsLeft < t.turnsLeft := by
  cases h with
  | asked hfresh hafter _ =>
      rcases hbefore with ⟨-, htime⟩ | hother
      · exact ⟨.waiting (htime ▸ hafter), by simp [turnsLeft, hfresh, hafter]⟩
      · rw [hfresh] at hother
        contradiction
  | ended result hafter _ =>
      refine ⟨.ended result hafter, ?_⟩
      rcases hbefore with ⟨hbefore, -⟩ | hbefore
      · simp [turnsLeft, hbefore, hafter]
      · simp [turnsLeft, hbefore, hafter]

theorem WarmTurn.effects (h : t.WarmTurn timeout now n turn) :
    ∀ effect ∈ turn.effects, ∃ e, effect = .dial e := by
  cases h with
  | asked _ _ heffects => simp [heffects]
  | ended _ _ heffects => simp [heffects]

/-- Who is in `Stage.dialling` waits on if there is no news and time is not up. -/
theorem dialling_step_eq_none_iff (hstage : t.stage = .dialling deadline)
    (harrival : arrival? = none ∨ arrival? = some .refused ∨
      ∃ link, arrival? = some (.connected link)) :
    t.step now ticket arrival? n = none ↔ now < deadline ∧ arrival? = none := by
  unfold step
  rw [hstage]
  rcases harrival with rfl | rfl | ⟨link, rfl⟩
  · simp
  · simp
  · simp

end Task

/-! ## All warm-ups -/

/-- There is a task under each ticket of `Fleet.spawnAll`. -/
theorem Fleet.isSome_of_spawnAll (f : Fleet) (tasks : List (Endpoint × Purpose)) :
    ∀ ticket ∈ (f.spawnAll tasks).2, ((f.spawnAll tasks).1.jobs.lookup ticket).isSome := by
  intro ticket hmem
  rw [tickets_spawnAll, List.mem_range'_1] at hmem
  have hindex : ticket - f.nextTicket < tasks.length := by
    simp only [Ticket] at *
    omega
  rw [lookup_spawnAll, if_pos hmem, List.getElem?_eq_getElem hindex]
  rfl

namespace Sim

namespace World

variable {timeout : Duration} {deadline : Time} {w w' w'' : World} {ticket : Ticket}

/-- The world after a turn of a task. -/
def turned (w : World) (ticket : Ticket) (job : Job) (node : Node) (turn : Turn) : World :=
  { w with
    fleet := w.fleet.turned ticket job turn
    network := turn.effects.foldl (fun n effect => n.perform w.now ticket effect)
      (w.network.poll w.now ticket (job.task.awaits ticket node)).2 }

theorem stepTask_eq_some (h : w.stepTask ticket = some w') :
    ∃ job node turn, w.fleet.job? ticket = some (job, node) ∧
      job.task.step w.now ticket
        (w.network.poll w.now ticket (job.task.awaits ticket node)).1 node = some turn ∧
      w' = w.turned ticket job node turn := by
  unfold stepTask at h
  split at h
  · contradiction
  · next job node hjob =>
      obtain ⟨⟨fleet, effects⟩, hstep, rfl⟩ := Option.map_eq_some_iff.mp h
      obtain ⟨job', node', turn, hjob', hturn, rfl, rfl⟩ := Fleet.step_eq_some hstep
      obtain ⟨rfl, rfl⟩ := Prod.mk.inj (Option.some.inj (hjob.symm.trans hjob'))
      exact ⟨job, node, turn, hjob, hturn, rfl⟩

/-- What `World.stepTask` does is a turn of the task, if it can go on. -/
theorem stepTask_eq_none_iff {job : Job} {node : Node}
    (hjob : w.fleet.job? ticket = some (job, node)) :
    w.stepTask ticket = none ↔
      job.task.step w.now ticket
        (w.network.poll w.now ticket (job.task.awaits ticket node)).1 node = none := by
  unfold stepTask Fleet.step
  rw [hjob]
  simp only [Option.map_eq_none_iff]

/-- **A start under way:** there are no tasks but warm-ups, of nodes that are `Node.OneAhead`, which
    have the same `deadline`. -/
structure Launching (timeout : Duration) (deadline : Time) (w : World) : Prop where
  foreground : w.foreground = []
  doomed : w.doomed = []
  sweeper : w.fleet.sweeper = .absent
  early : w.now ≤ deadline
  nodes : w.fleet.nodes.All (Node.OneAhead timeout)
  jobs : w.fleet.jobs.All fun job =>
    job.task.purpose = .warmUp true ∧ job.task.Warming timeout w.now deadline ∧
      ∃ node, w.fleet.nodes.lookup job.server = some node

/-- How many turns the task of a ticket may still have, `Task.turnsLeft`. -/
def turnsLeft (w : World) (ticket : Ticket) : Nat :=
  ((w.fleet.jobs.lookup ticket).map (·.task.turnsLeft)).getD 0

theorem turnsLeft_le (w : World) (ticket : Ticket) : w.turnsLeft ticket ≤ 2 := by
  unfold turnsLeft
  cases w.fleet.jobs.lookup ticket with
  | none => exact Nat.zero_le 2
  | some job => exact job.task.turnsLeft_le

/-- What turns of one task leave as it is: `World.now` stands still, nothing is sent
    (`Network.Unasked`), and the other tasks and their `Network.dials` are not touched. -/
structure Beside (ticket : Ticket) (w w' : World) : Prop where
  now : w'.now = w.now
  network : w.network.Beside ticket w'.network
  jobs : ∀ other, other ≠ ticket → w'.fleet.jobs.lookup other = w.fleet.jobs.lookup other
  kept : ∀ other, (w.fleet.jobs.lookup other).isSome → (w'.fleet.jobs.lookup other).isSome

theorem Beside.refl (ticket : Ticket) (w : World) : w.Beside ticket w :=
  ⟨rfl, .refl .., fun _ _ => rfl, fun _ => id⟩

theorem Beside.trans (h : w.Beside ticket w') (h' : w'.Beside ticket w'') : w.Beside ticket w'' where
  now := h'.now.trans h.now
  network := h.network.trans h'.network
  jobs other hother := (h'.jobs other hother).trans (h.jobs other hother)
  kept other hkept := h'.kept other (h.kept other hkept)

/-- A task that has no `Effect` but `Effect.dial` leaves all the rest as it is. -/
theorem beside_turned {job : Job} {node : Node} {turn : Turn}
    (hawaits : job.task.awaits ticket node = .nothing ∨ job.task.awaits ticket node = .connection)
    (heffects : ∀ effect ∈ turn.effects, ∃ e, effect = .dial e) :
    w.Beside ticket (w.turned ticket job node turn) := by
  have hjobs : (w.turned ticket job node turn).fleet.jobs =
      w.fleet.jobs.insert ticket { job with task := turn.task } := Fleet.notify_jobs ..
  refine ⟨rfl, (Network.beside_poll hawaits).trans (Network.beside_performs heffects), ?_, ?_⟩
  · intro other hother
    rw [hjobs, Table.lookup_insert, if_neg hother]
  · intro other hsome
    rw [hjobs, Table.lookup_insert]
    split
    · rfl
    · exact hsome

namespace Launching

/-- A task has its node (`Fleet.job?`). -/
theorem job? (h : w.Launching timeout deadline) {job : Job}
    (hjob : w.fleet.jobs.lookup ticket = some job) :
    ∃ node, w.fleet.job? ticket = some (job, node) := by
  obtain ⟨-, -, node, hnode⟩ := h.jobs ticket job hjob
  exact ⟨node, Fleet.job?_eq_some_iff.mpr ⟨hjob, hnode⟩⟩

/-- **Which warm-ups wait:** those that have ended, and those whose time is not up and for whom
    `Network.pollDial` has no news. -/
theorem stepTask_eq_none_iff (h : w.Launching timeout deadline) {job : Job}
    (hjob : w.fleet.jobs.lookup ticket = some job) :
    w.stepTask ticket = none ↔
      (∃ result, job.task.stage = .finished result) ∨
        job.task.stage = .dialling deadline ∧ w.now < deadline ∧
          (w.network.pollDial w.now ticket).1 = none := by
  obtain ⟨node, hnode⟩ := h.job? hjob
  obtain ⟨-, hwarming, -⟩ := h.jobs ticket job hjob
  rw [World.stepTask_eq_none_iff hnode]
  cases hwarming with
  | waiting hstage =>
      have hawaits : job.task.awaits ticket node = .connection := by
        unfold Task.awaits
        rw [hstage]
      rw [hawaits]
      refine (Task.dialling_step_eq_none_iff hstage (Network.pollDial_cases ..)).trans ?_
      simp [hstage]
  | fresh hstage _ => simp [Task.step, hstage]
  | ended result hstage => simp [Task.step, hstage]

/-- **A turn of one warm-up does not wake up another** (`World.Beside`). -/
theorem stepTask_eq_none_congr (h : w.Launching timeout deadline)
    (h' : w'.Launching timeout deadline) (hbeside : w.Beside ticket w') {other : Ticket}
    (hother : other ≠ ticket) (hnone : w.stepTask other = none) : w'.stepTask other = none := by
  have hsame := hbeside.jobs other hother
  cases hjob : w.fleet.jobs.lookup other with
  | none =>
      unfold World.stepTask Fleet.job?
      rw [hsame, hjob]
  | some job =>
      rw [h'.stepTask_eq_none_iff (hsame.trans hjob), hbeside.now]
      rcases (h.stepTask_eq_none_iff hjob).mp hnone with hended | ⟨hstage, hearly, hquiet⟩
      · exact .inl hended
      · exact .inr ⟨hstage, hearly,
          Network.pollDial_eq_none_congr (hbeside.network.dials other hother) hquiet⟩

/-- A task that can go on has not ended, and waits for no octets. -/
theorem stage (h : w.Launching timeout deadline) {job : Job}
    (hjob : w.fleet.jobs.lookup ticket = some job) (hstep : w.stepTask ticket = some w') :
    job.task.stage = .fresh ∧ w.now + timeout = deadline ∨ job.task.stage = .dialling deadline := by
  obtain ⟨-, hwarming, -⟩ := h.jobs ticket job hjob
  cases hwarming with
  | fresh hstage htime => exact .inl ⟨hstage, htime⟩
  | waiting hstage => exact .inr hstage
  | ended result hstage =>
      have hnone := (h.stepTask_eq_none_iff hjob).mpr (.inl ⟨result, hstage⟩)
      rw [hnone] at hstep
      contradiction

theorem turned (h : w.Launching timeout deadline) {job : Job} {node : Node} {turn : Turn}
    (hnode : w.fleet.nodes.lookup job.server = some node) (hahead : turn.node.OneAhead timeout)
    (hpurpose : turn.task.purpose = .warmUp true)
    (hwarming : turn.task.Warming timeout w.now deadline) :
    (w.turned ticket job node turn).Launching timeout deadline := by
  have hjobs : (w.turned ticket job node turn).fleet.jobs =
      w.fleet.jobs.insert ticket { job with task := turn.task } := Fleet.notify_jobs ..
  have hnodes : (w.turned ticket job node turn).fleet.nodes =
      w.fleet.nodes.insert job.server turn.node := Fleet.notify_nodes ..
  have hthere : ∀ server node, w.fleet.nodes.lookup server = some node →
      ∃ node', (w.fleet.nodes.insert job.server turn.node).lookup server = some node' := by
    intro server node hnode
    rw [Table.lookup_insert]
    split
    · exact ⟨turn.node, rfl⟩
    · exact ⟨node, hnode⟩
  refine ⟨h.foreground, h.doomed, (Fleet.notify_sweeper ..).trans h.sweeper, h.early, ?_, ?_⟩
  · rw [hnodes]
    exact h.nodes.insert job.server hahead
  · rw [hjobs, hnodes]
    refine Table.All.insert ?_ ticket ⟨hpurpose, hwarming, hthere _ node hnode⟩
    intro other old hold
    obtain ⟨hpurpose, hwarming, node, hnode⟩ := h.jobs other old hold
    exact ⟨hpurpose, hwarming, hthere _ node hnode⟩

/-- **A turn of a warm-up**, `World.stepTask`, keeps the start what it is and sends nothing, and the
    task has fewer turns left. -/
theorem stepTask (h : w.Launching timeout deadline) (hstep : w.stepTask ticket = some w') :
    w'.Launching timeout deadline ∧ w.Beside ticket w' ∧
      w'.turnsLeft ticket < w.turnsLeft ticket := by
  obtain ⟨job, node, turn, hjob, hturn, rfl⟩ := stepTask_eq_some hstep
  obtain ⟨hlookup, hnode⟩ := Fleet.job?_eq_some_iff.mp hjob
  obtain ⟨hpurpose, -, -⟩ := h.jobs ticket job hlookup
  have hstage := h.stage hlookup hstep
  obtain ⟨hahead, hpurpose', hwarm⟩ :=
    Task.warmUp_step hpurpose (h.nodes job.server node hnode) (hstage.imp_left And.left) hturn
  obtain ⟨hwarming, hleft⟩ := hwarm.after hstage
  refine ⟨h.turned hnode hahead hpurpose' hwarming, beside_turned ?_ hwarm.effects, ?_⟩
  · unfold Task.awaits
    rcases hstage with ⟨hfresh, -⟩ | hdialling
    · rw [hfresh]
      exact .inl rfl
    · rw [hdialling]
      exact .inr rfl
  · have hafter : (w.turned ticket job node turn).fleet.jobs.lookup ticket =
        some { job with task := turn.task } := Fleet.lookup_job_turned
    unfold turnsLeft
    rw [hafter, hlookup]
    exact hleft

/-! ### The turn of the background -/

/-- **A task that `World.runTask` lets go on waits in the end,** and until then it has kept to
    itself. -/
theorem runTask (h : w.Launching timeout deadline) {fuel : Nat}
    (hfuel : w.turnsLeft ticket < fuel) :
    (w.runTask ticket fuel).1.Launching timeout deadline ∧
      w.Beside ticket (w.runTask ticket fuel).1 ∧
      (w.runTask ticket fuel).1.stepTask ticket = none := by
  induction fuel generalizing w with
  | zero => exact absurd hfuel (Nat.not_lt_zero _)
  | succ fuel ih =>
      unfold World.runTask
      split
      · next hnone => exact ⟨h, .refl .., hnone⟩
      · next w' hstep =>
          obtain ⟨hlaunching, hbeside, hleft⟩ := h.stepTask hstep
          obtain ⟨hlast, hlater, hnone⟩ := ih hlaunching (by omega)
          exact ⟨hlast, hbeside.trans hlater, hnone⟩

end Launching

/-- What a round leaves as it is: `World.now` stands still, nothing is sent, no task is lost, and
    who waited waits. -/
structure Calmer (w w' : World) : Prop where
  now : w'.now = w.now
  network : w.network.Unasked w'.network
  kept : ∀ ticket, (w.fleet.jobs.lookup ticket).isSome → (w'.fleet.jobs.lookup ticket).isSome
  waits : ∀ ticket, w.stepTask ticket = none → w'.stepTask ticket = none

theorem Calmer.refl (w : World) : w.Calmer w :=
  ⟨rfl, .refl _, fun _ => id, fun _ => id⟩

theorem Calmer.trans (h : w.Calmer w') (h' : w'.Calmer w'') : w.Calmer w'' where
  now := h'.now.trans h.now
  network := h.network.trans h'.network
  kept ticket hkept := h'.kept ticket (h.kept ticket hkept)
  waits ticket hwaits := h'.waits ticket (h.waits ticket hwaits)

/-- All tasks wait: `World.stepTask` does nothing for any of them. -/
def Quiet (w : World) : Prop :=
  ∀ ticket, w.stepTask ticket = none

/-- Tasks that have `World.runTask` one after the other. -/
def runTasks (tickets : List Ticket) (moved : Bool) (w : World) : World × Bool :=
  tickets.foldl (fun (w, moved) ticket =>
    let (w, went) := w.runTask ticket patience
    (w, moved || went)) (w, moved)

theorem runTasks_cons (ticket : Ticket) (tickets : List Ticket) (moved : Bool) (w : World) :
    w.runTasks (ticket :: tickets) moved =
      (w.runTask ticket patience).1.runTasks tickets
        (moved || (w.runTask ticket patience).2) := by
  unfold runTasks
  rw [List.foldl_cons]

/-- What `World.round` does when there is no sweeper. -/
theorem round_eq_runTasks (h : w.fleet.sweep w.now = none) :
    w.round = w.runTasks (w.fleet.jobs.keys.filter fun ticket => ¬ w.foreground.contains ticket)
      false := by
  unfold round runTasks
  rw [h]

/-- A task that waits is passed over by `World.runTask`. -/
theorem runTask_of_waiting {fuel : Nat} (h : w.stepTask ticket = none) :
    w.runTask ticket fuel = (w, false) := by
  cases fuel with
  | zero => rfl
  | succ fuel => rw [runTask, h]

theorem runTasks_of_waiting {tickets : List Ticket}
    (h : ∀ ticket ∈ tickets, w.stepTask ticket = none) (moved : Bool) :
    w.runTasks tickets moved = (w, moved) := by
  induction tickets with
  | nil => rfl
  | cons ticket tickets ih =>
      rw [List.forall_mem_cons] at h
      rw [runTasks_cons, runTask_of_waiting h.1, Bool.or_false]
      exact ih h.2

/-- A task that has not moved has changed nothing. -/
theorem runTask_of_still {fuel : Nat} (h : (w.runTask ticket fuel).2 = false) :
    (w.runTask ticket fuel).1 = w := by
  cases fuel with
  | zero => rfl
  | succ fuel =>
      unfold runTask at h ⊢
      cases hstep : w.stepTask ticket with
      | none => rfl
      | some w' =>
          rw [hstep] at h
          contradiction

theorem runTasks_of_still {tickets : List Ticket} {moved : Bool}
    (h : (w.runTasks tickets moved).2 = false) :
    moved = false ∧ (w.runTasks tickets moved).1 = w := by
  induction tickets generalizing w moved with
  | nil => exact ⟨h, rfl⟩
  | cons ticket tickets ih =>
      rw [runTasks_cons] at h ⊢
      obtain ⟨hfirst, hlast⟩ := ih h
      obtain ⟨hmoved, hstill⟩ := Bool.or_eq_false_iff.mp hfirst
      exact ⟨hmoved, hlast.trans (runTask_of_still hstill)⟩

namespace Launching

/-- **Tasks that have their turns one after the other**, `World.runTasks`, all wait in the end. -/
theorem runTasks (h : w.Launching timeout deadline) (tickets : List Ticket) (moved : Bool) :
    (w.runTasks tickets moved).1.Launching timeout deadline ∧
      w.Calmer (w.runTasks tickets moved).1 ∧
      ∀ ticket ∈ tickets, (w.runTasks tickets moved).1.stepTask ticket = none := by
  induction tickets generalizing w moved with
  | nil => exact ⟨h, .refl w, fun _ hmem => absurd hmem List.not_mem_nil⟩
  | cons ticket tickets ih =>
      have hpatience : w.turnsLeft ticket < patience :=
        Nat.lt_of_le_of_lt (w.turnsLeft_le ticket) (by simp [patience])
      obtain ⟨hfirst, hbeside, hnone⟩ := h.runTask hpatience
      have hcalmer : w.Calmer (World.runTask ticket patience w).1 := by
        refine ⟨hbeside.now, hbeside.network.unasked, hbeside.kept, ?_⟩
        intro other hother
        by_cases hsame : other = ticket
        · rw [hsame]
          exact hnone
        · exact h.stepTask_eq_none_congr hfirst hbeside hsame hother
      rw [runTasks_cons]
      obtain ⟨hlast, hlater, hrest⟩ := ih hfirst (moved || (World.runTask ticket patience w).2)
      refine ⟨hlast, hcalmer.trans hlater, ?_⟩
      rw [List.forall_mem_cons]
      exact ⟨hlater.waits ticket hnone, hrest⟩

/-- There is no sweeper yet, and `Fleet.sweep` does nothing. -/
theorem sweep (h : w.Launching timeout deadline) : w.fleet.sweep w.now = none := by
  unfold Fleet.sweep
  rw [h.sweeper]

/-- **After one round of the background everything waits** (`World.Quiet`). -/
theorem round (h : w.Launching timeout deadline) :
    w.round.1.Launching timeout deadline ∧ w.Calmer w.round.1 ∧ w.round.1.Quiet := by
  rw [round_eq_runTasks h.sweep]
  obtain ⟨hlaunching, hcalmer, hrest⟩ :=
    h.runTasks (w.fleet.jobs.keys.filter fun ticket => ¬ w.foreground.contains ticket) false
  refine ⟨hlaunching, hcalmer, fun ticket => ?_⟩
  by_cases hmem : ticket ∈ w.fleet.jobs.keys
  · refine hrest ticket (List.mem_filter.mpr ⟨hmem, ?_⟩)
    rw [h.foreground]
    rfl
  · -- who has no ticket has nothing to do
    apply hcalmer.waits
    unfold World.stepTask Fleet.job?
    rw [Table.lookup_of_not_mem_keys hmem]

theorem round_of_quiet (h : w.Launching timeout deadline) (hquiet : w.Quiet) :
    w.round = (w, false) := by
  rw [round_eq_runTasks h.sweep]
  exact runTasks_of_waiting (fun ticket _ => hquiet ticket) false

theorem round_of_still (h : w.Launching timeout deadline) (hstill : w.round.2 = false) :
    w.round.1 = w := by
  rw [round_eq_runTasks h.sweep] at hstill ⊢
  exact (runTasks_of_still hstill).2

/-- A second `World.round` finds nothing to do. -/
theorem rounds (h : w.Launching timeout deadline) (fuel : Nat) :
    w.rounds (fuel + 2) = w.round := by
  obtain ⟨hlaunching, -, hquiet⟩ := h.round
  have hagain := hlaunching.round_of_quiet hquiet
  unfold World.rounds
  generalize w.round = r at hagain
  obtain ⟨w', moved⟩ := r
  cases moved with
  | true =>
      dsimp only
      unfold World.rounds
      rw [hagain]
  | false => rfl

theorem settle (h : w.Launching timeout deadline) : w.settle = w.round := by
  obtain ⟨fuel, hfuel⟩ : ∃ fuel, patience = fuel + 2 := ⟨999998, rfl⟩
  have hsame : { w with fleet := w.doomed.foldl Fleet.cancel w.fleet, doomed := [] } = w := by
    rw [h.doomed, List.foldl_nil, ← h.doomed]
  unfold World.settle
  rw [hsame, hfuel]
  dsimp only
  rw [h.rounds, h.doomed]
  simp

/-! ### Time -/

/-- Where all tasks wait, time may pass until their `deadline`. -/
theorem later (h : w.Launching timeout deadline) (hquiet : w.Quiet) {time : Time}
    (htime : time ≤ deadline) : Launching timeout deadline { w with now := time } := by
  refine ⟨h.foreground, h.doomed, h.sweeper, htime, h.nodes, ?_⟩
  intro ticket job hjob
  obtain ⟨hpurpose, -, hnode⟩ := h.jobs ticket job hjob
  refine ⟨hpurpose, ?_, hnode⟩
  rcases (h.stepTask_eq_none_iff hjob).mp (hquiet ticket) with ⟨result, hstage⟩ | ⟨hstage, -, -⟩
  · exact .ended result hstage
  · exact .waiting hstage

/-- A task that has not ended where all tasks wait has its deadline before it. -/
theorem deadline_of_quiet (h : w.Launching timeout deadline) (hquiet : w.Quiet) {job : Job}
    (hjob : w.fleet.jobs.lookup ticket = some job) (hresult : job.task.result? = none) :
    job.task.deadline? = some deadline ∧ w.now < deadline := by
  rcases (h.stepTask_eq_none_iff hjob).mp (hquiet ticket) with
    ⟨result, hstage⟩ | ⟨hstage, hearly, -⟩
  · unfold Task.result? at hresult
    rw [hstage] at hresult
    contradiction
  · refine ⟨?_, hearly⟩
    unfold Task.deadline?
    rw [hstage]

/-- **Time passes next,** to `World.nextMoment?`, and no further than to the deadline. -/
theorem nextMoment? (h : w.Launching timeout deadline) (hquiet : w.Quiet) {job : Job}
    (hjob : w.fleet.jobs.lookup ticket = some job) (hresult : job.task.result? = none)
    {α : Type} (calls : List (Call α)) :
    ∃ time, w.nextMoment? none calls = some time ∧ w.now < time ∧ time ≤ deadline := by
  obtain ⟨hdeadline, hearly⟩ := h.deadline_of_quiet hquiet hjob hresult
  obtain ⟨node, hnode⟩ := h.job? hjob
  have hwakes : deadline ∈ w.wakes := by
    refine List.mem_flatMap.mpr ⟨(ticket, job), Table.mem_of_lookup hjob, ?_⟩
    dsimp only
    rw [hnode]
    simp [hdeadline]
  unfold World.nextMoment?
  generalize hmoments : (w.wakes ++ w.sweeperWake?.toList ++ (none : Option Time).toList ++
    calls.flatMap Call.wakes).filter (w.now < ·) = moments
  have hmem : deadline ∈ moments := by
    rw [← hmoments]
    simp [hwakes, hearly]
  cases hmin : moments.min? with
  | none =>
      rw [List.min?_eq_none_iff.mp hmin] at hmem
      cases hmem
  | some time =>
      obtain ⟨htime, hleast⟩ := List.min?_eq_some_iff.mp hmin
      refine ⟨time, rfl, ?_, hleast deadline hmem⟩
      rw [← hmoments] at htime
      exact of_decide_eq_true (List.mem_filter.mp htime).2

end Launching

end World

/-! ## The call -/

variable {α : Type} {w w' : World} {c c' : Call α} {tickets : List Ticket} {timeout : Duration}
  {deadline : Time}

/-- **A call in `Phase.starting`** ends when all of its tasks have ended. -/
theorem Call.await_starting (hphase : c.phase = .starting tickets) (hlimit : c.deadline? = none)
    (hforeground : w.foreground = []) (moved : Bool) :
    (∃ fleet, c.await w moved = ({ w with fleet := fleet }, c.finish .started, true)) ∨
      c.await w moved = (w, c, moved) ∧ ∃ ticket ∈ tickets, w.fleet.result? ticket = none := by
  obtain ⟨errand, limit?, deadline?, phase⟩ := c
  subst hphase hlimit
  unfold await proceed Call.tickets
  rw [hforeground]
  cases hcollect : w.fleet.collect tickets with
  | some collected =>
      left
      exact ⟨collected.1.settled w.now, by simp [hcollect, hforeground, finish, outturn?]⟩
  | none =>
      right
      refine ⟨by simp [hcollect, outturn?], ?_⟩
      unfold Fleet.collect at hcollect
      simpa using hcollect

namespace World

/-- What `World.drive` does is over with the turn in which its call ends. -/
theorem drive_of_ended {moved : Bool} {fuel : Nat} (hpoll : c.poll w = (w', c', moved))
    (hended : c'.outturn?.isSome = true) : drive none (fuel + 1) w [c] = (w', [c']) := by
  simp [drive, pollAll, hpoll, hended]

/-- Where a call waits the background has its turn, `World.settle`, and the call has another one if
    anything has happened. -/
theorem drive_of_moved {moved : Bool} {fuel : Nat} (hpoll : c.poll w = (w', c', moved))
    (hopen : c'.outturn? = none) (hmoved : moved = true ∨ w'.settle.2 = true) :
    drive none (fuel + 1) w [c] = drive none fuel w'.settle.1 [c'] := by
  simp [drive, pollAll, hpoll, hopen, hmoved]

/-- Time passes to `World.nextMoment?` if nothing has happened. -/
theorem drive_of_still {fuel : Nat} {time : Time} (hpoll : c.poll w = (w', c', false))
    (hopen : c'.outturn? = none) (hstill : w'.settle.2 = false)
    (hnext : w'.settle.1.nextMoment? none [c'] = some time) :
    drive none (fuel + 1) w [c] = drive none fuel { w'.settle.1 with now := time } [c'] := by
  simp [drive, pollAll, hpoll, hopen, hstill, hnext]

/-- **So many turns are enough:** two for each moment until the `deadline`, and one more if not
    everything waits. -/
def Enough (deadline : Time) (fuel : Nat) (w : World) : Prop :=
  2 * (deadline - w.now) + 2 ≤ fuel ∨ w.Quiet ∧ 2 * (deadline - w.now) + 1 ≤ fuel

theorem not_enough_zero (deadline : Time) (w : World) : ¬ w.Enough deadline 0 := by
  rintro (hzero | ⟨-, hzero⟩)
  · exact absurd hzero (Nat.not_succ_le_zero _)
  · exact absurd hzero (Nat.not_succ_le_zero _)

namespace Launching

/-- The background has moved. It does so in no two turns at the same moment. -/
theorem enough_round {fuel : Nat} (h : w.Launching timeout deadline)
    (henough : w.Enough deadline (fuel + 1)) (hmoved : w.round.2 = true) :
    w.round.1.Enough deadline fuel := by
  obtain ⟨-, hcalmer, hquiet⟩ := h.round
  refine .inr ⟨hquiet, ?_⟩
  rw [hcalmer.now]
  rcases henough with hleft | ⟨hbefore, -⟩
  · exact Nat.le_of_succ_le_succ hleft
  · rw [h.round_of_quiet hbefore] at hmoved
    contradiction

/-- Time has passed. -/
theorem enough_later {fuel : Nat} {time : Time} (henough : w.Enough deadline (fuel + 1))
    (hafter : w.now < time) (hbefore : time ≤ deadline) :
    Enough deadline fuel { w with now := time } := by
  have hleft : 2 * (deadline - w.now) + 1 ≤ fuel + 1 := by
    rcases henough with hleft | ⟨-, hleft⟩
    · exact Nat.le_of_succ_le hleft
    · exact hleft
  left
  simp only [Time] at *
  omega

/-- **One turn of the call.** It ends; or else the background has moved, or time has passed, and the
    start is still under way (`World.Launching`). -/
theorem turn {fuel : Nat} (h : w.Launching timeout deadline)
    (htickets : ∀ ticket ∈ tickets, (w.fleet.jobs.lookup ticket).isSome)
    (hphase : c.phase = .starting tickets) (hlimit : c.deadline? = none)
    (henough : w.Enough deadline (fuel + 1)) :
    (∃ fleet, World.drive none (fuel + 1) w [c] =
        ({ w with fleet := fleet }, [c.finish .started])) ∨
      ∃ w', w'.Launching timeout deadline ∧ w.network.Unasked w'.network ∧
        (∀ ticket ∈ tickets, (w'.fleet.jobs.lookup ticket).isSome) ∧ w'.Enough deadline fuel ∧
        World.drive none (fuel + 1) w [c] = World.drive none fuel w' [c] := by
  have hopen : c.outturn? = none := by
    unfold Call.outturn?
    rw [hphase]
  have hbegun : c.phase ≠ .fresh := by
    rw [hphase]
    nofun
  have hpoll := Call.poll_begun (w := w) hbegun hopen
  rcases Call.await_starting hphase hlimit h.foreground false with
    ⟨fleet, hended⟩ | ⟨hwaiting, ticket, hmem, hresult⟩
  · exact .inl ⟨fleet, drive_of_ended (hpoll.trans hended) rfl⟩
  · right
    have hturn := hpoll.trans hwaiting
    obtain ⟨hlaunching, hcalmer, hquiet⟩ := h.round
    cases hmoved : w.round.2 with
    | true =>
        refine ⟨w.round.1, hlaunching, hcalmer.network, ?_, h.enough_round henough hmoved, ?_⟩
        · intro ticket hmem
          exact hcalmer.kept ticket (htickets ticket hmem)
        · rw [drive_of_moved hturn hopen (.inr (h.settle ▸ hmoved)), h.settle]
    | false =>
        have hsettle : w.settle = (w, false) :=
          h.settle.trans (Prod.ext (h.round_of_still hmoved) hmoved)
        rw [h.round_of_still hmoved] at hquiet
        obtain ⟨job, hjob⟩ := Option.isSome_iff_exists.mp (htickets ticket hmem)
        have hunended : job.task.result? = none := by
          unfold Fleet.result? at hresult
          rwa [hjob] at hresult
        obtain ⟨time, hnext, hafter, hbefore⟩ := h.nextMoment? hquiet hjob hunended [c]
        refine ⟨{ w with now := time }, h.later hquiet hbefore, .refl _, htickets,
          enough_later henough hafter hbefore, ?_⟩
        rw [drive_of_still hturn hopen (by rw [hsettle]) (by rw [hsettle]; exact hnext), hsettle]

/-- **The call ends**, if `World.drive` has turns `World.Enough`. -/
theorem drive {fuel : Nat} (h : w.Launching timeout deadline)
    (htickets : ∀ ticket ∈ tickets, (w.fleet.jobs.lookup ticket).isSome)
    (hphase : c.phase = .starting tickets) (hlimit : c.deadline? = none)
    (henough : w.Enough deadline fuel) :
    ∃ w', World.drive none fuel w [c] = (w', [c.finish .started]) ∧
      w.network.Unasked w'.network := by
  induction fuel generalizing w with
  | zero => exact absurd henough (not_enough_zero deadline w)
  | succ fuel ih =>
      rcases h.turn htickets hphase hlimit henough with
        ⟨fleet, hended⟩ | ⟨w', hlaunching, hunasked, hkept, hleft, hdrive⟩
      · exact ⟨_, hended, .refl _⟩
      · obtain ⟨last, hlast, hlater⟩ := ih hlaunching hkept hleft
        exact ⟨last, hdrive.trans hlast, hunasked.trans hlater⟩

end Launching

/-! ## The start -/

/-- The world in which `Fleet.launch` has begun a start. -/
theorem launching_unstarted (network : Network) (clock : WallTime) (settings : ClientSettings)
    (client : Client) (policy? : Option PolicyChoice) (hfew : settings.pool.minConnections ≤ 1) :
    Launching settings.pool.connectTimeout settings.pool.connectTimeout
      { unstarted network clock settings client policy? with
        fleet := (unstarted network clock settings client policy?).fleet.launch.1 } := by
  have hnodes : (unstarted network clock settings client policy?).fleet.launch.1.nodes =
      (unstarted network clock settings client policy?).fleet.nodes.mapValues
        fun node => { node with listening := true } := Fleet.spawnAll_nodes ..
  refine ⟨rfl, rfl, ?_, Nat.zero_le _, ?_, ?_⟩
  · obtain ⟨jobs, hlaunch⟩ := Fleet.launch_eq (unstarted network clock settings client policy?).fleet
    rw [hlaunch]
    rfl
  · intro server node hnode
    rw [hnodes, Table.lookup_mapValues] at hnode
    obtain ⟨fresh, hfresh, rfl⟩ := Option.map_eq_some_iff.mp hnode
    rw [Fleet.lookup_ofServers _ _ _ hfresh]
    exact ⟨rfl, hfew, rfl⟩
  · intro ticket job hjob
    rcases Fleet.mem_spawnAll hjob with hold | ⟨task, htask, rfl⟩
    · cases hold
    · obtain ⟨server, hserver, rfl⟩ := List.mem_map.mp htask
      refine ⟨rfl, .fresh rfl (Nat.zero_add _), ?_⟩
      rw [hnodes]
      exact Table.exists_of_mem_keys hserver

/-- **A start comes to its end** if `PoolSettings.minConnections` is at most one, whatever the
    network does, and no server has been asked anything (`Network.Unasked`). -/
theorem run_start (α : Type) (network : Network) (clock : WallTime) (settings : ClientSettings)
    (client : Client) (policy? : Option PolicyChoice) (hfew : settings.pool.minConnections ≤ 1)
    (hshort : 2 * settings.pool.connectTimeout + 2 ≤ lifetime) :
    ∃ w, (unstarted network clock settings client policy?).run ({ errand := .start } : Call α) =
        (w, some .started) ∧ network.Unasked w.network := by
  generalize hw : unstarted network clock settings client policy? = w
  have hbegun := launching_unstarted network clock settings client policy? hfew
  rw [hw] at hbegun
  have hnetwork : w.network = network := by
    rw [← hw]
    rfl
  let c : Call α := { errand := .start, phase := .starting w.fleet.launch.2 }
  have hpoll : Call.poll w ({ errand := .start } : Call α) =
      c.await { w with fleet := w.fleet.launch.1 } true := Call.poll_fresh rfl
  have htickets : ∀ ticket ∈ w.fleet.launch.2, (w.fleet.launch.1.jobs.lookup ticket).isSome :=
    Fleet.isSome_of_spawnAll _ _
  obtain ⟨fuel, hfuel⟩ : ∃ fuel, lifetime = fuel + 1 := ⟨9999999999999, rfl⟩
  have hdrive : ∃ w', drive none lifetime w [{ errand := .start }] = (w', [c.finish .started]) ∧
      network.Unasked w'.network := by
    rw [hfuel] at hshort ⊢
    rcases Call.await_starting (c := c) rfl rfl hbegun.foreground true with
      ⟨fleet, hended⟩ | ⟨hwaiting, -⟩
    · exact ⟨_, drive_of_ended (hpoll.trans hended) rfl, hnetwork ▸ .refl _⟩
    · obtain ⟨hlaunching, hcalmer, hquiet⟩ := hbegun.round
      rw [drive_of_moved (hpoll.trans hwaiting) rfl (.inl rfl), hbegun.settle]
      have hleft : 2 * settings.pool.connectTimeout + 1 ≤ fuel := Nat.le_of_succ_le_succ hshort
      obtain ⟨w', hdrive, hunasked⟩ := hlaunching.drive (c := c)
        (fun ticket hmem => hcalmer.kept ticket (htickets ticket hmem)) rfl rfl
        (.inr ⟨hquiet, Nat.le_trans (by simp) hleft⟩)
      exact ⟨w', hdrive, hnetwork ▸ hcalmer.network.trans hunasked⟩
  obtain ⟨w', hdrive, hunasked⟩ := hdrive
  refine ⟨{ w' with foreground := [] }, ?_, hunasked⟩
  unfold run
  rw [hdrive]
  rfl

end World

end Sim

end Memcache
