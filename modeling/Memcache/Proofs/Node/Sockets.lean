import Memcache.Proofs.Node.Course
import Memcache.Proofs.Node.Marking
import Memcache.Proofs.Pool.Conservation
import Memcache.Proofs.Table.Writes

/-!
# `Memcache.Proofs.Node.Sockets` — how many connections are open to one server

Three sorts of tasks open connections to a server. Whoever runs a command (`Purpose.acquires`) has a
permit of the pool first. A `Purpose.warmUp` has none, and looks at `Pool.idle` only. A probe,
`Purpose.revive`, has nothing to do with the pool at all; but the sweeper, who sets it up, waits for
it before it sets up another one.

So `PoolSettings.maxConnections` bounds what the permits and the start account for, and the
connection of one probe comes on top. Nothing keeps a probe from being made while the pool has all
its connections open: a command that waits for its answer keeps its connection when its node dies.

## Contents

* `Workload.connections`, `Workload.sockets` — connections that are open, or being opened as well;
* `Task.OwnsAsProbe`, `Workload.ownsAsProbe_step` — only probes have connections of their own;
* `Watched`, `Watched.Step` — a node and its sweeper; `Watched.sweep_keeps` — what the sweeper of a
  fleet does;
* `Watched.Inv`, `Watched.inv_step` — **one probe at a time**;
* `Watched.exists_probed` — **a probe is made whatever the pool has open**;
* `Watched.sockets_le` — **the bound**; `Watched.connections_exceed` — it is not the largest number
  that the settings name.
-/

namespace Memcache

/-! ## Connections -/

/-- True of `probe` and `revive`, for which the server is asked over a fresh connection. -/
def Purpose.isProbe : Purpose → Bool
  | .probe | .revive => true
  | _ => false

theorem Purpose.isProbe_of_isClaimless {purpose : Purpose} (hclaimless : purpose.isClaimless = true)
    (hwarm : purpose.isWarmUp = false) : purpose.isProbe = true := by
  cases purpose with
  | probe | revive => rfl
  | warmUp _ | borrow | use _ _ | execute _ => contradiction

theorem Purpose.isWarmUp_of_isProbe {purpose : Purpose} (h : purpose.isProbe = true) :
    purpose.isWarmUp = false := by
  cases purpose with
  | probe | revive => rfl
  | warmUp _ | borrow | use _ _ | execute _ => contradiction

namespace Stage

/-- True of `Stage.dialling`, while a connection is being opened. -/
def isDialling : Stage → Bool
  | .dialling _ => true
  | _ => false

/-- True of `Stage.probing`, while a task has an open connection of its own. -/
def isProbing : Stage → Bool
  | .probing _ _ _ => true
  | _ => false

theorem isDialling_iff {stage : Stage} :
    stage.isDialling = true ↔ ∃ deadline, stage = .dialling deadline := by
  cases stage with
  | dialling deadline => exact ⟨fun _ => ⟨deadline, rfl⟩, fun _ => rfl⟩
  | fresh | queued _ | talking _ _ | probing _ _ _ | finished _ => simp [isDialling]

theorem isProbing_iff {stage : Stage} :
    stage.isProbing = true ↔ ∃ c x deadline, stage = .probing c x deadline := by
  cases stage with
  | probing c x deadline => exact ⟨fun _ => ⟨c, x, deadline, rfl⟩, fun _ => rfl⟩
  | fresh | queued _ | dialling _ | talking _ _ | finished _ => simp [isProbing]

end Stage

namespace Task

/-- A `warmUp` that is `dialling`: a connection is being opened ahead of need. -/
def isStocking (t : Task) : Bool :=
  t.purpose.isWarmUp && t.stage.isDialling

/-- A task that has a connection of its own, or a probe that is having it opened. -/
def isSounding (t : Task) : Bool :=
  t.stage.isProbing || t.purpose.isProbe && t.stage.isDialling

/-- A task that has an open connection of its own is a probe, by `Purpose.isProbe`. -/
def OwnsAsProbe (t : Task) : Prop :=
  t.stage.isProbing = true → t.purpose.isProbe = true

theorem OwnsAsProbe.isProbe {t : Task} (h : t.OwnsAsProbe) (hsounding : t.isSounding = true) :
    t.purpose.isProbe = true := by
  unfold isSounding at hsounding
  rw [Bool.or_eq_true, Bool.and_eq_true] at hsounding
  rcases hsounding with hprobing | ⟨hprobe, -⟩
  · exact h hprobing
  · exact hprobe

end Task

namespace Workload

/-- How many connections are open: those in `Pool.idle`, those that are `Pool.lent`, and those of
    tasks in `Stage.probing`. -/
def connections (s : Workload) : Nat :=
  s.node.pool.idle.length + s.node.pool.lent + s.tasks.tally (·.stage.isProbing)

/-- How many are open or being opened: besides idle and lent ones those that are `Pool.connecting`,
    to be lent; those of `isStocking` tasks, to be idle; and those of `isSounding` tasks. -/
def sockets (s : Workload) : Nat :=
  s.node.pool.idle.length + s.node.pool.lent + s.node.pool.connecting +
    s.tasks.tally Task.isStocking + s.tasks.tally Task.isSounding

theorem probing_le_sounding (s : Workload) :
    s.tasks.tally (·.stage.isProbing) ≤ s.tasks.tally Task.isSounding := by
  apply List.countP_mono_left
  intro e _ hprobing
  show (e.2.stage.isProbing || e.2.purpose.isProbe && e.2.stage.isDialling) = true
  exact Bool.or_eq_true_iff.mpr (.inl hprobing)

theorem connections_le_sockets (s : Workload) : s.connections ≤ s.sockets := by
  have hprobing := s.probing_le_sounding
  unfold connections sockets
  omega

end Workload

/-! ## Only probes have connections of their own -/

/-- A `warmUp` puts its connections into the pool, and never comes to be `probing`. -/
theorem Task.isProbing_of_warmUp {n : Node} {ticket : Ticket} {task : Task} {now : Time}
    {arrival? : Option Arrival} {turn : Turn} (hwarm : task.purpose.isWarmUp = true)
    (hclaimless : task.stage.Claimless) (hprobing : task.stage.isProbing = false)
    (hturn : task.step now ticket arrival? n = some turn) :
    turn.task.stage.isProbing = false := by
  rcases Workload.warmUp_cases hwarm hclaimless hturn with ⟨n', task', rfl⟩ | ⟨result, hresult⟩ |
    ⟨_, _, _, hstage, -⟩
  · unfold stockUp
    split
    · rfl
    · rfl
  · rw [hresult]
    rfl
  · rw [hstage] at hprobing
    contradiction

/-- A turn of a task that `OwnsAsProbe` leaves one that does. -/
theorem Task.ownsAsProbe_step {n : Node} {ticket : Ticket} {task : Task} {now : Time}
    {arrival? : Option Arrival} {turn : Turn} (h : task.OwnsAsProbe) (hsound : n.pool.Sound)
    (hfits : task.Fits ticket n.pool)
    (hfresh : ∀ link, arrival? = some (.connected link) → n.pool.uses link = 0)
    (hturn : task.step now ticket arrival? n = some turn) : turn.task.OwnsAsProbe := by
  intro hprobing
  have hkeeps := keeps_step hsound hfits hfresh hturn
  obtain ⟨c, x, deadline, hstage⟩ := Stage.isProbing_iff.mp hprobing
  rcases hkeeps.fits.cases with ⟨-, hholds⟩ | ⟨_, _, -, -, hborrows⟩ | ⟨hclaimless, -, -⟩
  · rw [hstage] at hholds
    exact absurd hholds id
  · rw [hstage] at hborrows
    exact absurd hborrows id
  · apply Purpose.isProbe_of_isClaimless hclaimless
    rw [hkeeps.purpose] at hclaimless ⊢
    apply Bool.eq_false_iff.mpr
    intro hwarm
    have hbefore : task.stage.isProbing = false := by
      apply Bool.eq_false_iff.mpr
      intro hbefore
      rw [Purpose.isWarmUp_of_isProbe (h hbefore)] at hwarm
      contradiction
    have hstageClaimless := ((fits_of_isClaimless hclaimless).mp hfits).2
    rw [isProbing_of_warmUp hwarm hstageClaimless hbefore hturn] at hprobing
    contradiction

/-- What is true of all tasks before a turn, and of its own `task` after it, is true of all tasks in
    `Turn.tasks`. -/
theorem Table.All.tasks {p : Task → Prop} {tasks : Table Ticket Task} {ticket : Ticket}
    {turn : Turn} (h : tasks.All p) (hturn : p turn.task) : (turn.tasks ticket tasks).All p := by
  unfold Turn.tasks
  split
  · exact h.erase ticket
  · exact h.insert ticket hturn

namespace Workload

/-- No ticket is listed twice in `Workload.tasks`. -/
theorem keys_step {s s' : Workload} (h : s.tasks.keys.Nodup) (hstep : s.Step s') :
    s'.tasks.keys.Nodup := by
  cases hstep with
  | spawn _ _ _ _ _ | seize _ _ _ _ _ | stock _ _ _ _ _ => exact Table.nodup_keys_insert h
  | cancel _ => exact Table.nodup_keys_erase h
  | discard _ | restock _ _ | surrender _ _ | clearIdle | close | other _ _ => exact h
  | @step ticket task now arrival? turn htask hfresh hturn =>
      show (turn.tasks ticket s.tasks).keys.Nodup
      unfold Turn.tasks
      split
      · exact Table.nodup_keys_erase h
      · exact Table.nodup_keys_insert h

/-- **Only probes come to have connections of their own:** a `Workload.Step` keeps
    `Task.OwnsAsProbe` true of all tasks. -/
theorem ownsAsProbe_step {s s' : Workload} (h : s.Inv) (howns : s.tasks.All Task.OwnsAsProbe)
    (hstep : s.Step s') : s'.tasks.All Task.OwnsAsProbe := by
  cases hstep with
  | spawn _ _ _ _ _ | seize _ _ _ _ _ | stock _ _ _ _ _ => exact howns.insert _ nofun
  | cancel _ => exact howns.erase _
  | discard _ | restock _ _ | surrender _ _ | clearIdle | close | other _ _ => exact howns
  | @step ticket task now arrival? turn htask hfresh hturn =>
      exact howns.tasks (Task.ownsAsProbe_step (howns ticket task htask) h.sound
        (h.fits ticket task htask) hfresh hturn)

end Workload

/-! ## The sweeper -/

/-- A node with all its tasks, `workload`, and the ticket `probe?` of the probe that its sweeper
    waits for. -/
structure Watched where
  workload : Workload
  probe? : Option Ticket := none

namespace Watched

/-- A new node, whose sweeper waits for nothing. -/
def start (endpoint : Endpoint) (settings : PoolSettings) (policy : PolicyChoice) : Watched :=
  { workload := .start endpoint settings policy }

/-- The state after the sweeper has put `probe` into the tasks and waits for it. -/
def underProbe (s : Watched) (ticket : Ticket) (probe : Task) : Watched :=
  { workload := { s.workload with tasks := s.workload.tasks.insert ticket probe }
    probe? := some ticket }

/-- The node has been dead since a time that `deadTimeout` of its settings has passed since. -/
def Due (s : Watched) (now : Time) : Prop :=
  ∃ since, s.workload.node.deadSince? = some since ∧
    s.workload.node.pool.settings.deadTimeout ≤ now - since

/-- **One turn**, of anybody on the node or of its sweeper. -/
inductive Step (s : Watched) : Watched → Prop where
  /-- Any `Workload.Step` happens, but none that adds a probe to the tasks. -/
  | turn {w : Workload} (hturn : s.workload.Step w)
      (hquiet : ∀ ticket task, w.tasks.lookup ticket = some task → task.purpose.isProbe = true →
        ∃ task', s.workload.tasks.lookup ticket = some task' ∧ task'.purpose.isProbe = true) :
      Step s { s with workload := w }
  /-- The sweeper, waiting for no probe, finds that the node is `Due`, and sets up a `revive` under
      a free ticket. -/
  | sweep {ticket : Ticket} (now : Time) (hawake : s.probe? = none) (hdue : s.Due now)
      (hfree : s.workload.Free ticket)
      (hclaim : s.workload.node.pool.claims.lookup ticket = none) :
      Step s (s.underProbe ticket { purpose := .revive })
  /-- The probe that the sweeper waits for is over, and no longer among the tasks. -/
  | rest {ticket : Ticket} (hprobe : s.probe? = some ticket)
      (hover : s.workload.tasks.lookup ticket = none) : Step s { s with probe? := none }

/-- Turns one after the other. -/
abbrev Steps : Watched → Watched → Prop :=
  Relation.ReflTransGen Step

/-- Warm-ups come one at a time, as in `Workload.SingleFile`; and none is under way once somebody
    asked for a connection, as in `Workload.Orderly`. -/
structure Orderly (s : Watched) : Prop where
  early : s.workload.Orderly
  single : s.workload.SingleFile

/-- Turns after each of which the state is `Orderly`. -/
abbrev OrderlySteps : Watched → Watched → Prop :=
  Relation.ReflTransGen fun s s' => s.Step s' ∧ s'.Orderly

variable {s s' : Watched}

theorem lookup_underProbe {ticket t : Ticket} {probe : Task} (ht : t ≠ ticket) :
    (s.underProbe ticket probe).workload.tasks.lookup t = s.workload.tasks.lookup t :=
  (Table.lookup_insert ..).trans (if_neg ht)

theorem steps_of_orderlySteps (h : s.OrderlySteps s') : s.Steps s' := by
  induction h with
  | refl => exact .refl
  | tail _ hstep ih => exact ih.tail hstep.1

/-- A turn is a `Workload.Step`, or leaves `workload` as it is. -/
theorem workload_of_step (hstep : s.Step s') :
    s.workload.Step s'.workload ∨ s'.workload = s.workload := by
  cases hstep with
  | turn hturn hquiet => exact .inl hturn
  | sweep now hawake hdue hfree hclaim => exact .inl (.spawn _ .revive hfree hclaim nofun)
  | rest hprobe hover => exact .inr rfl

theorem workload_of_steps (h : s.Steps s') : s.workload.Steps s'.workload := by
  induction h with
  | refl => exact .refl
  | tail _ hstep ih =>
      rcases workload_of_step hstep with hturn | hsame
      · exact ih.tail hturn
      · rw [hsame]
        exact ih

theorem workload_of_orderlySteps (h : s.OrderlySteps s') :
    s.workload.SingleFileSteps s'.workload := by
  induction h with
  | refl => exact .refl
  | tail _ hstep ih =>
      rcases workload_of_step hstep.1 with hturn | hsame
      · exact ih.tail ⟨hturn, hstep.2.early, hstep.2.single⟩
      · rw [hsame]
        exact ih

/-- **The sweeper of a fleet keeps to this.** By `Fleet.sweep`, the servers in `Fleet.due` are
    listed once each, and are those whose nodes are `Due`. While the sweeper is `asleep` it sets up
    a `revive` for each of them, and while it is `probing` it goes on only when all of those have a
    result. -/
theorem sweep_keeps {f f' : Fleet} {now : Time} (hkeys : f.nodes.keys.Nodup)
    (hsweep : f.sweep now = some f') :
    (f.due now).Nodup ∧
      (∀ server, f.nodes.lookup server = some s.workload.node →
        f.settings = s.workload.node.pool.settings → (server ∈ f.due now ↔ s.Due now)) ∧
      (∀ tickets, f'.sweeper = .probing tickets → (∃ wake, f.sweeper = .asleep wake) ∧
        tickets = (f.spawnAll ((f.due now).map fun server => (server, .revive))).2) ∧
      ∀ tickets, f.sweeper = .probing tickets → ∀ t ∈ tickets, (f.result? t).isSome = true := by
  refine ⟨?_, ?_, ?_, ?_⟩
  · exact hkeys.sublist (List.filter_sublist.map _)
  · intro server hnode hsettings
    rw [Fleet.mem_due_iff hkeys hnode, hsettings]
    rfl
  · intro tickets hprobing
    unfold Fleet.sweep at hsweep
    cases hsweeper : f.sweeper with
    | absent =>
        rw [hsweeper] at hsweep
        cases hsweep
    | asleep wake =>
        refine ⟨⟨wake, rfl⟩, ?_⟩
        rw [hsweeper] at hsweep
        dsimp only at hsweep
        split at hsweep
        · cases hsweep
        · split at hsweep
          · cases hsweep
            cases hprobing
          · cases hsweep
            exact (Sweeper.probing.inj hprobing).symm
    | probing before =>
        rw [hsweeper] at hsweep
        obtain ⟨collected, hcollect, rfl⟩ := Option.map_eq_some_iff.mp hsweep
        cases hprobing
  · intro tickets hprobing t ht
    unfold Fleet.sweep at hsweep
    rw [hprobing] at hsweep
    obtain ⟨collected, hcollect, -⟩ := Option.map_eq_some_iff.mp hsweep
    unfold Fleet.collect at hcollect
    split at hcollect
    · next hall => exact List.all_eq_true.mp hall t ht
    · cases hcollect

/-! ## One probe at a time -/

/-- **The invariant.** Only probes have connections of their own, and there is no probe but
    `probe?`, the one that the sweeper waits for. -/
structure Inv (s : Watched) : Prop where
  workload : s.workload.Inv
  keys : s.workload.tasks.keys.Nodup
  ownsAsProbe : s.workload.tasks.All Task.OwnsAsProbe
  probe : ∀ ticket task, s.workload.tasks.lookup ticket = some task →
    task.purpose.isProbe = true → s.probe? = some ticket

theorem inv_start (endpoint : Endpoint) (settings : PoolSettings) (policy : PolicyChoice) :
    (start endpoint settings policy).Inv where
  workload := Workload.inv_start endpoint settings policy
  keys := List.nodup_nil
  ownsAsProbe := Table.all_nil
  probe _ _ htask := by contradiction

/-- While `probe?` is `none` there is no probe among the tasks. -/
theorem Inv.quiet (h : s.Inv) (hawake : s.probe? = none) :
    s.workload.tasks.All (·.purpose.isProbe = false) := by
  intro ticket task htask
  apply Bool.eq_false_iff.mpr
  intro hprobe
  have hwaited := h.probe ticket task htask hprobe
  rw [hawake] at hwaited
  contradiction

/-- The sweeper keeps the invariant when it sets up a `revive` under a free ticket. -/
theorem Inv.sweep {ticket : Ticket} (h : s.Inv) (hawake : s.probe? = none)
    (hfree : s.workload.Free ticket)
    (hclaim : s.workload.node.pool.claims.lookup ticket = none) :
    (s.underProbe ticket { purpose := .revive }).Inv where
  workload := h.workload.spawn hfree hclaim nofun
  keys := Table.nodup_keys_insert h.keys
  ownsAsProbe := h.ownsAsProbe.insert _ nofun
  probe := by
    intro t task htask hprobe
    by_cases ht : t = ticket
    · rw [ht]
      rfl
    · rw [lookup_underProbe ht] at htask
      rw [h.quiet hawake t task htask] at hprobe
      contradiction

/-- **One `Watched.Step` keeps the invariant.** -/
theorem inv_step (h : s.Inv) (hstep : s.Step s') : s'.Inv := by
  cases hstep with
  | sweep now hawake hdue hfree hclaim => exact h.sweep hawake hfree hclaim
  | @turn w hturn hquiet =>
      refine ⟨Workload.inv_step h.workload hturn, Workload.keys_step h.keys hturn,
        Workload.ownsAsProbe_step h.workload h.ownsAsProbe hturn, ?_⟩
      intro ticket task htask hprobe
      obtain ⟨task', htask', hprobe'⟩ := hquiet ticket task htask hprobe
      exact h.probe ticket task' htask' hprobe'
  | @rest ticket hprobe hover =>
      refine ⟨h.workload, h.keys, h.ownsAsProbe, ?_⟩
      intro t task htask hisProbe
      -- the only probe there may be is the one that is over
      obtain rfl : ticket = t := Option.some.inj (hprobe.symm.trans (h.probe t task htask hisProbe))
      have hnone : s.workload.tasks.lookup ticket = some task := htask
      rw [hover] at hnone
      contradiction

/-- A whole run keeps it. -/
theorem inv_steps (h : s.Inv) (hsteps : s.Steps s') : s'.Inv := by
  induction hsteps with
  | refl => exact h
  | tail _ hstep ih => exact inv_step ih hstep

/-- **One task at most `isSounding`**, and none unless the sweeper waits for a probe. -/
theorem Inv.sounding (h : s.Inv) :
    s.workload.tasks.tally Task.isSounding ≤ 1 ∧
      (s.probe? = none → s.workload.tasks.tally Task.isSounding = 0) := by
  have hnone : s.probe? = none → s.workload.tasks.tally Task.isSounding = 0 := by
    intro hawake
    refine Table.tally_eq_zero h.keys fun ticket task htask => ?_
    apply Bool.eq_false_iff.mpr
    intro hsounding
    have hprobe := (h.ownsAsProbe ticket task htask).isProbe hsounding
    rw [h.quiet hawake ticket task htask] at hprobe
    contradiction
  refine ⟨?_, hnone⟩
  cases hwaited : s.probe? with
  | none =>
      rw [hnone hwaited]
      exact Nat.zero_le 1
  | some waited =>
      refine Table.tally_le_one h.keys waited fun ticket task htask hsounding => ?_
      have hprobe := (h.ownsAsProbe ticket task htask).isProbe hsounding
      exact (Option.some.inj (hwaited.symm.trans (h.probe ticket task htask hprobe))).symm

/-! ## A probe on top -/

section Probe
variable {ticket : Ticket} {probe : Task}

theorem asks_of_isProbe {n : Node} (hprobe : probe.purpose.isProbe = true) :
    probe.asks n = false := by
  unfold Task.asks
  cases hpurpose : probe.purpose with
  | probe | revive => rfl
  | warmUp _ | borrow | use _ _ | execute _ =>
      rw [hpurpose] at hprobe
      contradiction

/-- A turn of the probe that leaves the node as it is changes nothing but the probe itself. -/
theorem step_underProbe {turn : Turn} (now : Time) (arrival? : Option Arrival)
    (hprobe : probe.purpose.isProbe = true)
    (hfresh : ∀ link, arrival? = some (.connected link) → s.workload.node.pool.uses link = 0)
    (hturn : probe.step now ticket arrival? s.workload.node = some turn)
    (hnode : turn.node = s.workload.node) (hgoes : turn.task.result? = none)
    (hquiet : s.workload.tasks.All (·.purpose.isProbe = false)) :
    (s.underProbe ticket probe).Step (s.underProbe ticket turn.task) := by
  have hlookup : (s.underProbe ticket probe).workload.tasks.lookup ticket = some probe :=
    (Table.lookup_insert ..).trans (if_pos rfl)
  have hstep : (s.underProbe ticket probe).workload.Step
      { node := turn.node
        tasks := turn.tasks ticket (s.workload.tasks.insert ticket probe)
        asked := s.workload.asked || probe.asks s.workload.node } :=
    .step ticket now arrival? hlookup hfresh hturn
  have hafter : turn.tasks ticket (s.workload.tasks.insert ticket probe) =
      s.workload.tasks.insert ticket turn.task := by
    unfold Turn.tasks
    rw [hgoes, Table.insert_insert]
    rfl
  rw [hnode, hafter, asks_of_isProbe hprobe, Bool.or_false] at hstep
  have hprobes : ∀ t task, (s.underProbe ticket turn.task).workload.tasks.lookup t = some task →
      task.purpose.isProbe = true → ∃ task',
        (s.underProbe ticket probe).workload.tasks.lookup t = some task' ∧
          task'.purpose.isProbe = true := by
    intro t task htask hisProbe
    by_cases ht : t = ticket
    · subst ht
      exact ⟨probe, hlookup, hprobe⟩
    · rw [lookup_underProbe ht] at htask
      rw [hquiet t task htask] at hisProbe
      contradiction
  exact .turn hstep hprobes

/-- The first turn of a probe asks for a connection. -/
theorem dial_underProbe (now : Time) (hquiet : s.workload.tasks.All (·.purpose.isProbe = false)) :
    (s.underProbe ticket { purpose := .revive }).Step
      (s.underProbe ticket
        { purpose := .revive
          stage := .dialling (now + s.workload.node.pool.settings.connectTimeout) }) := by
  have hturn : Task.step now ticket none s.workload.node { purpose := .revive } =
      some (Task.dial now s.workload.node { purpose := .revive }) := rfl
  have hstep : (s.underProbe ticket _).Step _ :=
    step_underProbe now none rfl nofun hturn rfl rfl hquiet
  exact hstep

/-- The next turn sends its no-op as soon as the connection is there, and waits for the answer. -/
theorem exists_sounding {deadline : Time} (now : Time) (link : Nat)
    (hstage : probe.stage = .dialling deadline) (hprobe : probe.purpose.isProbe = true)
    (hfresh : s.workload.node.pool.uses link = 0)
    (hquiet : s.workload.tasks.All (·.purpose.isProbe = false)) :
    ∃ probe', probe'.purpose.isProbe = true ∧ probe'.stage.isProbing = true ∧
      (s.underProbe ticket probe).Step (s.underProbe ticket probe') := by
  have hfront : ReceiveBuffer.empty.front Decoder.responses = .ok none := rfl
  have harrival : ∀ l, some (Arrival.connected link) = some (.connected l) →
      s.workload.node.pool.uses l = 0 := by
    intro l hl
    cases hl
    exact hfresh
  obtain ⟨turn, hturn, hnode, hpurpose, c, x, d, hsent⟩ : ∃ turn,
      probe.step now ticket (some (.connected link)) s.workload.node = some turn ∧
        turn.node = s.workload.node ∧ turn.task.purpose = probe.purpose ∧
        ∃ c x d, turn.task.stage = .probing c x d := by
    obtain ⟨purpose, stage, opened⟩ := probe
    subst hstage
    cases purpose with
    | probe | revive =>
        simp only [Task.step, Task.connected, Connection.begin, Exchange.digest_of_none hfront]
        exact ⟨_, rfl, rfl, rfl, _, _, _, rfl⟩
    | warmUp _ | borrow | use _ _ | execute _ => contradiction
  have hgoes : turn.task.result? = none := by
    unfold Task.result?
    rw [hsent]
  refine ⟨turn.task, ?_, ?_, step_underProbe now _ hprobe harrival hturn hnode hgoes hquiet⟩
  · rw [hpurpose]
    exact hprobe
  · rw [hsent]
    rfl

theorem Orderly.underProbe (h : s.Orderly) (hprobe : probe.purpose.isProbe = true) :
    (s.underProbe ticket probe).Orderly := by
  -- a warm-up that there is now was there before
  have hbefore : ∀ t task, (s.underProbe ticket probe).workload.tasks.lookup t = some task →
      task.purpose.isWarmUp = true → s.workload.tasks.lookup t = some task := by
    intro t task htask hwarm
    have hlookup : (s.workload.tasks.insert ticket probe).lookup t = some task := htask
    rw [Table.lookup_insert] at hlookup
    split at hlookup
    · obtain rfl := Option.some.inj hlookup
      rw [Purpose.isWarmUp_of_isProbe hprobe] at hwarm
      contradiction
    · exact hlookup
  have hunderWay : ∀ t, (s.underProbe ticket probe).workload.UnderWay t →
      s.workload.UnderWay t := by
    rintro t ⟨task, htask, hwarm, hbegun⟩
    exact ⟨task, hbefore t task htask hwarm, hwarm, hbegun⟩
  constructor
  · intro hasked t task htask hwarm
    exact h.early hasked t task (hbefore t task htask hwarm) hwarm
  · intro t u ht hu
    exact h.single t u (hunderWay t ht) (hunderWay u hu)

theorem connections_underProbe (hkeys : s.workload.tasks.keys.Nodup)
    (hfree : s.workload.Free ticket) :
    (s.underProbe ticket probe).workload.connections =
      s.workload.connections + probe.stage.isProbing.toNat := by
  have htally : (s.workload.tasks.insert ticket probe).tally (·.stage.isProbing) + _ = _ :=
    Table.tally_insert hkeys ticket probe
  rw [hfree.own] at htally
  unfold underProbe Workload.connections
  simp only [Option.any_none, Bool.toNat_false, Nat.add_zero] at htally ⊢
  rw [htally]
  omega

/-- **A probe is made whatever the pool has open.** When the node is `Due` and `probe?` is `none`,
    an orderly run leads to one more of `connections`, with the node as it was, while everybody else
    keeps what they have. -/
theorem exists_probed (ticket : Ticket) (now : Time) (link : Nat) (h : s.Inv)
    (horderly : s.Orderly) (hawake : s.probe? = none) (hdue : s.Due now)
    (hfree : s.workload.Free ticket) (hclaim : s.workload.node.pool.claims.lookup ticket = none)
    (hfresh : s.workload.node.pool.uses link = 0) :
    ∃ s', s.OrderlySteps s' ∧ s'.workload.node = s.workload.node ∧
      s'.workload.connections = s.workload.connections + 1 := by
  have hquiet := h.quiet hawake
  have hsweep : s.Step (s.underProbe ticket { purpose := .revive }) :=
    .sweep now hawake hdue hfree hclaim
  have hdial : (s.underProbe ticket _).Step _ := dial_underProbe now hquiet
  obtain ⟨probe, hprobe, hprobing, hconnect⟩ : ∃ probe, _ ∧ _ ∧
      (s.underProbe ticket { purpose := .revive, stage := .dialling _ }).Step _ :=
    exists_sounding now link rfl rfl hfresh hquiet
  refine ⟨s.underProbe ticket probe, ?_, rfl, ?_⟩
  · have hsweeps : s.OrderlySteps _ := .single ⟨hsweep, horderly.underProbe rfl⟩
    exact (hsweeps.tail ⟨hdial, horderly.underProbe rfl⟩).tail
      ⟨hconnect, horderly.underProbe hprobe⟩
  · rw [connections_underProbe h.keys hfree, hprobing]
    rfl

end Probe

/-! ## A node whose connections are all in use -/

/-- The run from `s` to `s'` is orderly, and nothing but commands is under way at its end. -/
structure Reaches (s s' : Watched) : Prop where
  steps : s.OrderlySteps s'
  inv : s'.Inv
  orderly : s'.Orderly
  commands : s'.workload.tasks.All fun task => ∃ command, task.purpose = .execute command

section Reaches
variable {s₀ : Watched}

/-- A `Workload.Step` that leaves nothing but commands under way is orderly, and no business of the
    sweeper. -/
theorem Reaches.turn {w : Workload} (h : s₀.Reaches s) (hturn : s.workload.Step w)
    (hcommands : w.tasks.All fun task => ∃ command, task.purpose = .execute command) :
    s₀.Reaches { s with workload := w } := by
  have hplain : ∀ ticket task, w.tasks.lookup ticket = some task →
      task.purpose.isProbe = false ∧ task.purpose.isWarmUp = false := by
    intro ticket task htask
    obtain ⟨command, hpurpose⟩ := hcommands ticket task htask
    rw [hpurpose]
    exact ⟨rfl, rfl⟩
  have hstep : s.Step { s with workload := w } := by
    refine .turn hturn fun ticket task htask hprobe => ?_
    rw [(hplain ticket task htask).1] at hprobe
    contradiction
  have horderly : Orderly { s with workload := w } := by
    constructor
    · intro _ ticket task htask hwarm
      rw [(hplain ticket task htask).2] at hwarm
      contradiction
    · rintro t _ ⟨task, htask, hwarm, -⟩ -
      rw [(hplain t task htask).2] at hwarm
      contradiction
  exact ⟨h.steps.tail ⟨hstep, horderly⟩, inv_step h.inv hstep, horderly, hcommands⟩

theorem Reaches.free {ticket : Ticket} (h : s₀.Reaches s)
    (hown : s.workload.tasks.lookup ticket = none) : s.workload.Free ticket := by
  refine ⟨hown, fun u task command htask => ?_⟩
  obtain ⟨command', hpurpose⟩ := h.commands u task htask
  rw [hpurpose]
  exact nofun

/-- A command is called, under a ticket that nobody has. -/
theorem Reaches.call (h : s₀.Reaches s) (ticket : Ticket) (command : Command)
    (hown : s.workload.tasks.lookup ticket = none)
    (hclaim : s.workload.node.pool.claims.lookup ticket = none) :
    s₀.Reaches { s with workload := { s.workload with
      tasks := s.workload.tasks.insert ticket { purpose := .execute command } } } :=
  h.turn (.spawn ticket (.execute command) (h.free hown) hclaim nofun)
    (h.commands.insert ticket ⟨command, rfl⟩)

/-- A command takes its next turn. -/
theorem Reaches.go {task : Task} {turn : Turn} (h : s₀.Reaches s) (ticket : Ticket) (now : Time)
    (arrival? : Option Arrival) (htask : s.workload.tasks.lookup ticket = some task)
    (hfresh : ∀ link, arrival? = some (.connected link) → s.workload.node.pool.uses link = 0)
    (hturn : task.step now ticket arrival? s.workload.node = some turn) :
    s₀.Reaches { s with workload := {
      node := turn.node
      tasks := turn.tasks ticket s.workload.tasks
      asked := s.workload.asked || task.asks s.workload.node } } := by
  have hpurpose : turn.task.purpose = task.purpose :=
    (Task.keeps_step h.inv.workload.sound (h.inv.workload.fits ticket task htask) hfresh
      hturn).purpose
  refine h.turn (.step ticket now arrival? htask hfresh hturn) (h.commands.tasks ?_)
  rw [hpurpose]
  exact h.commands ticket task htask

end Reaches

/-- A pool of one connection at most, with none that is opened at the start. -/
def sole : PoolSettings :=
  { minConnections := 0, maxConnections := 1, deadTimeout := Duration.seconds 1 }

/-- The state in which `warmUp` of such a node has been called. -/
def starting : Watched :=
  { workload :=
      { node := .new ⟨"a:1"⟩ sole .failImmediately, tasks := [(0, { purpose := .warmUp true })] } }

/-- A warm-up with nothing to open is over in its first turn. -/
theorem reaches_started :
    (start ⟨"a:1"⟩ sole .failImmediately).Reaches (start ⟨"a:1"⟩ sole .failImmediately) := by
  have hquiet : ∀ ticket task, starting.workload.tasks.lookup ticket = some task →
      task.purpose.isProbe = false := Table.All.insert Table.all_nil 0 rfl
  have hbegin : (start ⟨"a:1"⟩ sole .failImmediately).Step starting := by
    refine .turn (.spawn 0 (.warmUp true) (Workload.free_of_tasks_eq_nil rfl 0) rfl nofun) ?_
    intro ticket task htask hprobe
    rw [hquiet ticket task htask] at hprobe
    contradiction
  have hturn : Task.step 0 0 none (.new ⟨"a:1"⟩ sole .failImmediately)
      { purpose := .warmUp true } =
        some
          { node := .new ⟨"a:1"⟩ sole .failImmediately
            task := { purpose := .warmUp true, stage := .finished (.warmed (.ok 0)) } } := rfl
  have hended : starting.workload.Step _ := .step 0 0 none rfl nofun hturn
  have hend : starting.Step (start ⟨"a:1"⟩ sole .failImmediately) := by
    refine .turn hended ?_
    intro ticket task htask
    cases htask
  have hstarting : starting.Orderly := by
    constructor
    · exact Workload.orderly_of_asked_eq_false rfl
    · exact Workload.singleFile_of_keys 0 fun t ht => List.mem_singleton.mp ht
  have horderly : (start ⟨"a:1"⟩ sole .failImmediately).Orderly :=
    ⟨Workload.orderly_start _ _ _, Workload.singleFile_start _ _ _⟩
  exact ⟨.tail (.single ⟨hbegin, hstarting⟩) ⟨hend, horderly⟩, inv_start _ _ _, horderly,
    Table.all_nil⟩

/-- The state in which the command with ticket 1 waits for its answer on the only connection that
    there is to be. -/
def full : Watched :=
  { workload :=
      { node := .claimed ⟨"a:1"⟩ sole .failImmediately 1
          (.lent ⟨{ link := 5, nextTag := 0 + (Command.get "j").span }, false⟩)
        tasks :=
          [(1, { purpose := .execute (.get "j")
                 stage := .talking ((Command.get "j").exchange 0) (0 + sole.receiveTimeout) })]
        asked := true } }

theorem reaches_full : (start ⟨"a:1"⟩ sole .failImmediately).Reaches full := by
  have hcalled := reaches_started.call 1 (.get "j") rfl rfl
  have hdialling := hcalled.go 1 0 none rfl nofun
    (Task.step_new ⟨"a:1"⟩ sole .failImmediately 1 (.get "j"))
  exact hdialling.go 1 0 (some (.connected 5)) rfl (fun _ _ => rfl)
    (Task.step_connected ⟨"a:1"⟩ sole .failImmediately 1 (.get "j") 5)

/-- A run of two open connections where `maxConnections` is 1: one command waits for its answer,
    another one gets no connection within `queueTimeout`, for which the node dies, and the probe is
    made. -/
theorem exists_crowded :
    ∃ s, (start ⟨"a:1"⟩ sole .failImmediately).OrderlySteps s ∧
      s.workload.connections = 2 := by
  have hcalled := reaches_full.call 2 (.get "k") rfl rfl
  have hqueued := hcalled.go 2 0 none rfl nofun rfl
  have hdead := hqueued.go 2 (Duration.millis 100) none rfl nofun rfl
  obtain ⟨s, hsteps, -, hone⟩ := exists_probed 3 (Duration.seconds 2) 6 hdead.inv hdead.orderly
    rfl ⟨Duration.millis 100, rfl, by decide⟩ (hdead.free rfl) rfl rfl
  exact ⟨s, hdead.steps.trans hsteps, hone⟩

/-! ## The bound -/

/-- No connection is being opened ahead of need; or one at most is, and there is a warm-up that has
    it opened (`Workload.WarmingUp`). -/
theorem Inv.stocking (h : s.Inv) (hsingle : s.workload.SingleFile) :
    s.workload.tasks.tally Task.isStocking = 0 ∨
      s.workload.tasks.tally Task.isStocking ≤ 1 ∧ ∃ ticket, s.workload.WarmingUp ticket := by
  have hwarming : ∀ ticket task, s.workload.tasks.lookup ticket = some task →
      task.isStocking = true → s.workload.WarmingUp ticket := by
    intro ticket task htask hstocking
    obtain ⟨hwarm, hdialling⟩ := Bool.and_eq_true_iff.mp hstocking
    obtain ⟨deadline, hstage⟩ := Stage.isDialling_iff.mp hdialling
    exact ⟨task, deadline, htask, hwarm, hstage⟩
  by_cases hnone : ∃ ticket, s.workload.WarmingUp ticket
  · obtain ⟨ticket, hticket⟩ := hnone
    refine .inr ⟨?_, ticket, hticket⟩
    refine Table.tally_le_one h.keys ticket fun t task htask hstocking => ?_
    exact hsingle t ticket (hwarming t task htask hstocking).underWay hticket.underWay
  · refine .inl (Table.tally_eq_zero h.keys fun ticket task htask => ?_)
    apply Bool.eq_false_iff.mpr
    intro hstocking
    exact hnone ⟨ticket, hwarming ticket task htask hstocking⟩

section Bound
variable (endpoint : Endpoint) (settings : PoolSettings) (policy : PolicyChoice)

/-- On every run there are no more than `maxConnections` connections in `Pool.idle`, nor more than
    that lent. -/
theorem idle_add_lent_le (hmax : 1 ≤ settings.maxConnections)
    (hsteps : (start endpoint settings policy).Steps s) :
    s.workload.node.pool.idle.length + s.workload.node.pool.lent ≤ 2 * settings.maxConnections := by
  have hrun := workload_of_steps hsteps
  have hstart := Workload.inv_start endpoint settings policy
  have hsound := (Workload.inv_steps hstart hrun).sound
  have hroom := hsound.room
  have hpermits := hsound.permits
  rw [Workload.settings_steps hstart hrun] at hroom hpermits
  have hroom' : s.workload.node.pool.idle.length ≤ settings.maxConnections := hroom
  have hpermits' : s.workload.node.pool.permits + s.workload.node.pool.lent +
      s.workload.node.pool.pledged = max settings.maxConnections 1 := hpermits
  omega

/-- On an orderly run `maxConnections` bounds all connections but those of probes. -/
theorem pooled_le (hmax : 1 ≤ settings.maxConnections)
    (hsteps : (start endpoint settings policy).OrderlySteps s) :
    s.workload.node.pool.idle.length + s.workload.node.pool.lent +
        s.workload.node.pool.connecting + s.workload.tasks.tally Task.isStocking ≤
      settings.maxConnections := by
  have hrun := workload_of_orderlySteps hsteps
  have horderly := Workload.orderlySteps_of_singleFileSteps hrun
  have hstart := Workload.inv_start endpoint settings policy
  have huntouched := Workload.untouched_start endpoint settings policy
  have hsettings := Workload.settings_steps hstart (Workload.steps_of_orderlySteps horderly)
  obtain ⟨-, hhasRoom, huntouched', horderly', hsingle⟩ := Workload.hasRoom_singleFileSteps hstart
    (Workload.hasRoom_start endpoint settings policy) huntouched
    (Workload.orderly_start endpoint settings policy)
    (Workload.singleFile_start endpoint settings policy) hrun
  have hinv := inv_steps (inv_start endpoint settings policy) (steps_of_orderlySteps hsteps)
  rcases hinv.stocking hsingle with hnone | ⟨hone, ticket, hwarming⟩
  · obtain ⟨-, hcapped, -, -⟩ := Workload.capped_orderlySteps hstart
      (Pool.capped_new endpoint settings) (Workload.orderly_start endpoint settings policy)
      huntouched horderly
    unfold Pool.Capped Pool.size at hcapped
    rw [hsettings] at hcapped
    have hcapped' : s.workload.node.pool.idle.length + s.workload.node.pool.lent +
        s.workload.node.pool.connecting ≤ max settings.maxConnections 1 := hcapped
    omega
  -- nobody has asked for a connection yet, and the warm-up has seen that one more has its place
  · obtain ⟨hlent, hconnecting⟩ := Workload.totals_of_none
      (huntouched' (hwarming.underWay.asked_eq_false horderly'))
    have hroom := hhasRoom ticket hwarming
    rw [hsettings] at hroom
    have hroom' : s.workload.node.pool.idle.length < settings.maxConnections := hroom
    omega

end Bound

/-- **How many connections are open to one server**, for all settings in which `maxConnections` is 1
    at least and whatever happens to the node. On `OrderlySteps`, where it is started once at most
    and nobody asks for a connection before the start is over, `sockets` is at most
    `maxConnections + 1`, and at most `maxConnections` while `probe?` is `none`. On any `Steps`,
    where the start may come at any time and be called again, `connections` is at most
    `2 * maxConnections + 1`, and one less while `probe?` is `none`. -/
theorem sockets_le (endpoint : Endpoint) (settings : PoolSettings) (policy : PolicyChoice)
    (hmax : 1 ≤ settings.maxConnections) :
    (∀ s, (start endpoint settings policy).OrderlySteps s →
      s.workload.connections ≤ s.workload.sockets ∧
        s.workload.sockets ≤ settings.maxConnections + 1 ∧
        (s.probe? = none → s.workload.sockets ≤ settings.maxConnections)) ∧
    ∀ s, (start endpoint settings policy).Steps s →
      s.workload.connections ≤ 2 * settings.maxConnections + 1 ∧
        (s.probe? = none → s.workload.connections ≤ 2 * settings.maxConnections) := by
  refine ⟨fun s hsteps => ⟨s.workload.connections_le_sockets, ?_⟩, fun s hsteps => ?_⟩
  · have hpooled := pooled_le endpoint settings policy hmax hsteps
    obtain ⟨hone, hnone⟩ :=
      (inv_steps (inv_start endpoint settings policy) (steps_of_orderlySteps hsteps)).sounding
    refine ⟨Nat.add_le_add hpooled hone, fun hawake => ?_⟩
    exact Nat.add_le_add hpooled (Nat.le_of_eq (hnone hawake))
  · have hpooled := idle_add_lent_le endpoint settings policy hmax hsteps
    obtain ⟨hone, hnone⟩ := (inv_steps (inv_start endpoint settings policy) hsteps).sounding
    have hprobing := s.workload.probing_le_sounding
    refine ⟨Nat.add_le_add hpooled (Nat.le_trans hprobing hone), fun hawake => ?_⟩
    exact Nat.add_le_add hpooled (Nat.le_trans hprobing (Nat.le_of_eq (hnone hawake)))

/-- The bound `maxConnections + 1` is reached: by a command that waits for its answer, and a
    probe. -/
theorem sockets_le_reached :
    ∃ s, 1 ≤ sole.maxConnections ∧ (start ⟨"a:1"⟩ sole .failImmediately).OrderlySteps s ∧
      s.workload.connections = 2 ∧ s.workload.sockets = 2 := by
  have hmax : 1 ≤ sole.maxConnections := Nat.le_refl 1
  obtain ⟨s, hsteps, htwo⟩ := exists_crowded
  obtain ⟨hopen, hsockets, -⟩ := (sockets_le ⟨"a:1"⟩ sole .failImmediately hmax).1 s hsteps
  exact ⟨s, hmax, hsteps, htwo, Nat.le_antisymm hsockets (htwo ▸ hopen)⟩

/-- So it is not true that `connections` is never more than `maxConnections`. -/
theorem connections_exceed :
    ¬ ∀ (endpoint : Endpoint) (settings : PoolSettings) (policy : PolicyChoice) (s : Watched),
      1 ≤ settings.maxConnections → (start endpoint settings policy).Steps s →
        s.workload.connections ≤ settings.maxConnections := by
  intro hclaim
  obtain ⟨s, hsteps, htwo⟩ := exists_crowded
  have hone : s.workload.connections ≤ 1 :=
    hclaim ⟨"a:1"⟩ sole .failImmediately s (Nat.le_refl 1) (steps_of_orderlySteps hsteps)
  omega

end Watched

end Memcache
