import Memcache.Proofs.Pool.Workload

/-!
# `Memcache.Proofs.Pool.Conservation` — permits and connections are conserved

Whatever the callers of a pool do, and in whatever order, no permit is lost and no connection is in
two places (`Pool.Sound`). How many connections there are is another matter, since a warm-up opens
connections without a permit. They stay within `Pool.size` if warm-ups are over before anybody asks
for a connection (`Workload.Orderly`); and if warm-ups come one at a time (`Workload.SingleFile`),
the connection that one is opening has its place, too.

## Contents

* `Workload.Orderly`, `Workload.capped_step` — warm-ups that are over before anybody asks;
* `Workload.SingleFile`, `Workload.hasRoom_step` — warm-ups that come one at a time;
* `Workload.conserved` — **the conservation of permits and connections**.
-/

namespace Memcache

namespace Workload

/-! ## Warm-ups that are over before anybody asks -/

/-- Once `asked`, no warm-up is under way: every one is `fresh` and has opened nothing. -/
def Orderly (s : Workload) : Prop :=
  s.asked = true → ∀ ticket task, s.tasks.lookup ticket = some task →
    task.purpose.isWarmUp = true → task.stage = .fresh ∧ task.opened = 0

theorem orderly_of_asked_eq_false {s : Workload} (h : s.asked = false) : s.Orderly := by
  intro hasked
  rw [h] at hasked
  contradiction

/-- Turns after each of which the state is `Orderly`. -/
abbrev OrderlySteps : Workload → Workload → Prop :=
  Relation.ReflTransGen fun s s' => s.Step s' ∧ s'.Orderly

theorem steps_of_orderlySteps {s s' : Workload} (h : s.OrderlySteps s') : s.Steps s' := by
  induction h with
  | refl => exact .refl
  | tail _ hstep ih => exact ih.tail hstep.1

/-- While not `asked`, nobody has a claim in the pool. -/
def Untouched (s : Workload) : Prop :=
  s.asked = false → ∀ k, s.node.pool.claims.lookup k = none

/-- A task whose stage `Borrows` a connection has no turn while none is lent to it. -/
theorem step_of_borrows_none {n : Node} {ticket : Ticket} {task : Task} {now : Time}
    {arrival? : Option Arrival} (hborrows : task.stage.Borrows none) :
    task.step now ticket arrival? n = none := by
  rw [Option.eq_none_iff_forall_ne_some]
  intro turn hturn
  cases Task.step_eq_some_iff.mp hturn with
  | begun hstage | listened hstage _ =>
      rw [hstage] at hborrows
      obtain ⟨c, hc⟩ := hborrows
      contradiction
  | resumed hstage _ | overdue hstage _ _ | connected hstage _ | refused hstage _
  | unconnected hstage _ _ _ | sounded hstage _ | broken hstage _ _ =>
      rw [hstage] at hborrows
      exact absurd hborrows id

/-- Giving up a task by `Task.withdraw` changes nothing while nobody has a claim. -/
theorem taskWithdraw_of_none {n : Node} (hnone : ∀ k, n.pool.claims.lookup k = none)
    (ticket : Ticket) (task : Task) : (task.withdraw ticket n).pool = n.pool := by
  have hwithdraw : n.pool.withdraw ticket = n.pool := by
    rw [Pool.withdraw, hnone ticket]
  unfold Task.withdraw
  cases task.purpose with
  | borrow | execute _ => exact hwithdraw
  | use _ _ | probe | revive | warmUp _ => rfl

/-- Nor does `Pool.discard` of a connection that nobody holds. -/
theorem discard_of_none {p : Pool} {holder : Ticket} (hnone : p.claims.lookup holder = none) :
    p.discard holder = p := by
  have hlease : p.lease? holder = none := by
    rw [Pool.lease?, hnone]
  rw [Pool.discard, hlease]

/-- A task that would acquire a connection, and does not ask for one by `Task.asks`, leaves the pool
    alone. -/
theorem pool_of_not_asks {n : Node} {ticket : Ticket} {task : Task} {now : Time}
    {arrival? : Option Arrival} {turn : Turn} (hacquires : task.purpose.acquires = true)
    (hasks : task.asks n = false) (hturn : task.step now ticket arrival? n = some turn) :
    turn.node.pool = n.pool := by
  obtain ⟨purpose, stage, opened⟩ := task
  cases purpose with
  | execute command =>
      cases stage with
      | fresh =>
          -- the node is dead, and the command ends at once
          have hdead : n.alive = false := hasks
          obtain rfl := Option.some.inj hturn
          unfold Task.start
          dsimp only
          rw [hdead]
          rfl
      | queued _ | dialling _ | talking _ _ | probing _ _ _ | finished _ => contradiction
  | borrow | use _ _ | probe | revive | warmUp _ => contradiction

/-- A task that does not ask for a connection leaves nobody with a claim, while nobody has one. -/
theorem untouched_turn {n : Node} {ticket : Ticket} {task : Task} {now : Time}
    {arrival? : Option Arrival} {turn : Turn} (hnone : ∀ k, n.pool.claims.lookup k = none)
    (hfits : task.Fits ticket n.pool) (hasks : task.asks n = false)
    (hturn : task.step now ticket arrival? n = some turn)
    (hkeeps : turn.Keeps task.purpose.isWarmUp (task.holder ticket) ticket n.pool task.purpose)
    (k : Ticket) : turn.node.pool.claims.lookup k = none := by
  rcases hfits.cases with ⟨hacquires, -⟩ | ⟨other, command, huse, -, hborrows⟩ | ⟨hclaimless, -, -⟩
  · rw [pool_of_not_asks hacquires hasks hturn]
    exact hnone k
  · rw [hnone] at hborrows
    rw [step_of_borrows_none hborrows] at hturn
    contradiction
  · by_cases hk : k = ticket
    · subst hk
      -- its own ticket holds nothing because the task fits, and the others' because nobody asked
      have hclaimless' : turn.task.purpose.isClaimless = true := hkeeps.purpose ▸ hclaimless
      exact ((Task.fits_of_isClaimless hclaimless').mp hkeeps.fits).1
    · have hothers := hkeeps.evolves.others k
      rw [Task.holder_of_isClaimless hclaimless] at hothers
      rcases hothers hk with hsame | ⟨hwaiting, -⟩
      · exact hsame.trans (hnone k)
      · rw [hnone] at hwaiting
        contradiction

theorem untouched_step {s s' : Workload} (h : s.Inv) (huntouched : s.Untouched)
    (hstep : s.Step s') : s'.Untouched := by
  intro hasked k
  cases hstep with
  | spawn ticket purpose hfree hclaim huse => exact huntouched hasked k
  | @step ticket task now arrival? turn htask hfresh hturn =>
      obtain ⟨hasked, hasks⟩ := Bool.or_eq_false_iff.mp hasked
      have hfits := h.fits ticket task htask
      exact untouched_turn (huntouched hasked) hfits hasks hturn
        (Task.keeps_step h.sound hfits hfresh hturn) k
  | @cancel ticket task htask =>
      show (task.withdraw ticket s.node).pool.claims.lookup k = none
      rw [taskWithdraw_of_none (huntouched hasked)]
      exact huntouched hasked k
  | seize deadline htask hacquires hstage hpermits => contradiction
  | stock link htask hwarm hstage hfresh =>
      show (s.node.pool.stock _).claims.lookup k = none
      rw [Pool.claims_stock]
      exact huntouched hasked k
  | @discard holder hfree =>
      show (s.node.pool.discard holder).claims.lookup k = none
      rw [discard_of_none (huntouched hasked holder)]
      exact huntouched hasked k
  | @restock holder lease hfree hlent =>
      rw [huntouched hasked holder] at hlent
      contradiction
  | @surrender holder hfree hgranted =>
      rw [huntouched hasked holder] at hgranted
      contradiction
  | clearIdle => exact huntouched hasked k
  | close => exact huntouched hasked k
  | other node hpool =>
      show node.pool.claims.lookup k = none
      rw [hpool]
      exact huntouched hasked k

theorem totals_of_none {p : Pool} (hnone : ∀ k, p.claims.lookup k = none) :
    p.lent = 0 ∧ p.connecting = 0 := by
  have hclaims : p.claims = [] := by
    cases hc : p.claims with
    | nil => rfl
    | cons e rest =>
        have hhead := hnone e.1
        rw [hc, Table.lookup, if_pos rfl] at hhead
        contradiction
  unfold Pool.lent Pool.connecting
  rw [hclaims]
  exact ⟨rfl, rfl⟩

/-- While nobody has a claim only `idle` counts, and there is room for the connections in it. -/
theorem capped_of_untouched {p : Pool} (hsound : p.Sound)
    (hnone : ∀ k, p.claims.lookup k = none) : p.Capped := by
  obtain ⟨hlent, hconnecting⟩ := totals_of_none hnone
  have hroom := hsound.room
  unfold Pool.Capped Pool.size
  rw [hlent, hconnecting]
  omega

/-- **One turn keeps the pool `Capped`**, if warm-ups are over before anybody asks. -/
theorem capped_step {s s' : Workload} (h : s.Inv) (hcapped : s.node.pool.Capped)
    (horderly : s.Orderly) (huntouched : s.Untouched) (hstep : s.Step s') :
    s'.node.pool.Capped := by
  obtain ⟨ahead, k, hevolves, hahead⟩ := step_evolves h hstep
  by_cases hwarm : ahead = true
  · obtain ⟨hsameAsked, ticket, task, htask, hwarm, hsame⟩ := hahead hwarm
    by_cases hasked : s.asked = true
    -- afterwards a warm-up finds that there is nothing to do
    · rw [hsame (horderly hasked ticket task htask hwarm).1]
      exact hcapped
    -- before anybody asks there is nothing but idle connections, and room for them
    · apply capped_of_untouched (inv_step h hstep).sound
      exact untouched_step h huntouched hstep (hsameAsked.trans (Bool.eq_false_iff.mpr hasked))
  · exact hevolves.capped (Bool.eq_false_iff.mpr hwarm) h.sound hcapped

/-- A whole run of `OrderlySteps` keeps it so. -/
theorem capped_orderlySteps {s s' : Workload} (h : s.Inv) (hcapped : s.node.pool.Capped)
    (horderly : s.Orderly) (huntouched : s.Untouched) (hsteps : s.OrderlySteps s') :
    s'.Inv ∧ s'.node.pool.Capped ∧ s'.Orderly ∧ s'.Untouched := by
  induction hsteps with
  | refl => exact ⟨h, hcapped, horderly, huntouched⟩
  | tail _ hstep ih =>
      obtain ⟨hinv, hcapped, horderly, huntouched⟩ := ih
      exact ⟨inv_step hinv hstep.1, capped_step hinv hcapped horderly huntouched hstep.1, hstep.2,
        untouched_step hinv huntouched hstep.1⟩

/-! ## Warm-ups that come one at a time -/

/-- A warm-up that has begun: it is not `fresh`, or has opened a connection. -/
def UnderWay (s : Workload) (ticket : Ticket) : Prop :=
  ∃ task, s.tasks.lookup ticket = some task ∧ task.purpose.isWarmUp = true ∧
    ¬ (task.stage = .fresh ∧ task.opened = 0)

/-- A warm-up that is `dialling`: it is having a connection opened. -/
def WarmingUp (s : Workload) (ticket : Ticket) : Prop :=
  ∃ task deadline, s.tasks.lookup ticket = some task ∧ task.purpose.isWarmUp = true ∧
    task.stage = .dialling deadline

theorem WarmingUp.underWay {s : Workload} {ticket : Ticket} (h : s.WarmingUp ticket) :
    s.UnderWay ticket := by
  obtain ⟨task, deadline, htask, hwarm, hstage⟩ := h
  refine ⟨task, htask, hwarm, ?_⟩
  intro hfresh
  rw [hstage] at hfresh
  exact absurd hfresh.1 nofun

/-- A warm-up is `UnderWay` only before the pool was `asked`. -/
theorem UnderWay.asked_eq_false {s : Workload} {ticket : Ticket} (h : s.UnderWay ticket)
    (horderly : s.Orderly) : s.asked = false := by
  obtain ⟨task, htask, hwarm, hbegun⟩ := h
  apply Bool.eq_false_iff.mpr
  intro hasked
  exact hbegun (horderly hasked ticket task htask hwarm)

/-- What was `asked` stays so. -/
theorem asked_of_step {s s' : Workload} (hstep : s.Step s') (hasked' : s'.asked = false) :
    s.asked = false := by
  cases hstep with
  | step ticket now arrival? htask hfresh hturn => exact (Bool.or_eq_false_iff.mp hasked').1
  | seize deadline htask hacquires hstage hpermits => contradiction
  | spawn | cancel | stock | discard | restock | surrender | clearIdle | close | other =>
      exact hasked'

/-- No two warm-ups are `UnderWay`. -/
def SingleFile (s : Workload) : Prop :=
  ∀ t u, s.UnderWay t → s.UnderWay u → t = u

theorem singleFile_of_keys {s : Workload} (k : Ticket) (h : ∀ t ∈ s.tasks.keys, t = k) :
    s.SingleFile := by
  intro t u ht hu
  obtain ⟨task, htask, -⟩ := ht
  obtain ⟨task', htask', -⟩ := hu
  rw [h t (Table.mem_keys_of_lookup htask), h u (Table.mem_keys_of_lookup htask')]

/-- While a warm-up is `WarmingUp` there are fewer connections in `idle` than `maxConnections`, and
    so there is a place for the one that it has opened. -/
def HasRoom (s : Workload) : Prop :=
  ∀ ticket, s.WarmingUp ticket → s.node.pool.idle.length < s.node.pool.settings.maxConnections

theorem pool_of_sounded {now : Time} {n : Node} {task : Task} {c : Connection} {x : Exchange}
    {v : Verdict} : (task.sounded now n c x v).node.pool = n.pool := by
  cases v with
  | waiting => rfl
  | ended result => exact Task.pool_of_probed

theorem stage_of_sounded {now deadline : Time} {n : Node} {task : Task} {c : Connection}
    {x : Exchange} {v : Verdict} : (task.sounded now n c x v).task.stage ≠ .dialling deadline := by
  cases v with
  | waiting => exact nofun
  | ended result => exact nofun

/-- A probe leaves the pool alone. -/
theorem pool_of_probe {n : Node} {ticket : Ticket} {task : Task} {now : Time}
    {arrival? : Option Arrival} {turn : Turn} (hclaimless : task.purpose.isClaimless = true)
    (hwarm : task.purpose.isWarmUp = false) (hstage : task.stage.Claimless)
    (hturn : task.step now ticket arrival? n = some turn) : turn.node.pool = n.pool := by
  have hprobes : task.purpose = .probe ∨ task.purpose = .revive := by
    cases hpurpose : task.purpose with
    | probe => exact .inl rfl
    | revive => exact .inr rfl
    | warmUp _ | borrow | use _ _ | execute _ =>
        rw [hpurpose] at hclaimless hwarm
        contradiction
  cases Task.step_eq_some_iff.mp hturn with
  | begun _ =>
      unfold Task.start
      rcases hprobes with hpurpose | hpurpose
      all_goals
        rw [hpurpose]
        rfl
  | connected _ _ =>
      unfold Task.connected
      rcases hprobes with hpurpose | hpurpose
      all_goals
        rw [hpurpose]
        exact pool_of_sounded
  | refused _ _ | unconnected _ _ _ _ =>
      unfold Task.unreachable
      rcases hprobes with hpurpose | hpurpose
      all_goals
        rw [hpurpose]
        exact Task.pool_of_probed
  | sounded _ _ => exact pool_of_sounded
  | broken _ _ _ => exact Task.pool_of_probed
  | resumed h _ | overdue h _ _ | listened h _ =>
      rw [h] at hstage
      exact absurd hstage id

/-- While nobody has a claim, only a warm-up under way and whoever asks for a connection do
    something to the pool. -/
theorem pool_of_unasked_turn {n : Node} {ticket : Ticket} {task : Task} {now : Time}
    {arrival? : Option Arrival} {turn : Turn} (hnone : ∀ k, n.pool.claims.lookup k = none)
    (hfits : task.Fits ticket n.pool) (hasks : task.asks n = false)
    (hwarmUp : task.purpose.isWarmUp = true → task.stage = .fresh)
    (hturn : task.step now ticket arrival? n = some turn) : turn.node.pool = n.pool := by
  rcases hfits.cases with ⟨hacquires, -⟩ | ⟨other, command, huse, -, hborrows⟩ | ⟨hclaimless, -, hstage⟩
  · exact pool_of_not_asks hacquires hasks hturn
  · rw [hnone] at hborrows
    rw [step_of_borrows_none hborrows] at hturn
    contradiction
  · by_cases hwarm : task.purpose.isWarmUp = true
    · exact pool_of_fresh_warmUp hwarm (hwarmUp hwarm) hturn
    · exact pool_of_probe hclaimless (Bool.eq_false_iff.mpr hwarm) hstage hturn

/-- A warm-up that dials after `Task.stockUp` has seen that there are few idle connections. -/
theorem room_of_stockUp {n : Node} {task : Task} {now deadline : Time}
    (hdialling : (task.stockUp now n).task.stage = .dialling deadline) :
    (task.stockUp now n).node.pool.idle.length <
      (task.stockUp now n).node.pool.settings.maxConnections := by
  unfold Task.stockUp at hdialling ⊢
  split at hdialling
  · next hfew =>
      rw [if_pos hfew]
      exact Nat.lt_of_lt_of_le hfew (Nat.min_le_right ..)
  · contradiction

/-- **What a warm-up does in one step:** it looks at the pool again by `Task.stockUp`, or ends; and
    if it had a connection of its own, it would go on talking on that. -/
theorem warmUp_cases {n : Node} {ticket : Ticket} {task : Task} {now : Time}
    {arrival? : Option Arrival} {turn : Turn} (hwarm : task.purpose.isWarmUp = true)
    (hstage : task.stage.Claimless) (hturn : task.step now ticket arrival? n = some turn) :
    (∃ (n' : Node) (task' : Task), turn = task'.stockUp now n') ∨
      (∃ result, turn.task.stage = .finished result) ∨
      ∃ c x deadline, task.stage = .probing c x deadline ∧
        ∃ c' x' v, turn = task.sounded now n c' x' v := by
  obtain ⟨counted, hpurpose⟩ := Purpose.exists_warmUp hwarm
  cases Task.step_eq_some_iff.mp hturn with
  | begun _ =>
      unfold Task.start
      rw [hpurpose]
      exact .inl ⟨n, _, rfl⟩
  | connected _ _ =>
      unfold Task.connected
      rw [hpurpose]
      exact .inl ⟨_, _, rfl⟩
  | refused _ _ | unconnected _ _ _ _ =>
      refine .inr (.inl ?_)
      unfold Task.unreachable
      rw [hpurpose]
      cases counted with
      | true | false => exact ⟨_, rfl⟩
  | sounded h _ => exact .inr (.inr ⟨_, _, _, h, _, _, _, rfl⟩)
  | @broken c x deadline e h _ _ =>
      exact .inr (.inr ⟨c, x, deadline, h, c, x, .ended (.error e), rfl⟩)
  | resumed h _ | overdue h _ _ | listened h _ =>
      rw [h] at hstage
      exact absurd hstage id

/-- A warm-up that is `dialling` after its turn has room among the idle connections. -/
theorem room_of_dialling {n : Node} {ticket : Ticket} {task : Task} {now deadline : Time}
    {arrival? : Option Arrival} {turn : Turn} (hwarm : task.purpose.isWarmUp = true)
    (hstage : task.stage.Claimless) (hturn : task.step now ticket arrival? n = some turn)
    (hdialling : turn.task.stage = .dialling deadline) :
    turn.node.pool.idle.length < turn.node.pool.settings.maxConnections := by
  rcases warmUp_cases hwarm hstage hturn with ⟨n', task', rfl⟩ | ⟨result, hresult⟩ |
    ⟨_, _, _, -, _, _, _, rfl⟩
  · exact room_of_stockUp hdialling
  · rw [hresult] at hdialling
    contradiction
  · exact absurd hdialling stage_of_sounded

theorem WarmingUp.of_lookup_eq {s s' : Workload} {t : Ticket} (h : s'.WarmingUp t)
    (htasks : s'.tasks.lookup t = s.tasks.lookup t) : s.WarmingUp t := by
  obtain ⟨task, deadline, htask, hwarm, hstage⟩ := h
  exact ⟨task, deadline, htasks.symm.trans htask, hwarm, hstage⟩

/-- A ticket that is `WarmingUp` is not that of a task which was just set down and is not
    `dialling`. -/
theorem WarmingUp.ne_of_insert {n : Node} {tasks : Table Ticket Task} {asked : Bool}
    {t ticket : Ticket} {task : Task}
    (h : WarmingUp { node := n, tasks := tasks.insert ticket task, asked := asked } t)
    (hstage : ∀ deadline, task.stage ≠ .dialling deadline) : t ≠ ticket := by
  rintro rfl
  obtain ⟨task', deadline, htask', -, hdialling⟩ := h
  rw [Table.lookup_insert, if_pos rfl] at htask'
  obtain rfl := Option.some.inj htask'
  exact hstage deadline hdialling

/-- The room that there was is left if `idle` did not grow and the warm-up had no turn. -/
theorem WarmingUp.room_left {s s' : Workload} {t : Ticket} (h : s'.WarmingUp t) (hroom : s.HasRoom)
    (htasks : s'.tasks.lookup t = s.tasks.lookup t)
    (hsettings : s'.node.pool.settings = s.node.pool.settings)
    (hidle : s'.node.pool.idle.length ≤ s.node.pool.idle.length) :
    s'.node.pool.idle.length < s'.node.pool.settings.maxConnections := by
  rw [hsettings]
  exact Nat.lt_of_le_of_lt hidle (hroom t (h.of_lookup_eq htasks))

theorem WarmingUp.room_same {s s' : Workload} {t : Ticket} (h : s'.WarmingUp t) (hroom : s.HasRoom)
    (htasks : s'.tasks.lookup t = s.tasks.lookup t) (hpool : s'.node.pool = s.node.pool) :
    s'.node.pool.idle.length < s'.node.pool.settings.maxConnections := by
  apply h.room_left hroom htasks (congrArg Pool.settings hpool)
  exact Nat.le_of_eq (congrArg (·.idle.length) hpool)

/-- The turn of a task keeps the room, whether it is the warm-up's own or not. -/
theorem hasRoom_turn {s s' : Workload} {t ticket : Ticket} {task : Task} {now : Time}
    {arrival? : Option Arrival} {turn : Turn} (h : s.Inv) (hroom : s.HasRoom)
    (hnone : ∀ k, s.node.pool.claims.lookup k = none) (hsingle : s.SingleFile)
    (htask : s.tasks.lookup ticket = some task) (hasks : task.asks s.node = false)
    (hfresh : ∀ link, arrival? = some (.connected link) → s.node.pool.uses link = 0)
    (hturn : task.step now ticket arrival? s.node = some turn) (hnode : s'.node = turn.node)
    (htasks : s'.tasks = turn.tasks ticket s.tasks) (hwarming : s'.WarmingUp t) :
    s'.node.pool.idle.length < s'.node.pool.settings.maxConnections := by
  have hfits := h.fits ticket task htask
  by_cases hne : t = ticket
  · -- the warm-up has just looked whether there is room
    subst hne
    have hkeeps := Task.keeps_step h.sound hfits hfresh hturn
    obtain ⟨task', deadline, htask', hwarm, hdialling⟩ := hwarming
    rw [htasks] at htask'
    obtain rfl := Turn.eq_of_lookup_tasks htask'
    rw [hkeeps.purpose] at hwarm
    have hstage := ((Task.fits_of_isClaimless (Purpose.isClaimless_of_isWarmUp hwarm)).mp hfits).2
    rw [hnode]
    exact room_of_dialling hwarm hstage hturn hdialling
  · have hothers : s'.tasks.lookup t = s.tasks.lookup t := by
      rw [htasks]
      exact Turn.lookup_tasks_of_ne hne
    apply hwarming.room_same hroom hothers
    rw [hnode]
    refine pool_of_unasked_turn hnone hfits hasks ?_ hturn
    intro hwarm
    -- of two warm-ups this one has not begun before
    by_cases hbegun : task.stage = .fresh ∧ task.opened = 0
    · exact hbegun.1
    · have hbefore := (hwarming.of_lookup_eq hothers).underWay
      exact absurd (hsingle t ticket hbefore ⟨task, htask, hwarm, hbegun⟩) hne

/-- **One turn leaves room (`HasRoom`)**, if no two warm-ups are under way before it and the state
    is `Orderly` after it. -/
theorem hasRoom_step {s s' : Workload} (h : s.Inv) (hroom : s.HasRoom) (huntouched : s.Untouched)
    (hsingle : s.SingleFile) (hstep : s.Step s') (horderly' : s'.Orderly) : s'.HasRoom := by
  intro t hwarming
  have hasked' := hwarming.underWay.asked_eq_false horderly'
  have hnone := huntouched (asked_of_step hstep hasked')
  cases hstep with
  | spawn ticket purpose hfree hclaim huse =>
      have hne := hwarming.ne_of_insert nofun
      exact hwarming.room_same hroom ((Table.lookup_insert ..).trans (if_neg hne)) rfl
  | @step ticket task now arrival? turn htask hfresh hturn =>
      obtain ⟨-, hasks⟩ := Bool.or_eq_false_iff.mp hasked'
      exact hasRoom_turn h hroom hnone hsingle htask hasks hfresh hturn rfl rfl hwarming
  | @cancel ticket task htask =>
      have hne : t ≠ ticket := by
        rintro rfl
        obtain ⟨task, deadline, htask, -, -⟩ := hwarming
        rw [Table.lookup_erase, if_pos rfl] at htask
        contradiction
      apply hwarming.room_same hroom ((Table.lookup_erase ..).trans (if_neg hne))
      exact taskWithdraw_of_none hnone ticket task
  | seize deadline htask hacquires hstage hpermits => contradiction
  | @stock ticket task deadline link htask hwarm hstage hfresh =>
      -- a connection stocked by another warm-up would take the room, but there is no other
      exfalso
      have hne := hwarming.ne_of_insert nofun
      have hbefore : s.WarmingUp t :=
        hwarming.of_lookup_eq ((Table.lookup_insert ..).trans (if_neg hne))
      have hother : s.WarmingUp ticket := ⟨task, deadline, htask, hwarm, hstage⟩
      exact hne (hsingle t ticket hbefore.underWay hother.underWay)
  | @discard holder hfree => exact hwarming.room_same hroom rfl (discard_of_none (hnone holder))
  | @restock holder lease hfree hlent =>
      rw [hnone holder] at hlent
      contradiction
  | @surrender holder hfree hgranted =>
      rw [hnone holder] at hgranted
      contradiction
  | clearIdle => exact hwarming.room_left hroom rfl rfl (Nat.zero_le _)
  | close => exact hwarming.room_left hroom rfl rfl (Nat.zero_le _)
  | other node hpool => exact hwarming.room_same hroom rfl hpool

/-- Orderly turns, after each of which no two warm-ups are under way. -/
abbrev SingleFileSteps : Workload → Workload → Prop :=
  Relation.ReflTransGen fun s s' => s.Step s' ∧ s'.Orderly ∧ s'.SingleFile

theorem orderlySteps_of_singleFileSteps {s s' : Workload} (h : s.SingleFileSteps s') :
    s.OrderlySteps s' := by
  induction h with
  | refl => exact .refl
  | tail _ hstep ih => exact ih.tail ⟨hstep.1, hstep.2.1⟩

/-- A whole run of `SingleFileSteps` leaves room (`HasRoom`). -/
theorem hasRoom_singleFileSteps {s s' : Workload} (h : s.Inv) (hroom : s.HasRoom)
    (huntouched : s.Untouched) (horderly : s.Orderly) (hsingle : s.SingleFile)
    (hsteps : s.SingleFileSteps s') :
    s'.Inv ∧ s'.HasRoom ∧ s'.Untouched ∧ s'.Orderly ∧ s'.SingleFile := by
  induction hsteps with
  | refl => exact ⟨h, hroom, huntouched, horderly, hsingle⟩
  | tail _ hstep ih =>
      obtain ⟨hinv, hroom, huntouched, -, hsingle⟩ := ih
      obtain ⟨hstep, horderly', hsingle'⟩ := hstep
      exact ⟨inv_step hinv hstep, hasRoom_step hinv hroom huntouched hsingle hstep horderly',
        untouched_step hinv huntouched hstep, horderly', hsingle'⟩

/-! ## Conservation -/

/-- A new node without tasks. -/
def start (endpoint : Endpoint) (settings : PoolSettings) (policy : PolicyChoice) : Workload :=
  { node := .new endpoint settings policy }

section Start
variable (endpoint : Endpoint) (settings : PoolSettings) (policy : PolicyChoice)

theorem inv_start : (start endpoint settings policy).Inv where
  sound := Pool.sound_new endpoint settings
  fits _ _ htask := by contradiction
  alone _ _ _ _ htask := by contradiction

theorem untouched_start : (start endpoint settings policy).Untouched :=
  fun _ _ => rfl

theorem orderly_start : (start endpoint settings policy).Orderly :=
  orderly_of_asked_eq_false rfl

theorem hasRoom_start : (start endpoint settings policy).HasRoom :=
  fun _ ⟨_, _, htask, _⟩ => by contradiction

theorem singleFile_start : (start endpoint settings policy).SingleFile :=
  singleFile_of_keys 0 fun _ ht => absurd ht List.not_mem_nil

end Start

/-- **Permits and connections are conserved**, for all settings and on every run of all the callers
    of a pool. Free `permits`, those with a `lent` connection and those `pledged` to a ticket
    without one make up `max maxConnections 1`, the number of permits that there are; `uses` of no
    connection is more than 1, so none is idle twice, or idle and lent, or lent to two; no more than
    `maxConnections` are `idle`; and on none of those is anything left to be read.

    If warm-ups are over before anybody asks for a connection (`OrderlySteps`), the connections that
    are `idle`, `lent` or `connecting` are no more than permits. If moreover warm-ups come one at a
    time (`SingleFileSteps`), this goes for the connection that a warm-up is having opened as
    well. -/
theorem conserved (endpoint : Endpoint) (settings : PoolSettings) (policy : PolicyChoice) :
    (∀ s, (start endpoint settings policy).Steps s →
      s.node.pool.permits + s.node.pool.lent + s.node.pool.pledged =
          max settings.maxConnections 1 ∧
        (∀ link, s.node.pool.uses link ≤ 1) ∧
        s.node.pool.idle.length ≤ settings.maxConnections ∧
        ∀ c ∈ s.node.pool.idle, c.buffer.contents = []) ∧
    (∀ s, (start endpoint settings policy).OrderlySteps s →
      s.node.pool.idle.length + s.node.pool.lent + s.node.pool.connecting ≤
        max settings.maxConnections 1) ∧
    (∀ s, (start endpoint settings policy).SingleFileSteps s → ∀ ticket, s.WarmingUp ticket →
      s.node.pool.idle.length + s.node.pool.lent + s.node.pool.connecting + 1 ≤
        max settings.maxConnections 1) := by
  have hinv := inv_start endpoint settings policy
  have huntouched := untouched_start endpoint settings policy
  have horderly := orderly_start endpoint settings policy
  refine ⟨?_, ?_, ?_⟩
  · intro s hsteps
    have hsound := (inv_steps hinv hsteps).sound
    have hpermits := hsound.permits
    have hroom := hsound.room
    rw [settings_steps hinv hsteps] at hpermits hroom
    exact ⟨hpermits, hsound.uses, hroom, hsound.idle⟩
  · intro s hsteps
    have hall := steps_of_orderlySteps hsteps
    obtain ⟨-, hcapped, -, -⟩ := capped_orderlySteps hinv (Pool.capped_new endpoint settings)
      horderly huntouched hsteps
    unfold Pool.Capped at hcapped
    rw [settings_steps hinv hall] at hcapped
    exact hcapped
  · intro s hsteps ticket hwarming
    have hall := steps_of_orderlySteps (orderlySteps_of_singleFileSteps hsteps)
    obtain ⟨-, hhasRoom, huntouched, horderly, -⟩ := hasRoom_singleFileSteps hinv
      (hasRoom_start endpoint settings policy) huntouched horderly
      (singleFile_start endpoint settings policy) hsteps
    have hasked := hwarming.underWay.asked_eq_false horderly
    obtain ⟨hlent, hconnecting⟩ := totals_of_none (huntouched hasked)
    have hroom := hhasRoom ticket hwarming
    rw [settings_steps hinv hall] at hroom
    rw [hlent, hconnecting]
    show s.node.pool.idle.length + 0 + 0 + 1 ≤ _
    exact Nat.le_trans hroom (Nat.le_max_left _ _)

/-- One connection at most, opened at the start. -/
def single : PoolSettings := { minConnections := 1, maxConnections := 1 }

/-- The connection has been opened by a warm-up, and the task with ticket 1 has borrowed it. -/
def singleLent : Workload :=
  { node :=
      { Node.new ⟨"a:1"⟩ single .failImmediately with
        pool :=
          { Pool.new ⟨"a:1"⟩ single with
            permits := 0
            claims := [(1, .lent { connection := { link := 5 } })] } }
    asked := true }

/-- A warm-up opens the only connection there may be, and then a task borrows it. -/
theorem conserved_singleLent :
    (start ⟨"a:1"⟩ single .failImmediately).SingleFileSteps singleLent ∧
      singleLent.node.pool.permits + singleLent.node.pool.lent + singleLent.node.pool.pledged = 1 ∧
      singleLent.node.pool.idle.length + singleLent.node.pool.lent +
        singleLent.node.pool.connecting ≤ 1 := by
  have hsteps : (start ⟨"a:1"⟩ single .failImmediately).SingleFileSteps singleLent := by
    -- the warm-up dials, gets its connection, and is over
    refine .head ⟨.spawn 0 (.warmUp true) (free_of_tasks_eq_nil rfl 0) rfl ?_, ?_, ?_⟩ ?_
    · exact fun _ _ huse => by cases huse
    · exact orderly_of_asked_eq_false rfl
    · exact singleFile_of_keys 0 fun t ht => List.mem_singleton.mp ht
    refine .head ⟨.step 0 0 none rfl nofun rfl, ?_, ?_⟩ ?_
    · exact orderly_of_asked_eq_false rfl
    · exact singleFile_of_keys 0 fun t ht => List.mem_singleton.mp ht
    refine .head ⟨.step 0 0 (some (.connected 5)) rfl (fun _ _ => rfl) rfl, ?_, ?_⟩ ?_
    · exact orderly_of_asked_eq_false rfl
    · exact singleFile_of_keys 0 fun t ht => absurd ht List.not_mem_nil
    -- only then somebody asks, and gets the connection at once
    refine .head ⟨.spawn 1 .borrow (free_of_tasks_eq_nil rfl 1) rfl ?_, ?_, ?_⟩ ?_
    · exact fun _ _ huse => by cases huse
    · exact orderly_of_asked_eq_false rfl
    · exact singleFile_of_keys 1 fun t ht => List.mem_singleton.mp ht
    refine .head ⟨.step 1 0 none rfl nofun rfl, ?_, ?_⟩ ?_
    · exact fun _ _ _ htask => by contradiction
    · exact singleFile_of_keys 1 fun t ht => absurd ht List.not_mem_nil
    exact .refl
  have horderly := orderlySteps_of_singleFileSteps hsteps
  obtain ⟨hall, hcapped, -⟩ := conserved ⟨"a:1"⟩ single .failImmediately
  exact ⟨hsteps, (hall _ (steps_of_orderlySteps horderly)).1, hcapped _ horderly⟩

end Workload

end Memcache
