import Memcache.Proofs.Node.Course
import Memcache.Proofs.Pool.Conservation
import Memcache.Proofs.Pool.Lending

/-!
# `Memcache.Proofs.Pool.Return` — a connection from its loan to its return

A connection is lent, its holder has commands run on it one after the other, gives some of them up
under way, perhaps gives up the connection as well, and drops it in the end. All the while the other
callers of the pool have their turns. Of everything that was done to the connection (`Use`) the last
call alone decides whether it is in `Pool.idle` again: a connection that was discarded, or on which
a command failed or was cut off, comes back after one more command that succeeds on it.

What carries this along a run is an invariant of the moments between two calls, `Workload.Kept`: as
long as no command on the connection is under way, `Lease.sound` is set just when the last call
succeeded. While a command is under way it is not set, and how the command ends is the next call to
count.

## Contents

* `Workload.Handles`, `Workload.Loan` — one turn, and all turns since the loan, with what was done
  to the connection;
* `Workload.Kept`, `Workload.Loan.kept` — **the invariant**, on every loan;
* `Workload.Loan.handles_of_step` — **no turn is left out** until the connection comes back;
* `Workload.idle_iff_last_succeeded` — **the last call decides**.
-/

namespace Memcache

/-! ## Runs of a loan -/

/-- How the command of a turn ended, if it did: what `ran`. -/
def Turn.use? (turn : Turn) : Option Use :=
  match turn.task.stage with
  | .finished (.ran result _) => some (.ran result)
  | _ => none

/-- True of `Stage.talking`, while a command waits for its answer on a connection that is lent. -/
def Stage.isTalking : Stage → Bool
  | .talking _ _ => true
  | _ => false

theorem Task.Fits.exists_onLoan {ticket : Ticket} {p : Pool} {t : Task} (h : t.Fits ticket p)
    (htalking : t.stage.isTalking = true) : ∃ c, t.OnLoan ticket p ⟨c, false⟩ := by
  unfold Stage.isTalking at htalking
  split at htalking
  · next hstage => exact h.onLoan hstage
  · contradiction

namespace Workload

/-- **One turn, and what it did to the connection that `holder` has.** -/
inductive Handles (holder : Ticket) (s : Workload) : Option Use → Workload → Prop where
  /-- A command on the connection, a `Purpose.use` of it, begins, goes on, or comes to its end. -/
  | command (ticket : Ticket) {task : Task} {command : Command} (now : Time)
      (arrival? : Option Arrival) {turn : Turn} (htask : s.tasks.lookup ticket = some task)
      (hpurpose : task.purpose = .use holder command)
      (hfresh : ∀ link, arrival? = some (.connected link) → s.node.pool.uses link = 0)
      (hturn : task.step now ticket arrival? s.node = some turn) :
      Handles holder s turn.use? {
        node := turn.node
        tasks := turn.tasks ticket s.tasks
        asked := s.asked || task.asks s.node }
  /-- A command on it is given up. One that has not begun has done nothing. -/
  | cancel (ticket : Ticket) {task : Task} {command : Command}
      (htask : s.tasks.lookup ticket = some task) (hpurpose : task.purpose = .use holder command) :
      Handles holder s (if task.stage.isTalking then some .cutOff else none)
        { s with node := task.withdraw ticket s.node, tasks := s.tasks.erase ticket }
  /-- The holder gives it up by `Pool.discard`. -/
  | discard (hfree : s.Free holder) :
      Handles holder s (some .discarded) (s.withPool (s.node.pool.discard holder))
  /-- The turn has nothing to do with it, nor with the commands on it. -/
  | apart {s' : Workload} (hstep : s.Step s')
      (hclaim : s'.node.pool.claims.lookup holder = s.node.pool.claims.lookup holder)
      (hcommands : ∀ ticket task command, s.tasks.lookup ticket = some task →
        task.purpose = .use holder command → s'.tasks.lookup ticket = some task) :
      Handles holder s none s'

/-- All turns since the connection `link` was lent to `holder`, with what was done to it. -/
inductive Loan (holder : Ticket) (link : Nat) : List Use → Workload → Prop where
  /-- A task that wants to `borrow` has asked for a connection and got one. -/
  | lend {s : Workload} {task : Task} (now : Time) (arrival? : Option Arrival) {turn : Turn}
      (hinv : s.Inv) (htask : s.tasks.lookup holder = some task) (hpurpose : task.purpose = .borrow)
      (hfresh : ∀ l, arrival? = some (.connected l) → s.node.pool.uses l = 0)
      (hturn : task.step now holder arrival? s.node = some turn)
      (hlent : turn.task.stage = .finished (.borrowed (.ok ())))
      (hlink : (turn.node.pool.lease? holder).map (·.connection.link) = some link) :
      Loan holder link [] {
        node := turn.node
        tasks := turn.tasks holder s.tasks
        asked := s.asked || task.asks s.node }
  | turn {uses : List Use} {use? : Option Use} {s s' : Workload} (h : Loan holder link uses s)
      (huse : s.Handles holder use? s') : Loan holder link (uses ++ use?.toList) s'

/-- A turn that `Handles` the connection is a `Workload.Step`. -/
theorem Handles.step {holder : Ticket} {use? : Option Use} {s s' : Workload}
    (h : s.Handles holder use? s') : s.Step s' := by
  cases h with
  | command ticket now arrival? htask hpurpose hfresh hturn =>
      exact .step ticket now arrival? htask hfresh hturn
  | cancel ticket htask hpurpose => exact .cancel htask
  | discard hfree => exact .discard hfree
  | apart hstep hclaim hcommands => exact hstep

/-- No command on the connection of `holder` waits for its answer. -/
def Quiet (s : Workload) (holder : Ticket) : Prop :=
  ∀ ticket task command, s.tasks.lookup ticket = some task →
    task.purpose = .use holder command → task.stage.isTalking = false

theorem Free.quiet {s : Workload} {holder : Ticket} (h : s.Free holder) : s.Quiet holder := by
  intro ticket task command htask hpurpose
  exact absurd hpurpose (h.use ticket task command htask)

/-- **The invariant.** The connection is with its holder, who has no task of its own; and while the
    connection is `Quiet`, `sound` of its lease is what `Use.leavesSound` makes of the `uses`. -/
structure Kept (holder : Ticket) (link : Nat) (uses : List Use) (s : Workload) : Prop where
  inv : s.Inv
  own : s.tasks.lookup holder = none
  lent : ∃ lease, s.node.pool.claims.lookup holder = some (.lent lease) ∧
    lease.connection.link = link ∧ (s.Quiet holder → lease.sound = Use.leavesSound uses)

section Loan
variable {holder : Ticket} {link : Nat} {uses : List Use} {s s' : Workload}

/-- A ticket that has a claim and no task gets no task. -/
theorem own_step {claim : Claim} (hown : s.tasks.lookup holder = none)
    (hclaim : s.node.pool.claims.lookup holder = some claim) (hstep : s.Step s') :
    s'.tasks.lookup holder = none := by
  have hne : ∀ {ticket : Ticket} {task : Task}, s.tasks.lookup ticket = some task →
      holder ≠ ticket := by
    rintro ticket task htask rfl
    rw [hown] at htask
    contradiction
  cases hstep with
  | spawn ticket purpose hfree hnone huse =>
      have hticket : holder ≠ ticket := by
        rintro rfl
        rw [hclaim] at hnone
        contradiction
      exact (Table.lookup_insert ..).trans ((if_neg hticket).trans hown)
  | step ticket now arrival? htask hfresh hturn =>
      exact (Turn.lookup_tasks_of_ne (hne htask)).trans hown
  | cancel htask => exact (Table.lookup_erase ..).trans ((if_neg (hne htask)).trans hown)
  | seize deadline htask hacquires hstage hpermits =>
      exact (Table.lookup_insert ..).trans ((if_neg (hne htask)).trans hown)
  | stock link htask hwarm hstage hfresh =>
      exact (Table.lookup_insert ..).trans ((if_neg (hne htask)).trans hown)
  | discard | restock | surrender | clearIdle | close | other => exact hown

/-- A turn of a command keeps the invariant, with its `Turn.use?` added to the `uses`. -/
theorem Kept.command {ticket : Ticket} {task : Task} {command : Command} {now : Time}
    {arrival? : Option Arrival} {turn : Turn} (h : Kept holder link uses s)
    (htask : s.tasks.lookup ticket = some task) (hpurpose : task.purpose = .use holder command)
    (hfresh : ∀ link, arrival? = some (.connected link) → s.node.pool.uses link = 0)
    (hturn : task.step now ticket arrival? s.node = some turn) :
    Kept holder link (uses ++ turn.use?.toList)
      { node := turn.node
        tasks := turn.tasks ticket s.tasks
        asked := s.asked || task.asks s.node } := by
  have hstep : s.Step { node := turn.node, tasks := turn.tasks ticket s.tasks, asked := _ } :=
    .step ticket now arrival? htask hfresh hturn
  have hfits := h.inv.fits ticket task htask
  have hsame := (Task.keeps_step h.inv.sound hfits hfresh hturn).purpose
  obtain ⟨lease, hlent, hlink, -⟩ := h.lent
  obtain ⟨lease', hlent', hlink', hmark⟩ := Task.marks_step hpurpose hfits hlent hlink hturn
  refine ⟨inv_step h.inv hstep, own_step h.own hlent hstep, lease', hlent', hlink', ?_⟩
  intro hquiet
  rcases hmark with ⟨x, deadline, htalking⟩ | ⟨result, reply, hended, hmark⟩
  · -- the command goes on, so the connection is not quiet
    have hgoes : (turn.tasks ticket s.tasks).lookup ticket = some turn.task := by
      simp [Turn.tasks, Task.result?, htalking, Table.lookup_insert]
    have hstage := hquiet ticket turn.task command hgoes (hsame.trans hpurpose)
    rw [htalking] at hstage
    contradiction
  · have huse : turn.use? = some (.ran result) := by
      unfold Turn.use?
      rw [hended]
    rw [huse, hmark]
    exact (Use.leavesSound_append uses (.ran result)).symm

/-- A command that is `cutOff` leaves the lease as it was while it waited: not `sound`. -/
theorem Kept.cancel {ticket : Ticket} {task : Task} {command : Command}
    (h : Kept holder link uses s) (htask : s.tasks.lookup ticket = some task)
    (hpurpose : task.purpose = .use holder command) :
    Kept holder link
      (uses ++ (if task.stage.isTalking then some Use.cutOff else none).toList)
      { s with node := task.withdraw ticket s.node, tasks := s.tasks.erase ticket } := by
  have hstep : s.Step { s with node := task.withdraw ticket s.node, tasks := _ } := .cancel htask
  have hnode : task.withdraw ticket s.node = s.node := by
    unfold Task.withdraw
    rw [hpurpose]
  obtain ⟨lease, hlent, hlink, hmark⟩ := h.lent
  refine ⟨inv_step h.inv hstep, own_step h.own hlent hstep, lease, ?_, hlink, ?_⟩
  · rw [hnode]
    exact hlent
  · intro hquiet
    cases htalking : task.stage.isTalking with
    | true =>
        obtain ⟨c, hloan⟩ := (h.inv.fits ticket task htask).exists_onLoan htalking
        have hcut := hloan.lent
        rw [Task.holder_of_use hpurpose, hlent] at hcut
        cases hcut
        exact (Use.leavesSound_append uses .cutOff).symm
    | false =>
        -- nothing was under way, so the flag has told the last call before
        have hbefore : s.Quiet holder := by
          intro u task' command' htask' hpurpose'
          by_cases hu : u = ticket
          · subst hu
            obtain rfl := Option.some.inj (htask.symm.trans htask')
            exact htalking
          · have hafter : (s.tasks.erase ticket).lookup u = some task' :=
              (Table.lookup_erase ..).trans ((if_neg hu).trans htask')
            exact hquiet u task' command' hafter hpurpose'
        simpa using hmark hbefore

theorem Kept.discard (h : Kept holder link uses s) (hfree : s.Free holder) :
    Kept holder link (uses ++ [.discarded]) (s.withPool (s.node.pool.discard holder)) := by
  obtain ⟨lease, hlent, hlink, -⟩ := h.lent
  refine ⟨inv_step h.inv (.discard hfree), h.own, { lease with sound := false }, ?_, hlink, ?_⟩
  · show (s.node.pool.discard holder).claims.lookup holder = _
    unfold Pool.discard
    rw [Pool.lease?_eq_some_iff.mpr hlent]
    exact Pool.lookup_putLease _ hlent
  · intro _
    exact (Use.leavesSound_append uses .discarded).symm

/-- The turns of others leave the lease alone. -/
theorem Kept.apart (h : Kept holder link uses s) (hstep : s.Step s')
    (hclaim : s'.node.pool.claims.lookup holder = s.node.pool.claims.lookup holder)
    (hcommands : ∀ ticket task command, s.tasks.lookup ticket = some task →
      task.purpose = .use holder command → s'.tasks.lookup ticket = some task) :
    Kept holder link uses s' := by
  obtain ⟨lease, hlent, hlink, hmark⟩ := h.lent
  refine ⟨inv_step h.inv hstep, own_step h.own hlent hstep, lease, ?_, hlink, ?_⟩
  · rw [hclaim]
    exact hlent
  · intro hquiet
    apply hmark
    intro ticket task command htask hpurpose
    exact hquiet ticket task command (hcommands ticket task command htask hpurpose) hpurpose

/-- **One turn keeps the invariant.** -/
theorem Kept.turn {use? : Option Use} (h : Kept holder link uses s)
    (huse : s.Handles holder use? s') : Kept holder link (uses ++ use?.toList) s' := by
  cases huse with
  | command ticket now arrival? htask hpurpose hfresh hturn =>
      exact h.command htask hpurpose hfresh hturn
  | cancel ticket htask hpurpose => exact h.cancel htask hpurpose
  | discard hfree => exact h.discard hfree
  | apart hstep hclaim hcommands =>
      rw [Option.toList_none, List.append_nil]
      exact h.apart hstep hclaim hcommands

/-- **Every `Loan` keeps it**, from the turn that lent the connection on. -/
theorem Loan.kept (h : Loan holder link uses s) : Kept holder link uses s := by
  induction h with
  | @lend s task now arrival? turn hinv htask hpurpose hfresh hturn hlent hlink =>
      obtain ⟨c, hc⟩ := Task.lends_step hpurpose (hinv.fits holder task htask) hturn hlent
      have hinv' := inv_step hinv (.step holder now arrival? htask hfresh hturn)
      refine ⟨hinv', ?_, ⟨c, true⟩, hc, ?_, fun _ => rfl⟩
      · show (turn.tasks holder s.tasks).lookup holder = none
        simp [Turn.tasks, Task.result?, hlent, Table.lookup_erase]
      · simpa [Pool.lease?_eq_some_iff.mpr hc] using hlink
  | turn h huse ih => exact ih.turn huse

theorem Kept.ne_waiting (h : Kept holder link uses s) :
    s.node.pool.claims.lookup holder ≠ some .waiting := by
  obtain ⟨lease, hlent, -, -⟩ := h.lent
  rw [hlent]
  exact nofun

/-- The turn of a task that is no command on the connection `Handles` it by leaving it alone. -/
theorem Kept.handles_of_task {ahead : Bool} {ticket : Ticket} {task : Task}
    (h : Kept holder link uses s) (hstep : s.Step s') (htask : s.tasks.lookup ticket = some task)
    (huse : ∀ command, task.purpose ≠ .use holder command)
    (hevolves : s.node.pool.Evolves ahead (task.holder ticket) s'.node.pool)
    (hothers : ∀ u, u ≠ ticket → s'.tasks.lookup u = s.tasks.lookup u) :
    s.Handles holder none s' := by
  have hne : holder ≠ task.holder ticket := by
    by_cases hother : ∃ other command, task.purpose = .use other command
    · obtain ⟨other, command, hpurpose⟩ := hother
      rw [Task.holder_of_use hpurpose]
      rintro rfl
      exact huse command hpurpose
    · rw [Task.holder_of_ne_use fun other command hpurpose => hother ⟨other, command, hpurpose⟩]
      rintro rfl
      rw [h.own] at htask
      contradiction
  refine .apart hstep (hevolves.lookup_eq hne h.ne_waiting) ?_
  intro u task' command htask' hpurpose
  have hu : u ≠ ticket := by
    rintro rfl
    obtain rfl := Option.some.inj (htask.symm.trans htask')
    exact huse command hpurpose
  exact (hothers u hu).trans htask'

/-- So does a turn of no task that leaves the claim of `holder` alone. -/
theorem handles_of_claim (hstep : s.Step s')
    (hclaim : s'.node.pool.claims.lookup holder = s.node.pool.claims.lookup holder)
    (htasks : s'.tasks = s.tasks) : s.Handles holder none s' := by
  refine .apart hstep hclaim ?_
  intro ticket task command htask _
  rw [htasks]
  exact htask

/-- So does what another holder does with its own connection. -/
theorem Kept.handles_of_other {other : Ticket} (h : Kept holder link uses s) (hstep : s.Step s')
    (hevolves : s.node.pool.Evolves false other s'.node.pool) (hother : holder ≠ other)
    (htasks : s'.tasks = s.tasks) : s.Handles holder none s' :=
  handles_of_claim hstep (hevolves.lookup_eq hother h.ne_waiting) htasks

/-- **No turn is left out.** Until its connection comes back by `Pool.restock`, every
    `Workload.Step` of anybody is one that `Handles` it. -/
theorem Loan.handles_of_step (h : Loan holder link uses s) (hstep : s.Step s') :
    (∃ use?, s.Handles holder use? s') ∨
      ∃ lease, s' = s.withPool (s.node.pool.restock holder lease) := by
  have hkept := h.kept
  obtain ⟨lease, hlent, -, -⟩ := hkept.lent
  cases hstep with
  | spawn ticket purpose hfree hclaim huse =>
      refine .inl ⟨none, .apart (.spawn ticket purpose hfree hclaim huse) rfl ?_⟩
      intro u task command htask _
      have hu : u ≠ ticket := by
        rintro rfl
        rw [hfree.own] at htask
        contradiction
      exact (Table.lookup_insert ..).trans ((if_neg hu).trans htask)
  | @step ticket task now arrival? turn htask hfresh hturn =>
      have hevolves :=
        (Task.keeps_step hkept.inv.sound (hkept.inv.fits ticket task htask) hfresh hturn).evolves
      by_cases huse : ∃ command, task.purpose = .use holder command
      · obtain ⟨command, hpurpose⟩ := huse
        exact .inl ⟨_, .command ticket now arrival? htask hpurpose hfresh hturn⟩
      · refine .inl ⟨none, hkept.handles_of_task (.step ticket now arrival? htask hfresh hturn)
          htask (fun command hpurpose => huse ⟨command, hpurpose⟩) hevolves ?_⟩
        exact fun u hu => Turn.lookup_tasks_of_ne hu
  | @cancel ticket task htask =>
      by_cases huse : ∃ command, task.purpose = .use holder command
      · obtain ⟨command, hpurpose⟩ := huse
        exact .inl ⟨_, .cancel ticket htask hpurpose⟩
      · have hevolves : s.node.pool.Evolves false (task.holder ticket) _ :=
          evolves_taskWithdraw hkept.inv.sound ticket task
        refine .inl ⟨none, hkept.handles_of_task (.cancel htask) htask
          (fun command hpurpose => huse ⟨command, hpurpose⟩) hevolves ?_⟩
        exact fun u hu => (Table.lookup_erase ..).trans (if_neg hu)
  | @seize ticket task deadline htask hacquires hstage hpermits =>
      have hevolves : s.node.pool.Evolves false (task.holder ticket) _ :=
        evolves_seize hkept.inv htask hacquires hstage hpermits
      refine .inl ⟨none, hkept.handles_of_task
        (.seize deadline htask hacquires hstage hpermits) htask ?_ hevolves ?_⟩
      · intro command hpurpose
        rw [hpurpose] at hacquires
        contradiction
      · exact fun u hu => (Table.lookup_insert ..).trans (if_neg hu)
  | @stock ticket task deadline l htask hwarm hstage hfresh =>
      refine .inl ⟨none, hkept.handles_of_task (.stock l htask hwarm hstage hfresh) htask ?_
        (Pool.evolves_stock hfresh) ?_⟩
      · intro command hpurpose
        rw [hpurpose] at hwarm
        contradiction
      · exact fun u hu => (Table.lookup_insert ..).trans (if_neg hu)
  | @discard other hfree =>
      by_cases hother : holder = other
      · subst hother
        exact .inl ⟨_, .discard hfree⟩
      · refine .inl ⟨none, hkept.handles_of_other (.discard hfree) ?_ hother rfl⟩
        exact evolves_discard _ other
  | @restock other lease' hfree hlent' =>
      by_cases hother : holder = other
      · subst hother
        exact .inr ⟨lease', rfl⟩
      · refine .inl ⟨none, hkept.handles_of_other (.restock hfree hlent') ?_ hother rfl⟩
        exact (Pool.evolves_restock hlent').1
  | @surrender other hfree hgranted =>
      have hother : holder ≠ other := by
        rintro rfl
        rw [hlent] at hgranted
        cases hgranted
      refine .inl ⟨none, hkept.handles_of_other (.surrender hfree hgranted) ?_ hother rfl⟩
      exact (Pool.evolves_surrender hkept.inv.sound (by rw [hgranted]; rfl)).1
  | clearIdle => exact .inl ⟨none, handles_of_claim .clearIdle rfl rfl⟩
  | close => exact .inl ⟨none, handles_of_claim .close rfl rfl⟩
  | other node hpool =>
      exact .inl ⟨none, handles_of_claim (.other node hpool)
        (congrArg (Table.lookup holder ·.claims) hpool) rfl⟩

/-! ## The return -/

/-- **The last call decides.** Whatever all callers of a pool do, a connection that its holder drops
    by `Pool.release` is idle afterwards if, and only if, `Use.leavesSound` is true of what was done
    with it — nothing, or the last call was a command that `succeeded` — and the pool is open and
    has room. So the connection comes back only if all calls went well, provided that no command
    succeeds on it after a call that did not. -/
theorem idle_iff_last_succeeded (h : Loan holder link uses s) (hfree : s.Free holder) :
    ((s.node.pool.release holder).IsIdle link ↔
      Use.leavesSound uses = true ∧ s.node.pool.closed = false ∧
        s.node.pool.idle.length < s.node.pool.settings.maxConnections) ∧
    ((uses.Pairwise fun earlier later => later.succeeded = true → earlier.succeeded = true) →
      (s.node.pool.release holder).IsIdle link → ∀ use ∈ uses, use.succeeded = true) := by
  obtain ⟨hinv, -, lease, hlent, rfl, hmark⟩ := h.kept
  have hback := Pool.isIdle_release_iff hinv.sound hlent
  rw [hmark hfree.quiet] at hback
  refine ⟨hback, ?_⟩
  intro hlasting hidle
  exact Use.all_succeeded hlasting (hback.mp hidle).1

end Loan

/-! ## A connection that gets another chance -/

/-- The only connection of a pool is lent to ticket 1, with `tag` as its next one, and no command on
    it is under way. -/
def between (tag : UInt32) (sound : Bool) : Workload :=
  { node := .claimed ⟨"a:1"⟩ single .failImmediately 1
      (.lent ⟨{ link := 5, nextTag := tag }, sound⟩)
    asked := true }

/-- A command under ticket 2, sent with `tag`, waits for its answer. -/
def during (tag : UInt32) : Workload :=
  { between (tag + 1) false with
    tasks :=
      [(2, { purpose := .use 1 .noop
             stage := .talking (Command.noop.exchange tag) (0 + single.receiveTimeout) })] }

section Between
variable {uses : List Use} {tag : UInt32} {sound : Bool}

/-- The connection is opened for its holder, and nothing is done with it yet. -/
theorem loan_lent : Loan 1 5 [] (between 0 true) := by
  have hinv := inv_start ⟨"a:1"⟩ single .failImmediately
  have hasked : (start ⟨"a:1"⟩ single .failImmediately).Step _ :=
    .spawn 1 .borrow (free_of_tasks_eq_nil rfl 1) rfl nofun
  have hdialling := Step.step (s := { start ⟨"a:1"⟩ single .failImmediately with
    tasks := [(1, { purpose := .borrow })] }) 1 0 none rfl nofun rfl
  have hturn : Task.step 0 1 (some (.connected 5))
      (.claimed ⟨"a:1"⟩ single .failImmediately 1 .opening)
      { purpose := .borrow, stage := .dialling (0 + single.connectTimeout) } =
        some
          { node := (between 0 true).node
            task := { purpose := .borrow, stage := .finished (.borrowed (.ok ())) } } := rfl
  exact .lend 0 _ (inv_step (inv_step hinv hasked) hdialling) rfl rfl (fun _ _ => rfl) hturn rfl rfl

theorem loan_discarded (h : Loan 1 5 uses (between tag sound)) :
    Loan 1 5 (uses ++ [.discarded]) (between tag false) :=
  h.turn (.discard (free_of_tasks_eq_nil rfl 1))

theorem step_begun :
    Task.step 0 2 none (between tag sound).node { purpose := .use 1 .noop } =
      some
        { node := (between (tag + 1) false).node
          task :=
            { purpose := .use 1 .noop
              stage := .talking (Command.noop.exchange tag) (0 + single.receiveTimeout) }
          effects := [.send 5 (Command.noop.encode tag)] } := by
  have hdigest : (Command.noop.exchange tag).digest .empty =
      (Command.noop.exchange tag, .empty, .waiting) := Exchange.digest_of_none rfl
  show some (Task.engage 0 2 1 (between tag sound).node { purpose := .use 1 .noop } .noop) = _
  simp only [Task.engage, between, Node.claimed, Pool.lease?, Pool.putLease, Table.modify,
    Table.lookup, List.map_cons, List.map_nil, if_true, Connection.begin]
  rw [← Command.exchange, hdigest]
  rfl

theorem loan_begun (h : Loan 1 5 uses (between tag sound)) : Loan 1 5 uses (during tag) := by
  have hspawned : Loan 1 5 (uses ++ []) { between tag sound with
      tasks := [(2, { purpose := .use 1 .noop })] } := by
    refine h.turn (.apart (.spawn 2 (.use 1 .noop) (free_of_tasks_eq_nil rfl 2) rfl ?_) rfl ?_)
    · intro holder command hpurpose
      cases hpurpose
      exact ⟨free_of_tasks_eq_nil rfl 1, _, rfl⟩
    · exact fun _ _ _ htask _ => by contradiction
  have hbegun : Loan 1 5 (uses ++ [] ++ []) (during tag) :=
    hspawned.turn (.command 2 0 none rfl rfl nofun step_begun)
  rw [List.append_nil, List.append_nil] at hbegun
  exact hbegun

theorem loan_cutOff (h : Loan 1 5 uses (during tag)) :
    Loan 1 5 (uses ++ [.cutOff]) (between (tag + 1) false) :=
  h.turn (.cancel 2 rfl rfl)

theorem loan_timedOut (h : Loan 1 5 uses (during tag)) :
    Loan 1 5 (uses ++ [.ran (.error (.receiveTimeout single.receiveTimeout))])
      (between (tag + 1) false) :=
  h.turn (.command 2 (0 + single.receiveTimeout) none rfl rfl nofun rfl)

/-- The answer to a command with tag 2. -/
def noopAnswer : Packet :=
  { magic := Magic.response, opcode := Opcode.noop, tag := 2 }

/-- The third command has been answered. -/
def recovered : Workload :=
  { node := .claimed ⟨"a:1"⟩ single .failImmediately 1
      (.lent
        ⟨{ link := 5
           nextTag := 3
           buffer := (ReceiveBuffer.empty.makeRoom.push noopAnswer.encode).use 24 }, true⟩)
    asked := true }

theorem step_answered_noop :
    Task.step 0 2 (some (.octets noopAnswer.encode)) (during 2).node
        { purpose := .use 1 .noop
          stage := .talking (Command.noop.exchange 2) (0 + single.receiveTimeout) } =
      some
        { node := recovered.node
          task :=
            { purpose := .use 1 .noop
              stage := .finished (.ran (.ok ()) { status? := some .ok }) } } := by
  cbv

theorem loan_answered (h : Loan 1 5 uses (during 2)) :
    Loan 1 5 (uses ++ [.ran (.ok ())]) recovered :=
  h.turn (.command 2 0 (some (.octets noopAnswer.encode)) rfl rfl nofun step_answered_noop)

end Between

/-- A connection is `discarded`, a command on it fails, another one is `cutOff`, and a third one
    succeeds. -/
def mishaps : List Use :=
  [.discarded, .ran (.error (.receiveTimeout single.receiveTimeout)), .cutOff, .ran (.ok ())]

theorem loan_recovered : Loan 1 5 mishaps recovered := by
  have hfailed := loan_timedOut (loan_begun (loan_discarded loan_lent))
  have hcut := loan_cutOff (loan_begun hfailed)
  exact loan_answered (loan_begun hcut)

theorem free_recovered : recovered.Free 1 :=
  free_of_tasks_eq_nil rfl 1

/-- The connection comes back after the `mishaps`. -/
theorem isIdle_recovered : (recovered.node.pool.release 1).IsIdle 5 :=
  ⟨_, List.mem_singleton.mpr rfl, rfl⟩

/-- The connection comes back after the `mishaps`, as the last of them says. -/
theorem idle_iff_last_succeeded_recovered :
    Loan 1 5 mishaps recovered ∧ recovered.Free 1 ∧
      (recovered.node.pool.release 1).IsIdle 5 := by
  obtain ⟨hiff, -⟩ := idle_iff_last_succeeded loan_recovered free_recovered
  exact ⟨loan_recovered, free_recovered, hiff.mpr ⟨rfl, rfl, by decide⟩⟩

/-- **A connection that was `discarded` is used again**, and so is one on which a command failed or
    was `cutOff`, when one more command on it succeeds. So it is not true that a connection comes
    back only if it was never given up and all commands on it succeeded. -/
theorem unsound_idle_again :
    ¬ ∀ (holder : Ticket) (link : Nat) (uses : List Use) (s : Workload),
      Loan holder link uses s → s.Free holder → (s.node.pool.release holder).IsIdle link →
        ∀ use ∈ uses, use.succeeded = true := by
  intro hclaim
  have hall := hclaim 1 5 mishaps recovered loan_recovered free_recovered isIdle_recovered
  have hdiscarded : Use.discarded.succeeded = true := hall .discarded (by simp [mishaps])
  contradiction

end Workload

end Memcache
