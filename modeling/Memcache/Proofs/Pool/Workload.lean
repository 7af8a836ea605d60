import Mathlib.Logic.Relation
import Memcache.Proofs.Pool.TaskSteps

/-!
# `Memcache.Proofs.Pool.Workload` — a pool under all its callers

A `Workload` is one node with everybody who has something to do with its pool: tasks that acquire
connections and run commands, time out and are given up, holders of connections that use them,
discard them and drop them, warm-ups, and whoever empties or closes the pool. They take their turns
in any order. Where callers on two threads can come between two moves of a third, the moves are
turns of their own: `Step.seize` takes a permit before a connection is looked for, `Step.stock`
makes a connection idle before `Step.surrender` frees its permit, and a warm-up looks at the pool
again after others have had their turn. A task of `Purpose.execute` gives its connection back in one
go; whoever comes between the moves of that comes between the turns of a borrower, a user and a
holder.

A lent connection is in the hands of one holder. So a command on it runs only while no other command
does, and it is discarded or dropped only while no command runs (`Workload.Free`).

## Contents

* `Workload`, `Workload.Step` — the turns;
* `Workload.release_steps` — dropping a connection in one go is a run;
* `Workload.Inv`, `Workload.inv_step`, `Workload.inv_steps` — **stages and claims go together on
  every run**;
* `Workload.step_evolves` — every turn is the doing of one ticket.
-/

namespace Memcache

/-- True if a step of the task asks the pool for a connection, or goes on after one that did: if its
    purpose `acquires`. An `execute` on a dead node does not get that far. -/
def Task.asks (n : Node) (t : Task) : Bool :=
  match t.purpose, t.stage with
  | .execute _, .fresh => n.alive
  | purpose, _ => purpose.acquires

theorem Task.asks_of_isWarmUp {n : Node} {task : Task} (h : task.purpose.isWarmUp = true) :
    task.asks n = false := by
  obtain ⟨counted, hpurpose⟩ := Purpose.exists_warmUp h
  unfold Task.asks
  rw [hpurpose]
  rfl

namespace Turn

/-- The tasks after a turn, without the one under `ticket` if that has ended. -/
def tasks (turn : Turn) (ticket : Ticket) (before : Table Ticket Task) : Table Ticket Task :=
  if turn.task.result?.isSome then before.erase ticket else before.insert ticket turn.task

variable {turn : Turn} {ticket t : Ticket} {before : Table Ticket Task}

theorem lookup_tasks_of_ne (hne : t ≠ ticket) :
    (turn.tasks ticket before).lookup t = before.lookup t := by
  unfold tasks
  split
  · rw [Table.lookup_erase, if_neg hne]
  · rw [Table.lookup_insert, if_neg hne]

theorem eq_of_lookup_tasks {task : Task}
    (h : (turn.tasks ticket before).lookup ticket = some task) : task = turn.task := by
  unfold tasks at h
  split at h
  · rw [Table.lookup_erase, if_pos rfl] at h
    contradiction
  · rw [Table.lookup_insert, if_pos rfl] at h
    exact (Option.some.inj h).symm

end Turn

/-- A node with the tasks on it that have not ended. -/
structure Workload where
  node : Node
  tasks : Table Ticket Task := []
  /-- True once the pool was asked for a connection. -/
  asked : Bool := false

namespace Workload

/-- Nobody has a task under `ticket`, and no command runs on a connection lent to it. -/
structure Free (s : Workload) (ticket : Ticket) : Prop where
  own : s.tasks.lookup ticket = none
  use : ∀ u task command, s.tasks.lookup u = some task → task.purpose ≠ .use ticket command

theorem free_of_tasks_eq_nil {s : Workload} (h : s.tasks = []) (ticket : Ticket) :
    s.Free ticket := by
  constructor
  · rw [h]
    rfl
  · intro u task command htask
    rw [h] at htask
    contradiction

/-- The state with this pool, and nothing else changed. -/
def withPool (s : Workload) (p : Pool) : Workload :=
  { s with node := { s.node with pool := p } }

/-- **One turn.** -/
inductive Step (s : Workload) : Workload → Prop where
  /-- A task is set up, under a ticket that nobody has. A command on a lent connection needs one
      that no other command runs on. -/
  | spawn (ticket : Ticket) (purpose : Purpose) (hfree : s.Free ticket)
      (hclaim : s.node.pool.claims.lookup ticket = none)
      (huse : ∀ holder command, purpose = .use holder command →
        s.Free holder ∧ ∃ lease, s.node.pool.claims.lookup holder = some (.lent lease)) :
      Step s { s with tasks := s.tasks.insert ticket { purpose := purpose } }
  /-- A task takes a step, at any time and with anything that the network may deliver. A connection
      that it delivers is a new one, of which the pool has no `uses`. -/
  | step (ticket : Ticket) {task : Task} (now : Time) (arrival? : Option Arrival) {turn : Turn}
      (htask : s.tasks.lookup ticket = some task)
      (hfresh : ∀ link, arrival? = some (.connected link) → s.node.pool.uses link = 0)
      (hturn : task.step now ticket arrival? s.node = some turn) :
      Step s {
        node := turn.node
        tasks := turn.tasks ticket s.tasks
        asked := s.asked || task.asks s.node }
  /-- A task is given up, by `Task.withdraw`. -/
  | cancel {ticket : Ticket} {task : Task} (htask : s.tasks.lookup ticket = some task) :
      Step s { s with node := task.withdraw ticket s.node, tasks := s.tasks.erase ticket }
  /-- A task finds a free permit, and has not looked for a connection yet. -/
  | seize {ticket : Ticket} {task : Task} (deadline : Time)
      (htask : s.tasks.lookup ticket = some task) (hacquires : task.purpose.acquires = true)
      (hstage : task.stage = .fresh) (hpermits : s.node.pool.permits ≠ 0) :
      Step s {
        node := { s.node with pool := s.node.pool.grant ticket }
        tasks := s.tasks.insert ticket { task with stage := .queued deadline }
        asked := true }
  /-- A warm-up has a new connection, and has not looked at the pool again yet. -/
  | stock {ticket : Ticket} {task : Task} {deadline : Time} (link : Nat)
      (htask : s.tasks.lookup ticket = some task) (hwarm : task.purpose.isWarmUp = true)
      (hstage : task.stage = .dialling deadline) (hfresh : s.node.pool.uses link = 0) :
      Step s { s with
        node := { s.node with pool := s.node.pool.stock { link := link } }
        tasks := s.tasks.insert ticket { task with stage := .fresh, opened := task.opened + 1 } }
  /-- A holder wants its connection closed when it comes back. -/
  | discard {holder : Ticket} (hfree : s.Free holder) :
      Step s (s.withPool (s.node.pool.discard holder))
  /-- A holder drops its connection, and has its permit still. -/
  | restock {holder : Ticket} {lease : Lease} (hfree : s.Free holder)
      (hlent : s.node.pool.claims.lookup holder = some (.lent lease)) :
      Step s (s.withPool (s.node.pool.restock holder lease))
  /-- A holder that has dropped its connection surrenders its permit. -/
  | surrender {holder : Ticket} (hfree : s.Free holder)
      (hgranted : s.node.pool.claims.lookup holder = some .granted) :
      Step s (s.withPool (s.node.pool.surrender holder))
  /-- The idle connections are closed. -/
  | clearIdle : Step s (s.withPool s.node.pool.clearIdle)
  /-- The pool is closed. -/
  | close : Step s (s.withPool s.node.pool.close)
  /-- The node changes in other respects than its pool. -/
  | other (node : Node) (hpool : node.pool = s.node.pool) : Step s { s with node := node }

/-- Turns one after the other. -/
abbrev Steps : Workload → Workload → Prop :=
  Relation.ReflTransGen Step

/-- Dropping a connection in one go, by `Pool.release`, is a run of two turns, `restock` and
    `surrender`. -/
theorem release_steps {s : Workload} {holder : Ticket} {lease : Lease} (hfree : s.Free holder)
    (hlent : s.node.pool.claims.lookup holder = some (.lent lease)) :
    s.Steps (s.withPool (s.node.pool.release holder)) := by
  have hgranted : (s.node.pool.restock holder lease).claims.lookup holder = some .granted :=
    (show s.node.pool.Evolves false holder _ ∧ _ from Pool.evolves_restock hlent).2
  rw [Pool.release_eq hlent]
  exact .head (.restock hfree hlent) (.single (.surrender ⟨hfree.own, hfree.use⟩ hgranted))

/-! ## The invariant -/

/-- **The invariant.** The books are `Pool.Sound`, every task `Fits` its claim, and a connection
    that a command runs on is in no other hands. -/
structure Inv (s : Workload) : Prop where
  sound : s.node.pool.Sound
  fits : ∀ ticket task, s.tasks.lookup ticket = some task → task.Fits ticket s.node.pool
  alone : ∀ ticket task holder command, s.tasks.lookup ticket = some task →
    task.purpose = .use holder command →
      s.tasks.lookup holder = none ∧
        ∀ u task' command', s.tasks.lookup u = some task' → task'.purpose = .use holder command' →
          u = ticket

end Workload

/-! ## What the doings of others do to a task -/

theorem Stage.Holds.frame {stage : Stage} {c? c?' : Option Claim} (h : stage.Holds c?)
    (hc : c?' = c? ∨ c? = some .waiting ∧ c?' = some .granted) : stage.Holds c?' := by
  rcases hc with rfl | ⟨rfl, rfl⟩
  · exact h
  · -- only a task in the queue holds a place in it
    cases stage with
    | queued deadline => exact .inr rfl
    | fresh | dialling _ | probing _ _ _ => cases h
    | talking x deadline =>
        obtain ⟨c, hc⟩ := h
        cases hc
    | finished result =>
        cases result with
        | borrowed r =>
            cases r with
            | ok u =>
                obtain ⟨lease, hlease⟩ := h
                cases hlease
            | error e => cases h
        | ran _ _ | executed _ _ | probed _ | warmed _ => cases h

theorem Stage.Borrows.frame {stage : Stage} {c? c?' : Option Claim} (h : stage.Borrows c?)
    (hc : c?' = c? ∨ c? = some .waiting ∧ c?' = some .granted) : stage.Borrows c?' := by
  rcases hc with rfl | ⟨rfl, rfl⟩
  · exact h
  · cases stage with
    | finished result => exact trivial
    | fresh | talking _ _ =>
        obtain ⟨c, hc⟩ := h
        cases hc
    | queued _ | dialling _ | probing _ _ _ => cases h

/-- A task goes on to fit while another ticket `k` has its doings. -/
theorem Task.Fits.frame {ahead : Bool} {k ticket : Ticket} {p p' : Pool} {t : Task}
    (h : t.Fits ticket p) (hevolves : p.Evolves ahead k p') (hk : ticket ≠ k)
    (huse : ∀ command, t.purpose ≠ .use k command) : t.Fits ticket p' := by
  have hnone : p.claims.lookup ticket = none → p'.claims.lookup ticket = none := by
    intro hnone
    rcases hevolves.others ticket hk with hsame | ⟨hwaiting, -⟩
    · exact hsame.trans hnone
    · rw [hnone] at hwaiting
      contradiction
  rcases h.cases with ⟨hacquires, hholds⟩ | ⟨other, command, hpurpose, hticket, hborrows⟩ |
    ⟨hclaimless, hticket, hstage⟩
  · exact (Task.fits_of_acquires hacquires).mpr (hholds.frame (hevolves.others ticket hk))
  · have hother : other ≠ k := by
      rintro rfl
      exact huse command hpurpose
    unfold Fits
    rw [hpurpose]
    exact ⟨hnone hticket, hborrows.frame (hevolves.others other hother)⟩
  · exact (Task.fits_of_isClaimless hclaimless).mpr ⟨hnone hticket, hstage⟩

namespace Workload

/-! ## Turns keep the invariant -/

/-- **The doings of one ticket keep the invariant**, if the ticket's connection is in no other hands
    and the task that takes the turn is none of the others'. -/
theorem Inv.evolve {s s' : Workload} {ahead : Bool} {k : Ticket} (h : s.Inv) (ticket : Ticket)
    (hevolves : s.node.pool.Evolves ahead k s'.node.pool)
    (hothers : ∀ u, u ≠ ticket → s'.tasks.lookup u = s.tasks.lookup u)
    (hk : ∀ u task, u ≠ ticket → s.tasks.lookup u = some task →
      u ≠ k ∧ ∀ command, task.purpose ≠ .use k command)
    (hticket : ∀ task, s'.tasks.lookup ticket = some task →
      task.Fits ticket s'.node.pool ∧
        ∀ holder command, task.purpose = .use holder command →
          s'.tasks.lookup holder = none ∧
            ∀ u task' command', u ≠ ticket → s.tasks.lookup u = some task' →
              task'.purpose ≠ .use holder command')
    (hused : ∀ u task command, u ≠ ticket → s.tasks.lookup u = some task →
      task.purpose = .use ticket command → s'.tasks.lookup ticket = none) : s'.Inv := by
  refine ⟨hevolves.sound h.sound, ?_, ?_⟩
  · intro u task hu
    by_cases hut : u = ticket
    · subst hut
      exact (hticket task hu).1
    · rw [hothers u hut] at hu
      obtain ⟨huk, huse⟩ := hk u task hut hu
      exact (h.fits u task hu).frame hevolves huk huse
  · intro u task holder command hu hpurpose
    by_cases hut : u = ticket
    · subst hut
      obtain ⟨hnone, hunused⟩ := (hticket task hu).2 holder command hpurpose
      refine ⟨hnone, ?_⟩
      intro v task' command' hv hpurpose'
      by_cases hvu : v = u
      · exact hvu
      · rw [hothers v hvu] at hv
        exact absurd hpurpose' (hunused v task' command' hvu hv)
    · rw [hothers u hut] at hu
      obtain ⟨hnone, hunique⟩ := h.alone u task holder command hu hpurpose
      constructor
      · by_cases hholder : holder = ticket
        · subst hholder
          exact hused u task command hut hu hpurpose
        · rw [hothers holder hholder]
          exact hnone
      -- the task that takes the turn is on no connection that another command runs on
      · intro v task' command' hv hpurpose'
        by_cases hvt : v = ticket
        · subst hvt
          have hunused := ((hticket task' hv).2 holder command' hpurpose').2
          exact absurd hpurpose (hunused u task command hut hu)
        · rw [hothers v hvt] at hv
          exact hunique v task' command' hv hpurpose'

/-- The turn of a task, whose doings are those of its `Task.holder`, keeps the invariant. -/
theorem Inv.turn {s s' : Workload} {ticket : Ticket} {task : Task} (h : s.Inv) (ahead : Bool)
    (htask : s.tasks.lookup ticket = some task)
    (hevolves : s.node.pool.Evolves ahead (task.holder ticket) s'.node.pool)
    (hothers : ∀ u, u ≠ ticket → s'.tasks.lookup u = s.tasks.lookup u)
    (hticket : ∀ task', s'.tasks.lookup ticket = some task' →
      task'.Fits ticket s'.node.pool ∧ task'.purpose = task.purpose) : s'.Inv := by
  refine h.evolve ticket hevolves hothers ?_ ?_ ?_
  · intro u other hu hother
    by_cases huse : ∃ holder command, task.purpose = .use holder command
    -- a command does what it does for the holder of the connection, and nobody else runs one on it
    · obtain ⟨holder, command, huse⟩ := huse
      obtain ⟨hnone, hunique⟩ := h.alone ticket task holder command htask huse
      rw [Task.holder_of_use huse]
      refine ⟨?_, fun command' hpurpose => hu (hunique u other command' hother hpurpose)⟩
      rintro rfl
      rw [hnone] at hother
      contradiction
    -- any other task does it for its own ticket, and a ticket with a task has no command on it
    · rw [Task.holder_of_ne_use fun holder command hpurpose => huse ⟨holder, command, hpurpose⟩]
      refine ⟨hu, ?_⟩
      intro command' hpurpose
      rw [(h.alone u other ticket command' hother hpurpose).1] at htask
      contradiction
  · intro task' htask'
    obtain ⟨hfits, hsame⟩ := hticket task' htask'
    refine ⟨hfits, ?_⟩
    intro holder command hpurpose
    obtain ⟨hnone, hunique⟩ := h.alone ticket task holder command htask (hsame ▸ hpurpose)
    have hne : holder ≠ ticket := by
      rintro rfl
      rw [hnone] at htask
      contradiction
    refine ⟨(hothers holder hne).trans hnone, ?_⟩
    intro u other command' hu hother hpurpose'
    exact hu (hunique u other command' hother hpurpose')
  · intro u other command hu hother hpurpose
    rw [(h.alone u other ticket command hother hpurpose).1] at htask
    contradiction

/-- What is done to a ticket that is `Free` keeps it. -/
theorem Inv.outside {s s' : Workload} {k : Ticket} (h : s.Inv) (ahead : Bool) (hfree : s.Free k)
    (hevolves : s.node.pool.Evolves ahead k s'.node.pool) (htasks : s'.tasks = s.tasks) :
    s'.Inv := by
  have hnone : s'.tasks.lookup k = none := by
    rw [htasks]
    exact hfree.own
  refine h.evolve k hevolves (fun u _ => by rw [htasks]) (fun u task hu htask => ?_)
    (fun task htask => ?_) fun u task command hu htask hpurpose => ?_
  · exact ⟨hu, fun command => hfree.use u task command htask⟩
  · rw [hnone] at htask
    contradiction
  · exact absurd hpurpose (hfree.use u task command htask)

/-- So does what is done to the pool and leaves all claims alone. -/
theorem Inv.of_claims_eq {s s' : Workload} (h : s.Inv) (hsound : s'.node.pool.Sound)
    (hclaims : s'.node.pool.claims = s.node.pool.claims) (htasks : s'.tasks = s.tasks) :
    s'.Inv := by
  refine ⟨hsound, ?_, ?_⟩
  · intro ticket task htask
    have hfits := h.fits ticket task (htasks ▸ htask)
    unfold Task.Fits at hfits ⊢
    rw [hclaims]
    exact hfits
  · rw [htasks]
    exact h.alone

/-- A task that is set up fits. -/
theorem Inv.spawn {s : Workload} {ticket : Ticket} {purpose : Purpose} (h : s.Inv)
    (hfree : s.Free ticket) (hclaim : s.node.pool.claims.lookup ticket = none)
    (huse : ∀ holder command, purpose = .use holder command →
      s.Free holder ∧ ∃ lease, s.node.pool.claims.lookup holder = some (.lent lease)) :
    Inv { s with tasks := s.tasks.insert ticket { purpose := purpose } } := by
  refine h.evolve ticket (Pool.Evolves.refl false ticket _) ?_ ?_ ?_ ?_
  · intro u hu
    exact (Table.lookup_insert ..).trans (if_neg hu)
  · intro u task hu htask
    exact ⟨hu, fun command => hfree.use u task command htask⟩
  · intro task htask
    obtain rfl : { purpose := purpose } = task := by
      simpa [Table.lookup_insert] using htask
    constructor
    · cases purpose with
      | borrow | execute _ => exact hclaim
      | use holder command => exact ⟨hclaim, (huse holder command rfl).2⟩
      | probe | revive | warmUp _ => exact ⟨hclaim, trivial⟩
    · intro holder command hpurpose
      obtain ⟨hholder, lease, hlent⟩ := huse holder command hpurpose
      have hne : holder ≠ ticket := by
        rintro rfl
        rw [hclaim] at hlent
        contradiction
      refine ⟨?_, fun u task command' _ htask => hholder.use u task command' htask⟩
      rw [Table.lookup_insert, if_neg hne]
      exact hholder.own
  · intro u task command hu htask hpurpose
    exact absurd hpurpose (hfree.use u task command htask)

/-- Giving up a task is the doing of its `Task.holder`. -/
theorem evolves_taskWithdraw {ahead : Bool} {n : Node} (hsound : n.pool.Sound) (ticket : Ticket)
    (task : Task) : n.pool.Evolves ahead (task.holder ticket) (task.withdraw ticket n).pool := by
  unfold Task.withdraw Task.holder
  cases task.purpose with
  | borrow | execute _ => exact (Pool.evolves_withdraw hsound).1
  | use _ _ | probe | revive | warmUp _ => exact .refl ..

/-- A permit that is seized is the doing of the task's ticket. -/
theorem evolves_seize {ahead : Bool} {s : Workload} {ticket : Ticket} {task : Task} (h : s.Inv)
    (htask : s.tasks.lookup ticket = some task) (hacquires : task.purpose.acquires = true)
    (hstage : task.stage = .fresh) (hpermits : s.node.pool.permits ≠ 0) :
    s.node.pool.Evolves ahead (task.holder ticket) (s.node.pool.grant ticket) := by
  have hholds := (Task.fits_of_acquires hacquires).mp (h.fits ticket task htask)
  rw [hstage] at hholds
  rw [Task.holder_of_acquires hacquires]
  exact Pool.evolves_grant (Nat.pos_of_ne_zero hpermits) (.inl ⟨hholds, rfl⟩)

/-- A connection that is given up by `Pool.discard` is the doing of its holder. -/
theorem evolves_discard {ahead : Bool} (p : Pool) (holder : Ticket) :
    p.Evolves ahead holder (p.discard holder) := by
  unfold Pool.discard
  cases hlease : p.lease? holder with
  | none => exact .refl ..
  | some lease =>
      exact (Pool.evolves_putLease { lease with sound := false }
        (Pool.lease?_eq_some_iff.mp hlease) rfl nofun).1

/-- **One turn keeps the invariant.** -/
theorem inv_step {s s' : Workload} (h : s.Inv) (hstep : s.Step s') : s'.Inv := by
  cases hstep with
  | spawn ticket purpose hfree hclaim huse => exact h.spawn hfree hclaim huse
  | @step ticket task now arrival? turn htask hfresh hturn =>
      have hkeeps := Task.keeps_step h.sound (h.fits ticket task htask) hfresh hturn
      refine h.turn _ htask hkeeps.evolves ?_ ?_
      · intro u hu
        exact Turn.lookup_tasks_of_ne hu
      · intro task' htask'
        obtain rfl := Turn.eq_of_lookup_tasks htask'
        exact ⟨hkeeps.fits, hkeeps.purpose⟩
  | @cancel ticket task htask =>
      refine h.turn false htask (evolves_taskWithdraw h.sound ticket task) ?_ ?_
      · intro u hu
        exact (Table.lookup_erase ..).trans (if_neg hu)
      · intro task' htask'
        rw [Table.lookup_erase, if_pos rfl] at htask'
        contradiction
  | @seize ticket task deadline htask hacquires hstage hpermits =>
      refine h.turn false htask (evolves_seize h htask hacquires hstage hpermits) ?_ ?_
      · intro u hu
        exact (Table.lookup_insert ..).trans (if_neg hu)
      · intro task' htask'
        rw [Table.lookup_insert, if_pos rfl] at htask'
        obtain rfl := Option.some.inj htask'
        refine ⟨?_, rfl⟩
        refine (Task.fits_of_acquires (t := { task with stage := .queued deadline })
          hacquires).mpr ?_
        exact .inr Pool.lookup_grant
  | @stock ticket task deadline link htask hwarm hstage hfresh =>
      refine h.turn true htask (Pool.evolves_stock hfresh) ?_ ?_
      · intro u hu
        exact (Table.lookup_insert ..).trans (if_neg hu)
      · intro task' htask'
        rw [Table.lookup_insert, if_pos rfl] at htask'
        obtain rfl := Option.some.inj htask'
        -- a warm-up holds nothing under its ticket, before and after
        have hclaimless := Purpose.isClaimless_of_isWarmUp hwarm
        obtain ⟨hnone, -⟩ := (Task.fits_of_isClaimless hclaimless).mp (h.fits ticket task htask)
        refine ⟨?_, rfl⟩
        refine (Task.fits_of_isClaimless (t := { task with stage := .fresh, opened := _ })
          hclaimless).mpr ?_
        refine ⟨?_, trivial⟩
        show (s.node.pool.stock _).claims.lookup ticket = none
        rw [Pool.claims_stock]
        exact hnone
  | @discard holder hfree => exact h.outside false hfree (evolves_discard _ holder) rfl
  | restock hfree hlent =>
      exact h.outside false hfree (Pool.evolves_restock hlent).1 rfl
  | surrender hfree hgranted =>
      refine h.outside false hfree (Pool.evolves_surrender h.sound ?_).1 rfl
      rw [hgranted]
      rfl
  | clearIdle =>
      exact h.of_claims_eq ((Pool.evolves_clearIdle false 0 _).sound h.sound) rfl rfl
  | close =>
      exact h.of_claims_eq ((Pool.evolves_close false 0 _).sound h.sound) rfl rfl
  | other node hpool =>
      refine h.of_claims_eq ?_ ?_ rfl
      · exact hpool ▸ h.sound
      · exact congrArg Pool.claims hpool

/-- A whole run keeps it. -/
theorem inv_steps {s s' : Workload} (h : s.Inv) (hsteps : s.Steps s') : s'.Inv := by
  induction hsteps with
  | refl => exact h
  | tail _ hstep ih => exact inv_step ih hstep

/-- Whether to open another connection, in `Task.stockUp`, is only a look at the pool. -/
theorem pool_of_stockUp {n : Node} {task : Task} {now : Time} :
    (task.stockUp now n).node.pool = n.pool := by
  unfold Task.stockUp
  split
  · rfl
  · rfl

/-- A warm-up that begins leaves the pool alone. -/
theorem pool_of_fresh_warmUp {n : Node} {ticket : Ticket} {task : Task} {now : Time}
    {arrival? : Option Arrival} {turn : Turn} (hwarm : task.purpose.isWarmUp = true)
    (hstage : task.stage = .fresh) (hturn : task.step now ticket arrival? n = some turn) :
    turn.node.pool = n.pool := by
  obtain ⟨counted, hpurpose⟩ := Purpose.exists_warmUp hwarm
  obtain rfl := Task.turn_of_fresh hstage hturn
  unfold Task.start
  rw [hpurpose]
  exact pool_of_stockUp

/-- **Every turn is the doing of one ticket**, and opens connections `ahead` of need only if it is
    that of a warm-up under way. -/
theorem step_evolves {s s' : Workload} (h : s.Inv) (hstep : s.Step s') :
    ∃ ahead k, s.node.pool.Evolves ahead k s'.node.pool ∧
      (ahead = true → s'.asked = s.asked ∧ ∃ ticket task, s.tasks.lookup ticket = some task ∧
        task.purpose.isWarmUp = true ∧ (task.stage = .fresh → s'.node.pool = s.node.pool)) := by
  cases hstep with
  | spawn ticket purpose hfree hclaim huse => exact ⟨false, ticket, .refl .., nofun⟩
  | @step ticket task now arrival? turn htask hfresh hturn =>
      refine ⟨_, _, (Task.keeps_step h.sound (h.fits _ _ htask) hfresh hturn).evolves, ?_⟩
      intro hwarm
      refine ⟨?_, ticket, task, htask, hwarm, fun hstage => pool_of_fresh_warmUp hwarm hstage hturn⟩
      show (s.asked || task.asks s.node) = s.asked
      rw [Task.asks_of_isWarmUp hwarm, Bool.or_false]
  | @cancel ticket task htask =>
      exact ⟨false, _, evolves_taskWithdraw h.sound ticket task, nofun⟩
  | seize deadline htask hacquires hstage hpermits =>
      exact ⟨false, _, evolves_seize h htask hacquires hstage hpermits, nofun⟩
  | @stock ticket task deadline link htask hwarm hstage hfresh =>
      refine ⟨true, ticket, Pool.evolves_stock hfresh, ?_⟩
      intro _
      refine ⟨rfl, ticket, task, htask, hwarm, ?_⟩
      rw [hstage]
      exact nofun
  | @discard holder hfree => exact ⟨false, holder, evolves_discard _ holder, nofun⟩
  | @restock holder lease hfree hlent =>
      exact ⟨false, holder, (Pool.evolves_restock hlent).1, nofun⟩
  | @surrender holder hfree hgranted =>
      refine ⟨false, holder, (Pool.evolves_surrender h.sound ?_).1, nofun⟩
      rw [hgranted]
      rfl
  | clearIdle => exact ⟨false, 0, Pool.evolves_clearIdle .., nofun⟩
  | close => exact ⟨false, 0, Pool.evolves_close .., nofun⟩
  | other node hpool =>
      refine ⟨false, 0, ?_, nofun⟩
      show s.node.pool.Evolves false 0 node.pool
      rw [hpool]
      exact .refl ..

/-- The `settings` of a pool never change. -/
theorem settings_steps {s s' : Workload} (h : s.Inv) (hsteps : s.Steps s') :
    s'.node.pool.settings = s.node.pool.settings := by
  induction hsteps with
  | refl => rfl
  | tail hsteps hstep ih =>
      obtain ⟨_, _, hevolves, -⟩ := step_evolves (inv_steps h hsteps) hstep
      exact hevolves.settings.trans ih

end Workload

end Memcache
