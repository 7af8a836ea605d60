import Mathlib
import Memcache.Proofs.Fleet.Sites
import Memcache.Proofs.Node.Attempt

/-!
# `Memcache.Proofs.Fleet.Tickets` — tasks keep to their tickets

`Fleet.nextTicket` gives tickets out in order, so a task that is gone does not come back under the
same ticket. What every `Task.step` keeps is therefore true of a task for as long as it is there,
whatever else happens in the course of a `Script`, and a task in `Stage.finished` has ended for
good.

## Contents

* `Numbered`, `Fleet.numbered_tale` — tickets come in order;
* `Site.tasks_after`, `Site.Idles`, `Site.task_after_cases` — what a happening does to the tasks of a
  site;
* `Fleet.tasks_of_play`, `Fleet.run_of_play` — **a task stays where it is**;
* `Fleet.Alike`, `Fleet.result_of_alike` — **what a task reports depends on what happens at its
  server**.
-/

namespace Memcache

/-! ## Tickets in order -/

/-- The ticket under which a task is set up, by `Happening.setUp`. -/
def Happening.newTicket? : Happening → Option Ticket
  | .setUp ticket _ => some ticket
  | _ => none

/-- A ticket that is not given out is not given out at first, and not later either. -/
theorem Happening.not_new_cons {ticket : Ticket} {e : Happening} {later : List Happening}
    (h : ticket ∉ (e :: later).filterMap newTicket?) :
    e.newTicket? ≠ some ticket ∧ ticket ∉ later.filterMap newTicket? := by
  constructor
  · exact fun heq => h (List.mem_filterMap.mpr ⟨e, List.mem_cons_self, heq⟩)
  · intro hmem
    obtain ⟨e', he', hticket⟩ := List.mem_filterMap.mp hmem
    exact h (List.mem_filterMap.mpr ⟨e', List.mem_cons_of_mem _ he', hticket⟩)

/-- Tasks are set up under tickets in their order, none of them earlier than `next`. -/
structure Numbered (next : Ticket) (tale : List Happening) : Prop where
  new : ∀ ticket ∈ tale.filterMap Happening.newTicket?, next ≤ ticket
  ordered : (tale.filterMap Happening.newTicket?).Pairwise (· < ·)

theorem numbered_nil (next : Ticket) : Numbered next [] :=
  ⟨fun _ hmem => absurd hmem List.not_mem_nil, .nil⟩

/-- One tale behind another. -/
theorem Numbered.append {next next' : Ticket} {tale tale' : List Happening}
    (h : Numbered next tale) (hlt : ∀ ticket ∈ tale.filterMap Happening.newTicket?, ticket < next')
    (hle : next ≤ next') (h' : Numbered next' tale') : Numbered next (tale ++ tale') := by
  constructor
  · intro ticket hmem
    rw [List.filterMap_append, List.mem_append] at hmem
    rcases hmem with hfirst | hlater
    · exact h.new ticket hfirst
    · exact Nat.le_trans hle (h'.new ticket hlater)
  · rw [List.filterMap_append, List.pairwise_append]
    refine ⟨h.ordered, h'.ordered, fun ticket hmem ticket' hmem' => ?_⟩
    exact Nat.lt_of_lt_of_le (hlt ticket hmem) (h'.new ticket' hmem')

/-- What comes after the first happening. -/
theorem Numbered.tail {next : Ticket} {e : Happening} {later : List Happening}
    (h : Numbered next (e :: later)) : Numbered next later := by
  obtain ⟨hnew, hordered⟩ := h
  rw [List.filterMap_cons] at hnew hordered
  cases hticket : e.newTicket? with
  | none =>
      rw [hticket] at hnew hordered
      exact ⟨hnew, hordered⟩
  | some ticket =>
      rw [hticket] at hnew hordered
      exact ⟨fun t ht => hnew t (List.mem_cons_of_mem _ ht), (List.pairwise_cons.mp hordered).2⟩

/-- What comes after a task was set up. -/
theorem Numbered.setUp {next ticket : Ticket} {purpose : Purpose} {later : List Happening}
    (h : Numbered next (.setUp ticket purpose :: later)) :
    next ≤ ticket ∧ Numbered (ticket + 1) later := by
  obtain ⟨hfirst, hlater⟩ := List.pairwise_cons.mp h.ordered
  exact ⟨h.new ticket List.mem_cons_self, hfirst, hlater⟩

namespace Fleet

variable {f f' : Fleet} {now : Time} {deed : Deed} {server : Endpoint} {ticket : Ticket}
  {script : Script}

theorem numbered_setUps (server : Endpoint) (next : Ticket) (tasks : List (Endpoint × Purpose)) :
    Numbered next (setUps server next tasks) ∧
      ∀ t ∈ (setUps server next tasks).filterMap Happening.newTicket?, t < next + tasks.length := by
  induction tasks generalizing next with
  | nil => exact ⟨numbered_nil next, fun _ hmem => absurd hmem List.not_mem_nil⟩
  | cons task rest ih =>
      obtain ⟨hlater, hlt⟩ := ih (next + 1)
      have hfirst : (setUps server next [task]).filterMap Happening.newTicket? =
          if task.1 = server then [next] else [] := by
        unfold setUps setUps
        split <;> rfl
      have hone : ∀ t ∈ (setUps server next [task]).filterMap Happening.newTicket?, t = next := by
        intro t ht
        rw [hfirst] at ht
        split at ht
        · exact List.mem_singleton.mp ht
        · cases ht
      rw [setUps_cons]
      constructor
      · refine Numbered.append ⟨fun t ht => (hone t ht).ge, ?_⟩ (fun t ht => ?_) (Nat.le_succ _)
          hlater
        · rw [hfirst]
          split
          · exact List.pairwise_singleton ..
          · exact .nil
        · exact Nat.lt_succ_of_le (hone t ht).le
      · intro t ht
        simp only [Ticket] at *
        rw [List.filterMap_append, List.mem_append] at ht
        rw [List.length_cons]
        rcases ht with hnew | hrest
        · have := hone t hnew
          omega
        · have := hlt t hrest
          omega

/-- What a deed sets up is set up under the tickets that it gives out, from `Fleet.nextTicket`
    on. -/
theorem numbered_happenings (server : Endpoint) (hact : f.act now deed = some f') :
    f.nextTicket ≤ f'.nextTicket ∧ Numbered f.nextTicket (f.happenings now deed server) ∧
      ∀ t ∈ (f.happenings now deed server).filterMap Happening.newTicket?, t < f'.nextTicket := by
  have hsetUps : ∀ tasks, f'.nextTicket = f.nextTicket + tasks.length →
      f.nextTicket ≤ f'.nextTicket ∧ Numbered f.nextTicket (setUps server f.nextTicket tasks) ∧
        ∀ t ∈ (setUps server f.nextTicket tasks).filterMap Happening.newTicket?,
          t < f'.nextTicket := by
    intro tasks hnext
    rw [hnext]
    exact ⟨Nat.le_add_right .., numbered_setUps server f.nextTicket tasks⟩
  have hnone : ∀ tale : List Happening, tale.filterMap Happening.newTicket? = [] →
      f.nextTicket = f'.nextTicket → f.nextTicket ≤ f'.nextTicket ∧ Numbered f.nextTicket tale ∧
        ∀ t ∈ tale.filterMap Happening.newTicket?, t < f'.nextTicket := by
    intro tale htale hnext
    refine ⟨hnext.le, ⟨?_, ?_⟩, ?_⟩
    all_goals rw [htale]
    · exact fun _ hmem => absurd hmem List.not_mem_nil
    · exact .nil
    · exact fun _ hmem => absurd hmem List.not_mem_nil
  have hif : ∀ (p : Prop) [Decidable p] (e : Happening), e.newTicket? = none →
      (if p then [e] else []).filterMap Happening.newTicket? = [] := by
    intro p _ e he
    split
    · rw [List.filterMap_cons, he]
      rfl
    · rfl
  unfold happenings
  cases deed with
  | spawn other purpose =>
      obtain rfl := Option.some.inj hact
      exact hsetUps [(other, purpose)] rfl
  | step ticket arrival? =>
      obtain ⟨job, node, turn, -, -, -, rfl⟩ := act_step hact
      refine hnone _ (hif _ _ rfl) ?_
      obtain ⟨ring, events, hnotify⟩ := Fleet.notify_eq { f with
        nodes := f.nodes.insert job.server turn.node
        jobs := f.jobs.insert ticket { job with task := turn.task }
        ended := if turn.task.result?.isSome then f.ended ++ [ticket] else f.ended } turn.event?
      rw [turned, hnotify]
  | forget ticket =>
      obtain rfl := Option.some.inj hact
      exact hnone _ (hif _ _ rfl) rfl
  | cancel ticket =>
      obtain rfl := Option.some.inj hact
      refine hnone _ (hif _ _ rfl) ?_
      unfold cancel
      split <;> rfl
  | sweep =>
      cases swept_of_sweep hact with
      | idle hsweeper hwake hdue =>
          rw [hsweeper, hdue]
          exact hnone _ rfl rfl
      | probed hsweeper hwake =>
          rw [hsweeper]
          refine hsetUps ((f.due now).map fun server => (server, .revive)) ?_
          obtain ⟨jobs, hspawn⟩ := spawnAll_eq f ((f.due now).map fun server => (server, .revive))
          rw [hspawn]
      | rested hsweeper hended =>
          rw [hsweeper]
          refine hnone _ ?_ ?_
          · rw [List.filterMap_map]
            exact List.filterMap_eq_nil_iff.mpr fun _ _ => rfl
          · obtain ⟨jobs, ended, hforget, -⟩ := forgetAll_eq f _
            rw [hforget]
            rfl
  | tend other tending | markDead other | markAlive other =>
      obtain rfl := Option.some.inj hact
      exact hnone _ (hif _ _ rfl) (f.update_books other _).2.symm
  | launch =>
      obtain rfl := Option.some.inj hact
      have hnext : f.launch.1.nextTicket =
          f.nextTicket + (f.nodes.keys.map fun server => (server, Purpose.warmUp true)).length := by
        obtain ⟨jobs, hlaunch⟩ := launch_eq f
        rw [hlaunch, List.length_map]
      obtain ⟨hle, hnumbered, hlt⟩ := hsetUps _ hnext
      exact ⟨hle, ⟨hnumbered.new, hnumbered.ordered⟩, hlt⟩
  | settled =>
      obtain rfl := Option.some.inj hact
      refine hnone _ rfl ?_
      unfold settled
      split <;> rfl
  | dispose =>
      obtain rfl := Option.some.inj hact
      refine hnone _ ?_ ?_
      · dsimp only
        split <;> rfl
      · unfold dispose
        split <;> rfl
  | drain =>
      obtain rfl := Option.some.inj hact
      exact hnone _ rfl rfl

/-- **In the course of a script tickets come in order** (`Numbered`). -/
theorem numbered_tale (server : Endpoint) (hplay : f.play script = some f') :
    f.nextTicket ≤ f'.nextTicket ∧ Numbered f.nextTicket (f.tale server script) ∧
      ∀ t ∈ (f.tale server script).filterMap Happening.newTicket?, t < f'.nextTicket := by
  induction script generalizing f with
  | nil =>
      obtain rfl := Option.some.inj hplay
      exact ⟨Nat.le_refl _, numbered_nil _, fun _ hmem => absurd hmem List.not_mem_nil⟩
  | cons first later ih =>
      obtain ⟨f₁, hact, hlater⟩ := play_cons hplay
      obtain ⟨hle, hfirst, hlt⟩ := numbered_happenings server hact
      obtain ⟨hle', hrest, hlt'⟩ := ih hlater
      rw [tale_cons hact]
      refine ⟨Nat.le_trans hle hle', hfirst.append hlt hle hrest, fun t ht => ?_⟩
      rw [List.filterMap_append, List.mem_append] at ht
      rcases ht with hnew | hnew
      · exact Nat.lt_of_lt_of_le (hlt t hnew) hle'
      · exact hlt' t hnew

end Fleet

/-! ## One happening -/

/-- The ticket whose task is changed. -/
def Happening.subject? : Happening → Option Ticket
  | .setUp ticket _ | .turn _ ticket _ | .forgotten ticket | .givenUp ticket => some ticket
  | _ => none

namespace Site

variable {site : Site} {ticket : Ticket} {e : Happening} {tale : List Happening} {node : Node}

/-- A task that nothing happens to is what it was in `Site.tasks`. -/
theorem tasks_after (h : e.subject? ≠ some ticket) :
    (site.after e).tasks ticket = site.tasks ticket := by
  have hput : ∀ (other : Ticket) (task? : Option Task) (changed : Site),
      changed.tasks = site.tasks → some other ≠ some ticket →
        (changed.put other task?).tasks ticket = site.tasks ticket := by
    intro other task? changed hchanged hne
    show (if ticket = other then task? else changed.tasks ticket) = _
    rw [if_neg fun heq => hne (congrArg some heq.symm), hchanged]
  cases e with
  | setUp other purpose => exact hput other _ site rfl h
  | forgotten other => exact hput other _ site rfl h
  | turn now other arrival? =>
      unfold after
      dsimp only
      split
      · exact hput other _ (site.change _) rfl h
      · rfl
  | givenUp other =>
      unfold after
      dsimp only
      split
      · exact hput other _ (site.change _) rfl h
      · rfl
  | tended | markedDead | markedAlive | launched | closed => rfl

/-- No node comes or goes: `Site.node?` is there or not. -/
theorem node?_after (e : Happening) : (site.after e).node?.isSome = site.node?.isSome := by
  have hchange : ∀ change, (site.change change).node?.isSome = site.node?.isSome :=
    fun _ => Option.isSome_map
  unfold after
  split
  · rfl
  · split
    · exact hchange _
    · rfl
  · rfl
  · split
    · exact hchange _
    · rfl
  all_goals exact hchange _

/-- A turn that is had. -/
theorem exists_of_turn? {now : Time} {arrival? : Option Arrival} {turn : Turn}
    (h : site.turn? now ticket arrival? = some turn) :
    ∃ task node, site.tasks ticket = some task ∧ site.node? = some node ∧
      task.step now ticket arrival? node = some turn := by
  unfold turn? at h
  split at h
  · next task node htask hnode => exact ⟨task, node, htask, hnode, h⟩
  · contradiction

theorem after_turn {now : Time} {arrival? : Option Arrival} {turn : Turn}
    (h : site.turn? now ticket arrival? = some turn) :
    site.after (.turn now ticket arrival?) =
      (site.change fun _ => turn.node).put ticket (some turn.task) := by
  unfold after
  dsimp only
  rw [h]

theorem after_turn_of_none {now : Time} {arrival? : Option Arrival}
    (h : site.turn? now ticket arrival? = none) :
    site.after (.turn now ticket arrival?) = site := by
  unfold after
  dsimp only
  rw [h]

theorem after_givenUp {task : Task} (h : site.tasks ticket = some task) :
    site.after (.givenUp ticket) =
      (site.change fun node => task.withdraw ticket node).put ticket none := by
  unfold after
  dsimp only
  rw [h]

theorem after_givenUp_of_none (h : site.tasks ticket = none) :
    site.after (.givenUp ticket) = site := by
  unfold after
  dsimp only
  rw [h]

theorem tasks_put (site : Site) (ticket : Ticket) (task? : Option Task) :
    (site.put ticket task?).tasks ticket = task? :=
  if_pos rfl

/-- The node that a change of a known node leads to. -/
theorem eq_of_change {change : Node → Node} {node' : Node} (hnode : site.node? = some node)
    (h : (site.change change).node? = some node') : change node = node' := by
  have hmap : site.node?.map change = some node' := h
  rw [hnode] at hmap
  exact Option.some.inj hmap

/-- A node that is there was there before. -/
theorem exists_of_node?_after {node' : Node} (h : (site.after e).node? = some node') :
    ∃ node, site.node? = some node := by
  have hsome : (site.after e).node?.isSome = site.node?.isSome := node?_after e
  rw [h] at hsome
  exact Option.isSome_iff_exists.mp hsome.symm

/-- Nothing happens to the task under a ticket: what happens is about another, or it is a turn that
    the task cannot have yet (`Site.turn?`). -/
def Idles (site : Site) (ticket : Ticket) (e : Happening) : Prop :=
  e.subject? = some ticket →
    ∃ now arrival?, e = .turn now ticket arrival? ∧ site.turn? now ticket arrival? = none

theorem Idles.node_eq (h : site.Idles ticket e) (hsubject : e.subject? = some ticket) :
    (site.after e).node? = site.node? := by
  obtain ⟨now, arrival?, rfl, hturn⟩ := h hsubject
  rw [after_turn_of_none hturn]

/-- Where a ticket has no task, nothing is done to the node in its name (`Happening.subject?`). -/
theorem node_eq_of_none (hnone : site.tasks ticket = none) (hsubject : e.subject? = some ticket) :
    (site.after e).node? = site.node? := by
  cases e with
  | setUp | forgotten => rfl
  | turn now other arrival? =>
      obtain rfl := Option.some.inj hsubject
      have hturn : site.turn? now other arrival? = none := by
        unfold turn?
        rw [hnone]
      rw [after_turn_of_none hturn]
  | givenUp other =>
      obtain rfl := Option.some.inj hsubject
      rw [after_givenUp_of_none hnone]
  | tended | markedDead | markedAlive | launched | closed => contradiction

/-- **What a task is after something has happened**: what it was, if it is one of `Site.Idles`, or
    what a turn of it has made of it. -/
theorem task_after_cases {task' : Task} (hnew : e.newTicket? ≠ some ticket)
    (h : (site.after e).tasks ticket = some task') :
    site.tasks ticket = some task' ∧ site.Idles ticket e ∨
      ∃ now arrival? turn, e = .turn now ticket arrival? ∧
        site.turn? now ticket arrival? = some turn ∧ turn.task = task' := by
  by_cases hsubject : e.subject? = some ticket
  · cases e with
    | setUp other purpose => exact absurd hsubject hnew
    | forgotten other =>
        obtain rfl := Option.some.inj hsubject
        have hnone := (tasks_put site other none).symm.trans h
        contradiction
    | turn now other arrival? =>
        obtain rfl := Option.some.inj hsubject
        cases hturn : site.turn? now other arrival? with
        | none =>
            rw [after_turn_of_none hturn] at h
            exact .inl ⟨h, fun _ => ⟨now, arrival?, rfl, hturn⟩⟩
        | some turn =>
            rw [after_turn hturn] at h
            exact .inr ⟨now, arrival?, turn, rfl, hturn,
              Option.some.inj ((tasks_put _ other _).symm.trans h)⟩
    | givenUp other =>
        obtain rfl := Option.some.inj hsubject
        cases hbefore : site.tasks other with
        | none =>
            rw [after_givenUp_of_none hbefore, hbefore] at h
            contradiction
        | some before =>
            rw [after_givenUp hbefore] at h
            have hnone := (tasks_put _ other none).symm.trans h
            contradiction
    | tended | markedDead | markedAlive | launched | closed => contradiction
  · rw [tasks_after hsubject] at h
    exact .inl ⟨h, fun heq => absurd heq hsubject⟩

/-- **What every `Task.step` keeps is true of a task as long as it is there,** and a task that is
    gone does not come back under the same ticket. -/
theorem tasks_foldl {P : Task → Prop}
    (hstep : ∀ {now : Time} {arrival? : Option Arrival} {node : Node} {task : Task} {turn : Turn},
      P task → task.step now ticket arrival? node = some turn → P turn.task)
    (hnew : ticket ∉ tale.filterMap Happening.newTicket?)
    (h : ∀ task, site.tasks ticket = some task → P task) :
    ∀ task, (tale.foldl after site).tasks ticket = some task → P task := by
  induction tale generalizing site with
  | nil => exact h
  | cons e later ih =>
      obtain ⟨hfirst, hlater⟩ := Happening.not_new_cons hnew
      refine ih hlater fun task htask => ?_
      rcases task_after_cases hfirst htask with ⟨hkept, -⟩ | ⟨now, arrival?, turn, -, hturn, rfl⟩
      · exact h task hkept
      · obtain ⟨before, node, hbefore, -, hturned⟩ := exists_of_turn? hturn
        exact hstep (h before hbefore) hturned

theorem node?_foldl (tale : List Happening) (site : Site) :
    (tale.foldl after site).node?.isSome = site.node?.isSome := by
  induction tale generalizing site with
  | nil => rfl
  | cons e later ih => exact (ih _).trans (node?_after e)

end Site

/-! ## In the course of a script -/

namespace Fleet

variable {f f' : Fleet} {server : Endpoint} {ticket : Ticket} {script : Script}

/-- **A task stays on its server,** and what its steps keep is true of it. -/
theorem tasks_of_play {P : Task → Prop}
    (hstep : ∀ {now : Time} {arrival? : Option Arrival} {node : Node} {task : Task} {turn : Turn},
      P task → task.step now ticket arrival? node = some turn → P turn.task)
    (h : f.Booked) (hplay : f.play script = some f') (hticket : ticket < f.nextTicket)
    (hP : ∀ job, f.jobs.lookup ticket = some job → P job.task) {job' : Job}
    (hjob' : f'.jobs.lookup ticket = some job') :
    f.home? ticket = some job'.server ∧ P job'.task := by
  obtain ⟨-, hnumbered, -⟩ := numbered_tale job'.server hplay
  have hnew : ticket ∉ (f.tale job'.server script).filterMap Happening.newTicket? := fun hmem =>
    Nat.not_le.mpr hticket (hnumbered.new ticket hmem)
  have htask := site_tasks_of_lookup hjob'
  rw [site_play h hplay] at htask
  constructor
  · by_contra hother
    refine Site.tasks_foldl (P := fun _ => False) (fun hfalse _ => hfalse) hnew ?_ _ htask
    intro task hthere
    rw [site_tasks_of_home_ne hother] at hthere
    contradiction
  · refine Site.tasks_foldl hstep hnew ?_ _ htask
    intro task hthere
    obtain ⟨job, hjob, -, rfl⟩ := site_tasks_eq_some_iff.mp hthere
    exact hP job hjob

/-- The task of a command is one of the command's `Task.Run`, on the server where it was set up. -/
theorem run_of_play (h : f.Booked) {command : Command}
    (hjob : f.jobs.lookup ticket = some (newJob (server, .execute command)))
    (hplay : f.play script = some f') {job' : Job} (hjob' : f'.jobs.lookup ticket = some job') :
    job'.server = server ∧ Task.Run ticket command job'.task := by
  have hticket : ticket < f.nextTicket := by
    by_contra hlater
    rw [h.numbered ticket (Nat.le_of_not_lt hlater)] at hjob
    contradiction
  have hbegun : ∀ job, f.jobs.lookup ticket = some job → Task.Run ticket command job.task := by
    intro job hthere
    obtain rfl := Option.some.inj (hjob.symm.trans hthere)
    exact .begun
  obtain ⟨hhome, hrun⟩ := tasks_of_play (fun hrun hturn => Task.Run.stepped _ _ _ hrun hturn) h
    hplay hticket hbegun hjob'
  obtain ⟨job, hthere, hserver⟩ := home?_eq_some_iff.mp hhome
  obtain rfl := Option.some.inj (hjob.symm.trans hthere)
  exact ⟨hserver.symm, hrun⟩

/-- In the course of two scripts the same happens at a server (`Fleet.tale`), for as long as both
    last. -/
def Alike (f : Fleet) (server : Endpoint) (script script' : Script) : Prop :=
  f.tale server script <+: f.tale server script' ∨ f.tale server script' <+: f.tale server script

instance (f : Fleet) (server : Endpoint) (script script' : Script) :
    Decidable (f.Alike server script script') :=
  inferInstanceAs (Decidable (_ ∨ _))

/-- **What a task reports depends on what happens at its server, and on nothing else**
    (`Fleet.Alike`). -/
theorem result_of_alike {script' : Script} {f₁ f₂ : Fleet} {result result' : TaskResult}
    (h : f.Booked) (hhome : f.home? ticket = some server) (hplay : f.play script = some f₁)
    (hplay' : f.play script' = some f₂) (halike : f.Alike server script script')
    (hresult : f₁.result? ticket = some result) (hresult' : f₂.result? ticket = some result') :
    result = result' := by
  have hticket : ticket < f.nextTicket := by
    obtain ⟨job, hjob, -⟩ := home?_eq_some_iff.mp hhome
    by_contra hlater
    rw [h.numbered ticket (Nat.le_of_not_lt hlater)] at hjob
    contradiction
  -- the task is where it was set up, in the end as well
  have hthere : ∀ {script : Script} {f' : Fleet} {result : TaskResult}, f.play script = some f' →
      f'.result? ticket = some result →
        ∃ task, (f'.site server).tasks ticket = some task ∧ task.result? = some result := by
    intro script f' result hplay hresult
    rw [result?_eq] at hresult
    obtain ⟨job, hjob, hended⟩ := Option.bind_eq_some_iff.mp hresult
    obtain ⟨hsame, -⟩ := tasks_of_play (P := fun _ => True) (fun _ _ => trivial) h hplay hticket
      (fun _ _ => trivial) hjob
    obtain rfl := Option.some.inj (hhome.symm.trans hsame)
    exact ⟨job.task, site_tasks_of_lookup hjob, hended⟩
  -- a task that has ended has ended for good
  have hstays : ∀ {script script' : Script} {f₁ f₂ : Fleet} {result result' : TaskResult},
      f.play script = some f₁ → f.play script' = some f₂ →
        f.tale server script <+: f.tale server script' → f₁.result? ticket = some result →
          f₂.result? ticket = some result' → result = result' := by
    rintro script script' f₁ f₂ result result' hplay hplay' ⟨more, hmore⟩ hresult hresult'
    obtain ⟨task, htask, hended⟩ := hthere hplay hresult
    obtain ⟨task', htask', hended'⟩ := hthere hplay' hresult'
    rw [isolated h hplay hplay' hmore.symm] at htask'
    obtain ⟨-, hnumbered, -⟩ := numbered_tale server hplay'
    have hnew : ticket ∉ more.filterMap Happening.newTicket? := by
      intro hmem
      refine Nat.not_le.mpr hticket (hnumbered.new ticket ?_)
      rw [← hmore, List.filterMap_append]
      exact List.mem_append_right _ hmem
    have hkept : task'.result? = some result := by
      refine Site.tasks_foldl (P := fun t => t.result? = some result) ?_ hnew ?_ task' htask'
      · intro now arrival? node t turn ht hturn
        rw [Task.unended_of_step hturn] at ht
        contradiction
      · intro t ht
        rw [← hended, Option.some.inj (htask.symm.trans ht)]
    exact Option.some.inj (hkept.symm.trans hended')
  rcases halike with hprefix | hprefix
  · exact hstays hplay hplay' hprefix hresult hresult'
  · exact (hstays hplay' hplay hprefix hresult' hresult).symm

end Fleet

end Memcache
