import Mathlib
import Memcache.Proofs.Fleet.Books

/-!
# `Memcache.Proofs.Fleet.Sites` — one server of a fleet, and what happens there

The servers of a fleet have nothing in common but the fleet itself: each node has its own
`Node.pool` and its own `Node.policy`, and a task knows no node but that of its `Job.server`. So a
fleet can be looked at server by server. A `Site` is what the fleet has of one server: its node and
the tasks on it. A `Script` is a list of deeds, each at its time; and of a script there happens at
each site what is about it, and nothing else. The sites then go their own ways: what becomes of one
is told by its beginning and by what happens there, whatever happens elsewhere in the meantime.

## Contents

* `Site`, `Fleet.site`; `Happening`, `Site.after`, `Fleet.happenings` — what a deed does at a site;
* `Fleet.site_act` — **a deed does to a site what happens there**;
* `Script`, `Fleet.play`, `Fleet.tale` — deeds one after the other, and what happens at a site;
* `Fleet.isolated` — **what becomes of a server depends on what happens there, and on nothing else**.
-/

namespace Memcache

/-! ## Sites -/

/-- What a fleet has of one server: its node, if it has one, and its `tasks`. -/
@[ext]
structure Site where
  node? : Option Node
  tasks : Ticket → Option Task

/-- What can happen at a site: the part of a `Deed` that is about its server. -/
inductive Happening where
  /-- A task is set up. -/
  | setUp (ticket : Ticket) (purpose : Purpose)
  | turn (now : Time) (ticket : Ticket) (arrival? : Option Arrival)
  /-- The record of a task is dropped, as by `Fleet.forget`. -/
  | forgotten (ticket : Ticket)
  | givenUp (ticket : Ticket)
  | tended (tending : Tending)
  | markedDead (now : Time)
  | markedAlive
  | launched
  | closed
  deriving DecidableEq, Repr

namespace Site

/-- The turn of a task, by `Task.step` on the node of the site. -/
def turn? (site : Site) (now : Time) (ticket : Ticket) (arrival? : Option Arrival) : Option Turn :=
  match site.tasks ticket, site.node? with
  | some task, some node => task.step now ticket arrival? node
  | _, _ => none

/-- The site with another task under a ticket, or none. -/
def put (site : Site) (ticket : Ticket) (task? : Option Task) : Site :=
  { site with tasks := fun t => if t = ticket then task? else site.tasks t }

/-- The site with its node changed. -/
def change (site : Site) (f : Node → Node) : Site :=
  { site with node? := site.node?.map f }

/-- **The site after something has happened there.** -/
def after (site : Site) : Happening → Site
  | .setUp ticket purpose => site.put ticket (some { purpose := purpose })
  | .turn now ticket arrival? =>
    match site.turn? now ticket arrival? with
    | some turn => (site.change fun _ => turn.node).put ticket (some turn.task)
    | none => site
  | .forgotten ticket => site.put ticket none
  | .givenUp ticket =>
    match site.tasks ticket with
    | some task => (site.change fun node => task.withdraw ticket node).put ticket none
    | none => site
  | .tended tending => site.change fun node => { node with pool := tending.apply node.pool }
  | .markedDead now => site.change fun node => (node.markDead now).1
  | .markedAlive => site.change fun node => node.markAlive.1
  | .launched => site.change fun node => { node with listening := true }
  | .closed => site.change fun node => { node with pool := node.pool.close }

/-- Dropping records one by one, as `Happening.forgotten`. -/
theorem foldl_forgotten (site : Site) (tickets : List Ticket) :
    (tickets.map .forgotten).foldl after site =
      { site with tasks := fun t => if t ∈ tickets then none else site.tasks t } := by
  induction tickets generalizing site with
  | nil => rfl
  | cons ticket rest ih =>
      rw [List.map_cons, List.foldl_cons, ih]
      refine Site.ext rfl (funext fun t => ?_)
      show (if t ∈ rest then none else if t = ticket then none else site.tasks t) = _
      by_cases ht : t = ticket
      · simp [ht]
      · simp [ht]

end Site

namespace Fleet

/-- The server that a task is about, its `Job.server`. -/
def home? (f : Fleet) (ticket : Ticket) : Option Endpoint :=
  (f.jobs.lookup ticket).map (·.server)

/-- What the fleet has of a server. -/
def site (f : Fleet) (server : Endpoint) : Site where
  node? := f.nodes.lookup server
  tasks ticket := (f.jobs.lookup ticket).bind fun job =>
    if job.server = server then some job.task else none

/-- What happens at a server when tasks are set up, the first of them under a ticket. -/
def setUps (server : Endpoint) : Ticket → List (Endpoint × Purpose) → List Happening
  | _, [] => []
  | ticket, (other, purpose) :: rest =>
    (if other = server then [.setUp ticket purpose] else []) ++ setUps server (ticket + 1) rest

/-- **What happens at a server when a deed is done** by `Fleet.act`. -/
def happenings (f : Fleet) (now : Time) (deed : Deed) (server : Endpoint) : List Happening :=
  match deed with
  | .spawn other purpose => setUps server f.nextTicket [(other, purpose)]
  | .step ticket arrival? =>
    if f.home? ticket = some server then [.turn now ticket arrival?] else []
  | .forget ticket => if f.home? ticket = some server then [.forgotten ticket] else []
  | .cancel ticket => if f.home? ticket = some server then [.givenUp ticket] else []
  | .sweep =>
    match f.sweeper with
    | .absent => []
    | .asleep _ => setUps server f.nextTicket ((f.due now).map fun server => (server, .revive))
    | .probing tickets =>
      (tickets.filter fun ticket => f.home? ticket = some server).map .forgotten
  | .tend other tending => if other = server then [.tended tending] else []
  | .markDead other => if other = server then [.markedDead now] else []
  | .markAlive other => if other = server then [.markedAlive] else []
  | .launch =>
    .launched :: setUps server f.nextTicket (f.nodes.keys.map fun server => (server, .warmUp true))
  | .dispose => if f.disposed then [] else [.closed]
  | .settled | .drain => []

variable {f f' : Fleet} {now : Time} {deed : Deed} {ticket : Ticket} {server : Endpoint}

theorem home?_eq_some_iff :
    f.home? ticket = some server ↔ ∃ job, f.jobs.lookup ticket = some job ∧ job.server = server :=
  Option.map_eq_some_iff

/-- A task is where its `Job.server` is. -/
theorem site_tasks_eq_some_iff {task : Task} :
    (f.site server).tasks ticket = some task ↔
      ∃ job, f.jobs.lookup ticket = some job ∧ job.server = server ∧ job.task = task := by
  unfold site
  dsimp only
  rw [Option.bind_eq_some_iff]
  refine exists_congr fun job => and_congr_right fun _ => ?_
  split
  · next hserver => simp [hserver]
  · next hserver => simp [hserver]

/-- There is nothing of a task where it is not at home. -/
theorem site_tasks_of_home_ne (h : f.home? ticket ≠ some server) :
    (f.site server).tasks ticket = none := by
  refine Option.eq_none_iff_forall_ne_some.mpr fun task htask => h ?_
  obtain ⟨job, hjob, hserver, -⟩ := site_tasks_eq_some_iff.mp htask
  exact home?_eq_some_iff.mpr ⟨job, hjob, hserver⟩

theorem site_tasks_of_lookup {job : Job} (h : f.jobs.lookup ticket = some job) :
    (f.site job.server).tasks ticket = some job.task :=
  site_tasks_eq_some_iff.mpr ⟨job, h, rfl, rfl⟩

/-- A change of a node by `Fleet.update` is a change of its site. -/
theorem site_update (change : Node → Node × Option NodeEvent) (other : Endpoint) :
    (f.update other change).site server =
      if other = server then (f.site server).change fun node => (change node).1
      else f.site server := by
  have hjobs := f.update_jobs other change
  have hnodes : (f.update other change).nodes.lookup server =
      if other = server then (f.nodes.lookup server).map fun node => (change node).1
      else f.nodes.lookup server := by
    unfold update
    split
    · next hnone =>
        split
        · next heq =>
            rw [← heq, hnone]
            rfl
        · rfl
    · next node hnode =>
        rw [notify_nodes, Table.lookup_insert]
        by_cases heq : server = other
        · subst heq
          rw [if_pos rfl, if_pos rfl, hnode]
          rfl
        · rw [if_neg heq, if_neg (Ne.symm heq)]
  refine Site.ext ?_ ?_
  · refine hnodes.trans ?_
    split <;> rfl
  · show (fun ticket => ((f.update other change).jobs.lookup ticket).bind _) = _
    rw [hjobs]
    split <;> rfl

theorem site_mapValues {change : Node → Node} (hnodes : f'.nodes = f.nodes.mapValues change)
    (hjobs : f'.jobs = f.jobs) : f'.site server = (f.site server).change change := by
  unfold site Site.change
  rw [hnodes, hjobs, Table.lookup_mapValues]

/-- A new task is set up where it is about (`Fleet.spawn`). -/
theorem site_spawn (h : f.Booked) (other : Endpoint) (purpose : Purpose) :
    (f.spawn other purpose).1.site server =
      (setUps server f.nextTicket [(other, purpose)]).foldl Site.after (f.site server) := by
  have hnone := h.numbered f.nextTicket (Nat.le_refl _)
  have htasks : ∀ t, ((f.spawn other purpose).1.site server).tasks t =
      if t = f.nextTicket then if other = server then some { purpose := purpose } else none
      else (f.site server).tasks t := by
    intro t
    show ((f.jobs.insert f.nextTicket (newJob (other, purpose))).lookup t).bind _ = _
    rw [Table.lookup_insert]
    split <;> rfl
  unfold setUps setUps
  rw [List.append_nil]
  by_cases hserver : other = server
  · rw [if_pos hserver]
    refine Site.ext rfl (funext fun t => (htasks t).trans ?_)
    rw [if_pos hserver]
    rfl
  · rw [if_neg hserver]
    refine Site.ext rfl (funext fun t => (htasks t).trans ?_)
    rw [if_neg hserver]
    -- at other servers there was nothing under the new ticket, and there is nothing now
    split
    · next ht =>
        rw [ht]
        show none = (f.jobs.lookup f.nextTicket).bind _
        rw [hnone]
        rfl
    · rfl

theorem setUps_cons (ticket : Ticket) (task : Endpoint × Purpose)
    (rest : List (Endpoint × Purpose)) :
    setUps server ticket (task :: rest) =
      setUps server ticket [task] ++ setUps server (ticket + 1) rest := by
  simp only [setUps, List.append_nil]

theorem site_spawnAll (h : f.Booked) (tasks : List (Endpoint × Purpose)) :
    (f.spawnAll tasks).1.site server =
      (setUps server f.nextTicket tasks).foldl Site.after (f.site server) := by
  induction tasks generalizing f with
  | nil => rfl
  | cons task rest ih =>
      rw [setUps_cons, List.foldl_append, ← site_spawn h task.1 task.2]
      exact ih (booked_spawn h task.1 task.2)

/-- A turn of a task changes the site of its server (`Fleet.turned`). -/
theorem site_turned {job : Job} {node : Node} {arrival? : Option Arrival} {turn : Turn}
    (hjob : f.jobs.lookup ticket = some job) (hnode : f.nodes.lookup job.server = some node)
    (hturn : job.task.step now ticket arrival? node = some turn) :
    (f.turned ticket job turn).site server =
      if job.server = server then (f.site server).after (.turn now ticket arrival?)
      else f.site server := by
  have hnodes : (f.turned ticket job turn).nodes = f.nodes.insert job.server turn.node :=
    notify_nodes ..
  have hjobs : (f.turned ticket job turn).jobs =
      f.jobs.insert ticket { job with task := turn.task } := notify_jobs ..
  unfold site
  rw [hnodes, hjobs]
  by_cases hserver : job.server = server
  · subst hserver
    have hsite : (f.site job.server).turn? now ticket arrival? = some turn := by
      have htask := site_tasks_of_lookup hjob
      have hthere : (f.site job.server).node? = some node := hnode
      unfold Site.turn?
      rw [htask, hthere]
      exact hturn
    rw [if_pos rfl]
    unfold site at hsite
    unfold Site.after
    dsimp only
    rw [hsite]
    refine Site.ext ?_ (funext fun t => ?_)
    · show (f.nodes.insert job.server turn.node).lookup job.server = (f.nodes.lookup _).map _
      rw [Table.lookup_insert, if_pos rfl, hnode]
      rfl
    · show ((f.jobs.insert ticket { job with task := turn.task }).lookup t).bind _ =
        if t = ticket then some turn.task else (f.jobs.lookup t).bind _
      rw [Table.lookup_insert]
      split
      · exact if_pos rfl
      · rfl
  · rw [if_neg hserver]
    refine Site.ext ?_ (funext fun t => ?_)
    · show (f.nodes.insert job.server turn.node).lookup server = _
      rw [Table.lookup_insert, if_neg (Ne.symm hserver)]
    · show ((f.jobs.insert ticket _).lookup t).bind _ = (f.jobs.lookup t).bind _
      rw [Table.lookup_insert]
      by_cases ht : t = ticket
      · subst ht
        rw [if_pos rfl, hjob]
        show (if job.server = server then _ else none) = if job.server = server then _ else none
        rw [if_neg hserver, if_neg hserver]
      · rw [if_neg ht]

/-- Tasks that are dropped are dropped where they are at home (`Fleet.home?`). -/
theorem site_forgetAll (tickets : List Ticket) :
    (tickets.foldl forget f).site server =
      ((tickets.filter fun ticket => f.home? ticket = some server).map .forgotten).foldl Site.after
        (f.site server) := by
  obtain ⟨jobs, ended, hforget, hjobs⟩ := forgetAll_eq f tickets
  rw [hforget, Site.foldl_forgotten]
  refine Site.ext rfl (funext fun t => ?_)
  show (jobs.lookup t).bind _ =
    if t ∈ tickets.filter (fun ticket => f.home? ticket = some server) then none
    else (f.site server).tasks t
  simp only [hjobs, List.mem_filter, decide_eq_true_iff]
  by_cases ht : t ∈ tickets
  · by_cases hhome : f.home? t = some server
    · rw [if_pos ht, if_pos ⟨ht, hhome⟩]
      rfl
    · rw [if_pos ht, if_neg fun hboth => hhome hboth.2, site_tasks_of_home_ne hhome]
      rfl
  · rw [if_neg ht, if_neg fun hboth => ht hboth.1]
    rfl

theorem site_forget (ticket : Ticket) :
    (f.forget ticket).site server =
      if f.home? ticket = some server then (f.site server).after (.forgotten ticket)
      else f.site server := by
  refine (site_forgetAll [ticket]).trans ?_
  by_cases hhome : f.home? ticket = some server
  · simp [hhome]
  · simp [hhome]

/-- A task is given up where it is at home, by `Fleet.cancel`. -/
theorem site_cancel (ticket : Ticket) :
    (f.cancel ticket).site server =
      if f.home? ticket = some server then (f.site server).after (.givenUp ticket)
      else f.site server := by
  unfold cancel
  split
  · next job node hjob =>
      obtain ⟨hlookup, hnode⟩ := job?_eq_some_iff.mp hjob
      have hhome : f.home? ticket = some job.server := home?_eq_some_iff.mpr ⟨job, hlookup, rfl⟩
      let changed : Fleet :=
        { f with nodes := f.nodes.insert job.server (job.task.withdraw ticket node) }
      have hchanged : changed.home? ticket = some job.server := hhome
      refine (site_forget (f := changed) ticket).trans ?_
      rw [hchanged, hhome]
      by_cases hserver : job.server = server
      · subst hserver
        rw [if_pos rfl, if_pos rfl]
        unfold Site.after
        dsimp only
        rw [site_tasks_of_lookup hlookup]
        refine Site.ext ?_ rfl
        show (f.nodes.insert job.server _).lookup job.server = (f.nodes.lookup job.server).map _
        rw [Table.lookup_insert, if_pos rfl, hnode]
        rfl
      · have hne : some job.server ≠ some server := fun heq => hserver (Option.some.inj heq)
        rw [if_neg hne, if_neg hne]
        refine Site.ext ?_ rfl
        show (f.nodes.insert job.server _).lookup server = _
        rw [Table.lookup_insert, if_neg (Ne.symm hserver)]
        rfl
  · next hnone =>
      refine (site_forget ticket).trans ?_
      split
      · next hhome =>
          -- the task is there without a node, so nobody has anything to keep of it
          obtain ⟨job, hlookup, rfl⟩ := home?_eq_some_iff.mp hhome
          have hnode : f.nodes.lookup job.server = none := by
            refine Option.eq_none_iff_forall_ne_some.mpr fun node hnode => ?_
            rw [job?_eq_some_iff.mpr ⟨hlookup, hnode⟩] at hnone
            contradiction
          unfold Site.after
          dsimp only
          rw [site_tasks_of_lookup hlookup]
          refine Site.ext ?_ rfl
          show f.nodes.lookup job.server = (f.nodes.lookup job.server).map _
          rw [hnode]
          rfl
      · rfl

/-- **A deed does to a site what happens there** (`Fleet.happenings`). -/
theorem site_act (h : f.Booked) (hact : f.act now deed = some f') :
    f'.site server = (f.happenings now deed server).foldl Site.after (f.site server) := by
  have hfold : ∀ (p : Prop) [Decidable p] (e : Happening),
      (if p then (f.site server).after e else f.site server) =
        (if p then [e] else []).foldl Site.after (f.site server) := by
    intro p _ e
    split <;> rfl
  cases deed with
  | spawn other purpose =>
      obtain rfl := Option.some.inj hact
      exact site_spawn h other purpose
  | step ticket arrival? =>
      obtain ⟨job, node, turn, hjob, hnode, hturn, rfl⟩ := act_step hact
      have hhome : f.home? ticket = some server ↔ job.server = server := by
        unfold home?
        rw [hjob]
        exact Option.some_inj
      rw [site_turned hjob hnode hturn]
      unfold happenings
      dsimp only
      rw [← hfold]
      simp only [hhome]
  | forget ticket =>
      obtain rfl := Option.some.inj hact
      exact (site_forget ticket).trans (hfold ..)
  | cancel ticket =>
      obtain rfl := Option.some.inj hact
      exact (site_cancel ticket).trans (hfold ..)
  | sweep =>
      unfold happenings
      dsimp only
      cases swept_of_sweep hact with
      | idle hsweeper hwake hdue =>
          rw [hsweeper, hdue]
          rfl
      | probed hsweeper hwake =>
          rw [hsweeper]
          exact site_spawnAll h ((f.due now).map fun server => (server, .revive))
      | rested hsweeper hended =>
          rw [hsweeper]
          exact site_forgetAll _
  | tend other tending =>
      obtain rfl := Option.some.inj hact
      exact (site_update _ other).trans (hfold _ (.tended tending))
  | markDead other =>
      obtain rfl := Option.some.inj hact
      exact (site_update _ other).trans (hfold _ (.markedDead now))
  | markAlive other =>
      obtain rfl := Option.some.inj hact
      exact (site_update _ other).trans (hfold _ .markedAlive)
  | launch =>
      obtain rfl := Option.some.inj hact
      have hsite : site { f with
          nodes := f.nodes.mapValues fun node => { node with listening := true } } server =
            (f.site server).after .launched := site_mapValues rfl rfl
      unfold launch
      dsimp only
      rw [site_spawnAll (h.mapValues _), Table.keys_mapValues, hsite]
      rfl
  | settled =>
      obtain rfl := Option.some.inj hact
      unfold settled
      split <;> rfl
  | dispose =>
      obtain rfl := Option.some.inj hact
      unfold dispose happenings
      dsimp only
      split
      · rfl
      · exact site_mapValues rfl rfl
  | drain =>
      obtain rfl := Option.some.inj hact
      rfl

end Fleet

/-! ## Scripts -/

/-- Deeds one after the other, each at its time. -/
abbrev Script := List (Time × Deed)

namespace Fleet

/-- The fleet after a script, if every deed of it can be done by `Fleet.act` when its turn comes. -/
def play (f : Fleet) : Script → Option Fleet
  | [] => some f
  | (now, deed) :: later => (f.act now deed).bind fun f' => f'.play later

/-- What happens at a server in the course of a script. -/
def tale (f : Fleet) (server : Endpoint) : Script → List Happening
  | [] => []
  | (now, deed) :: later =>
    f.happenings now deed server ++ ((f.act now deed).map fun f' => f'.tale server later).getD []

variable {f f' : Fleet} {now : Time} {deed : Deed} {server : Endpoint} {script script' : Script}

theorem play_cons (h : f.play ((now, deed) :: script) = some f') :
    ∃ f₁, f.act now deed = some f₁ ∧ f₁.play script = some f' :=
  Option.bind_eq_some_iff.mp h

theorem tale_cons {f₁ : Fleet} (h : f.act now deed = some f₁) :
    f.tale server ((now, deed) :: script) =
      f.happenings now deed server ++ f₁.tale server script := by
  rw [tale, h]
  rfl

theorem booked_play (h : f.Booked) (hplay : f.play script = some f') : f'.Booked := by
  induction script generalizing f with
  | nil =>
      obtain rfl := Option.some.inj hplay
      exact h
  | cons first later ih =>
      obtain ⟨f₁, hact, hlater⟩ := play_cons hplay
      exact ih (booked_act h hact) hlater

/-- A script does to a site what happens there (`Fleet.tale`). -/
theorem site_play (h : f.Booked) (hplay : f.play script = some f') :
    f'.site server = (f.tale server script).foldl Site.after (f.site server) := by
  induction script generalizing f with
  | nil =>
      obtain rfl := Option.some.inj hplay
      rfl
  | cons first later ih =>
      obtain ⟨f₁, hact, hlater⟩ := play_cons hplay
      rw [tale_cons hact, List.foldl_append, ← site_act h hact]
      exact ih (booked_act h hact) hlater

/-- **What becomes of a server depends on what happens there, and on nothing else.** Where one
    script does at a server what another does, as `Fleet.tale` tells, and then some more, only that
    makes a difference. -/
theorem isolated {f₁ f₂ : Fleet} {more : List Happening} (h : f.Booked)
    (hplay : f.play script = some f₁) (hplay' : f.play script' = some f₂)
    (hmore : f.tale server script' = f.tale server script ++ more) :
    f₂.site server = more.foldl Site.after (f₁.site server) := by
  rw [site_play h hplay', hmore, List.foldl_append, ← site_play h hplay]

end Fleet

end Memcache
