import Mathlib
import Memcache.Proofs.Fleet.Tickets
import Memcache.Proofs.Node.Course

/-!
# `Memcache.Proofs.Fleet.Courses` — commands on the servers of a fleet

A command that `Fleet.spawn` sets up on a server takes its course there (`Task.Course`): it is sent
at most once, and what it reports is what became of it. That was shown of a node among others who
use it properly. Here it is shown of a fleet, in the course of any `Script` that is fair: the
network numbers each of its connections once, and a connection is in nobody's hands but those of the
task that it was lent to. So what a command's task asks for and hears can be read off what happens
at its server.

The argument is about one `Site`. Its books are in order, whatever happens there (`Site.Orderly`),
and each of its tasks fits them.

## Contents

* `Happening.Fair`, `Site.Fair` — nobody interferes with what was lent to another;
* `Site.Orderly`, `Site.orderly_after` — books that stay in order;
* `Site.told`, `Site.record` — what a task asks for and hears at a site;
* `Site.Follows`, `Site.follows_record` — **a command takes its course, whatever else happens**;
* `Fleet.Reachable`, `Fleet.Reachable.orderly` — the fleets that there are;
* `Fleet.course_of_play` — **a command on a server of a fleet takes its course**.
-/

namespace Memcache

/-! ## What is fair -/

/-- True of a `Purpose.use`, a command on a connection that another ticket holds. -/
def Purpose.isUse : Purpose → Bool
  | .use _ _ => true
  | _ => false

theorem Purpose.ne_use_of_isUse {purpose : Purpose} (h : purpose.isUse = false) (holder : Ticket)
    (command : Command) : purpose ≠ .use holder command := by
  rintro rfl
  contradiction

/-- **What is fair at a site.** No command runs on a connection that another ticket holds, and
    nobody else gives such a connection back (`Tending.release`) or gives it up (`Tending.discard`).
    A connection that the network delivers is new. -/
def Happening.Fair (site : Site) : Happening → Prop
  | .setUp _ purpose => purpose.isUse = false
  | .turn _ _ (some (.connected link)) =>
    ∀ node, site.node? = some node → node.pool.uses link = 0
  | .tended (.release _) | .tended (.discard _) => False
  | _ => True

instance (site : Site) : (e : Happening) → Decidable (e.Fair site)
  | .setUp _ purpose => inferInstanceAs (Decidable (purpose.isUse = false))
  | .turn _ _ (some (.connected link)) =>
    decidable_of_iff (site.node?.all fun node => node.pool.uses link = 0)
      (by simp [Happening.Fair, Option.all_eq_true])
  | .tended (.release _) | .tended (.discard _) => .isFalse id
  | .turn _ _ none | .turn _ _ (some .refused) | .turn _ _ (some (.octets _))
  | .turn _ _ (some .endOfStream) | .turn _ _ (some .reset) | .forgotten _ | .givenUp _
  | .tended .clearIdle | .tended .close | .markedDead _ | .markedAlive | .launched | .closed =>
    .isTrue trivial

namespace Site

variable {site : Site} {ticket next : Ticket} {e : Happening} {tale : List Happening} {node : Node}

/-- Everything that happens is `Happening.Fair` in its turn. -/
def Fair : Site → List Happening → Prop
  | _, [] => True
  | site, e :: later => e.Fair site ∧ (site.after e).Fair later

instance decidableFair : (site : Site) → (tale : List Happening) → Decidable (site.Fair tale)
  | _, [] => .isTrue trivial
  | site, e :: later =>
    have := decidableFair (site.after e) later
    inferInstanceAs (Decidable (e.Fair site ∧ (site.after e).Fair later))

/-! ## Books in order -/

/-- **The books of a site are in order**: so are those of the pool (`Pool.Sound`), tickets from
    `next` on have nothing of it, and every task fits what it has (`Task.Fits`). -/
structure Orderly (next : Ticket) (site : Site) : Prop where
  node : ∀ node, site.node? = some node →
    node.pool.Sound ∧ ∀ ticket, next ≤ ticket → node.pool.claims.lookup ticket = none
  tasks : ∀ ticket task, site.tasks ticket = some task →
    ticket < next ∧ task.purpose.isUse = false ∧
      ∀ node, site.node? = some node → task.Fits ticket node.pool

theorem Orderly.mono {next' : Ticket} (h : site.Orderly next) (hle : next ≤ next') :
    site.Orderly next' where
  node node hnode :=
    ⟨(h.node node hnode).1, fun ticket ht => (h.node node hnode).2 ticket (Nat.le_trans hle ht)⟩
  tasks ticket task htask :=
    ⟨Nat.lt_of_lt_of_le (h.tasks ticket task htask).1 hle, (h.tasks ticket task htask).2⟩

/-- What a turn of a task does to its pool, and what the task has of it afterwards
    (`Turn.Keeps`). -/
theorem Orderly.keeps (h : site.Orderly next) {now : Time} {arrival? : Option Arrival} {task : Task}
    {turn : Turn} (hfair : (Happening.turn now ticket arrival?).Fair site)
    (htask : site.tasks ticket = some task) (hnode : site.node? = some node)
    (hturn : task.step now ticket arrival? node = some turn) :
    turn.Keeps task.purpose.isWarmUp ticket ticket node.pool task.purpose := by
  obtain ⟨-, huse, hfits⟩ := h.tasks ticket task htask
  have hfresh : ∀ link, arrival? = some (.connected link) → node.pool.uses link = 0 := by
    rintro link rfl
    exact hfair node hnode
  have hkeeps := Task.keeps_step (h.node node hnode).1 (hfits node hnode) hfresh hturn
  rwa [Task.holder_of_ne_use (Purpose.ne_use_of_isUse huse)] at hkeeps

/-- To a ticket in whose name nothing is done to the node, all that happens is the doing of others
    (`Pool.Evolves`). -/
theorem Orderly.evolves (h : site.Orderly next) (hfair : e.Fair site)
    (hidle : e.subject? = some ticket → (site.after e).node? = site.node?) {node' : Node}
    (hnode : site.node? = some node) (hnode' : (site.after e).node? = some node') :
    ∃ ahead k, ticket ≠ k ∧ node.pool.Evolves ahead k node'.pool := by
  -- what no task has done is put down to a ticket that is not this one
  have hne : ticket ≠ ticket + 1 := Nat.ne_of_lt (Nat.lt_succ_self ticket)
  have hsame : node'.pool = node.pool →
      ∃ ahead k, ticket ≠ k ∧ node.pool.Evolves ahead k node'.pool := by
    intro hpool
    exact ⟨false, ticket + 1, hne, hpool ▸ .refl ..⟩
  have hclear : node'.pool = node.pool.clearIdle →
      ∃ ahead k, ticket ≠ k ∧ node.pool.Evolves ahead k node'.pool := by
    intro hpool
    exact ⟨false, ticket + 1, hne, hpool ▸ Pool.evolves_clearIdle ..⟩
  have hclose : node'.pool = node.pool.close →
      ∃ ahead k, ticket ≠ k ∧ node.pool.Evolves ahead k node'.pool := by
    intro hpool
    exact ⟨false, ticket + 1, hne, hpool ▸ Pool.evolves_close ..⟩
  by_cases hsubject : e.subject? = some ticket
  · rw [hidle hsubject, hnode] at hnode'
    exact hsame (congrArg Node.pool (Option.some.inj hnode')).symm
  have hother : ∀ other, e.subject? = some other → ticket ≠ other := by
    rintro other hsubject' rfl
    exact hsubject hsubject'
  cases e with
  | setUp other purpose | forgotten other =>
      exact hsame (congrArg Node.pool (Option.some.inj (hnode.symm.trans hnode'))).symm
  | turn now other arrival? =>
      cases hturn : site.turn? now other arrival? with
      | none =>
          rw [after_turn_of_none hturn] at hnode'
          exact hsame (congrArg Node.pool (Option.some.inj (hnode.symm.trans hnode'))).symm
      | some turn =>
          rw [after_turn hturn] at hnode'
          obtain ⟨task, node₁, htask, hnode₁, hstep⟩ := exists_of_turn? hturn
          obtain rfl := Option.some.inj (hnode.symm.trans hnode₁)
          obtain rfl : turn.node = node' := eq_of_change hnode hnode'
          exact ⟨_, other, hother other rfl,
            (h.keeps hfair htask hnode hstep).evolves⟩
  | givenUp other =>
      cases htask : site.tasks other with
      | none =>
          rw [after_givenUp_of_none htask] at hnode'
          exact hsame (congrArg Node.pool (Option.some.inj (hnode.symm.trans hnode'))).symm
      | some task =>
          rw [after_givenUp htask] at hnode'
          obtain rfl : task.withdraw other node = node' := eq_of_change hnode hnode'
          have huse := (h.tasks other task htask).2.1
          have hevolves : node.pool.Evolves false (task.holder other) _ :=
            Workload.evolves_taskWithdraw (h.node node hnode).1 other task
          rw [Task.holder_of_ne_use (Purpose.ne_use_of_isUse huse)] at hevolves
          exact ⟨false, other, hother other rfl, hevolves⟩
  | tended tending =>
      obtain rfl := eq_of_change hnode hnode'
      cases tending with
      | release other => exact absurd hfair id
      | discard other => exact absurd hfair id
      | clearIdle => exact hclear rfl
      | close => exact hclose rfl
  | markedDead now =>
      obtain rfl := eq_of_change hnode hnode'
      unfold Node.markDead at hclear hsame ⊢
      split
      · next halive =>
          rw [if_pos halive] at hclear
          exact hclear rfl
      · next hdead =>
          rw [if_neg hdead] at hsame
          exact hsame rfl
  | markedAlive =>
      obtain rfl := eq_of_change hnode hnode'
      refine hsame ?_
      unfold Node.markAlive
      split <;> rfl
  | launched =>
      obtain rfl := eq_of_change hnode hnode'
      exact hsame rfl
  | closed =>
      obtain rfl := eq_of_change hnode hnode'
      exact hclose rfl

/-- A new task fits if nothing in `Pool.claims` is under its ticket. -/
theorem fits_new {purpose : Purpose} {p : Pool} (huse : purpose.isUse = false)
    (hnone : p.claims.lookup ticket = none) :
    ({ purpose := purpose } : Task).Fits ticket p := by
  cases purpose with
  | borrow | execute _ => exact hnone
  | use holder command => contradiction
  | probe | revive | warmUp _ => exact ⟨hnone, trivial⟩

/-- The first ticket that was not given out when something has happened. -/
def nextTicket (next : Ticket) (e : Happening) : Ticket :=
  match e.newTicket? with
  | some ticket => ticket + 1
  | none => next

section After
variable (h : site.Orderly next) (hfair : e.Fair site)
  (hnew : ∀ ticket, e.newTicket? = some ticket → next ≤ ticket)
include h hfair

/-- Nothing in `Pool.claims` is under a ticket that was not given out before. -/
theorem Orderly.unclaimed {node' : Node} {t : Ticket} (hnode' : (site.after e).node? = some node')
    (ht : next ≤ t) : node'.pool.Sound ∧ node'.pool.claims.lookup t = none := by
  obtain ⟨node, hnode⟩ := exists_of_node?_after hnode'
  obtain ⟨hsound, hbefore⟩ := h.node node hnode
  have hnone : site.tasks t = none := by
    refine Option.eq_none_iff_forall_ne_some.mpr fun task htask => ?_
    exact Nat.not_lt.mpr ht (h.tasks t task htask).1
  obtain ⟨ahead, k, hk, hevolves⟩ := h.evolves hfair (node_eq_of_none hnone) hnode hnode'
  refine ⟨hevolves.sound hsound, ?_⟩
  rcases hevolves.others t hk with hsame | ⟨hwaiting, -⟩
  · exact hsame.trans (hbefore t ht)
  · rw [hbefore t ht] at hwaiting
    contradiction

/-- A task to which nothing happens (`Site.Idles`) still fits. -/
theorem Orderly.fits {task : Task} {node' : Node} (htask : site.tasks ticket = some task)
    (hidle : site.Idles ticket e) (hnode' : (site.after e).node? = some node') :
    task.Fits ticket node'.pool := by
  obtain ⟨-, huse, hfits⟩ := h.tasks ticket task htask
  obtain ⟨node, hnode⟩ := exists_of_node?_after hnode'
  obtain ⟨ahead, k, hk, hevolves⟩ := h.evolves hfair hidle.node_eq hnode hnode'
  exact (hfits node hnode).frame hevolves hk (Purpose.ne_use_of_isUse huse k)

include hnew

/-- **What is `Happening.Fair` keeps the books in order.** -/
theorem orderly_after : (site.after e).Orderly (nextTicket next e) := by
  have hle : next ≤ nextTicket next e := by
    unfold nextTicket
    split
    · next ticket hticket => exact Nat.le_succ_of_le (hnew ticket hticket)
    · exact Nat.le_refl _
  refine ⟨fun node' hnode' => ?_, fun t task' htask' => ?_⟩
  · exact ⟨(h.unclaimed hfair hnode' (Nat.le_refl next)).1,
      fun t ht => (h.unclaimed hfair hnode' (Nat.le_trans hle ht)).2⟩
  by_cases hset : e.newTicket? = some t
  · -- a new task has nothing yet, and nothing was kept for its ticket
    cases e with
    | setUp other purpose =>
        obtain rfl := Option.some.inj hset
        obtain rfl : { purpose := purpose } = task' :=
          Option.some.inj ((tasks_put site other _).symm.trans htask')
        refine ⟨Nat.lt_succ_self other, hfair, fun node' hnode' => fits_new hfair ?_⟩
        exact (h.unclaimed hfair hnode' (hnew other rfl)).2
    | turn | forgotten | givenUp | tended | markedDead | markedAlive | launched | closed =>
        contradiction
  · rcases task_after_cases hset htask' with
      ⟨htask, hidle⟩ | ⟨now, arrival?, turn, rfl, hturn, rfl⟩
    · obtain ⟨hlt, huse, -⟩ := h.tasks t task' htask
      exact ⟨Nat.lt_of_lt_of_le hlt hle, huse, fun node' => h.fits hfair htask hidle⟩
    · obtain ⟨task, node, htask, hnode, hstep⟩ := exists_of_turn? hturn
      have hkeeps := h.keeps hfair htask hnode hstep
      obtain ⟨hlt, huse, -⟩ := h.tasks t task htask
      refine ⟨Nat.lt_of_lt_of_le hlt hle, hkeeps.purpose ▸ huse, fun node' hnode' => ?_⟩
      rw [after_turn hturn] at hnode'
      obtain rfl : turn.node = node' := eq_of_change hnode hnode'
      exact hkeeps.fits

end After

/-- The first of several happenings. -/
theorem Orderly.first (h : site.Orderly next) (hfair : e.Fair site)
    (hnumbered : Numbered next (e :: tale)) :
    (site.after e).Orderly (nextTicket next e) ∧ Numbered (nextTicket next e) tale := by
  constructor
  · refine orderly_after h hfair fun ticket hticket => hnumbered.new ticket ?_
    exact List.mem_filterMap.mpr ⟨e, List.mem_cons_self, hticket⟩
  · cases e with
    | setUp other purpose => exact hnumbered.setUp.2
    | turn | forgotten | givenUp | tended | markedDead | markedAlive | launched | closed =>
        exact hnumbered.tail

/-- What is `Site.Fair` keeps the books in order, however much happens. -/
theorem orderly_foldl {limit : Ticket} (h : site.Orderly next) (hfair : site.Fair tale)
    (hnumbered : Numbered next tale) (hle : next ≤ limit)
    (hlt : ∀ ticket ∈ tale.filterMap Happening.newTicket?, ticket < limit) :
    (tale.foldl after site).Orderly limit := by
  induction tale generalizing site next with
  | nil => exact h.mono hle
  | cons e later ih =>
      obtain ⟨hafter, hrest⟩ := h.first hfair.1 hnumbered
      refine ih hafter hfair.2 hrest ?_ fun ticket hmem => hlt ticket ?_
      · unfold nextTicket
        split
        · next ticket hticket =>
            exact hlt ticket (List.mem_filterMap.mpr ⟨e, List.mem_cons_self, hticket⟩)
        · exact hle
      · obtain ⟨e', he', hticket⟩ := List.mem_filterMap.mp hmem
        exact List.mem_filterMap.mpr ⟨e', List.mem_cons_of_mem _ he', hticket⟩

/-! ## The course of a command -/

/-- What the task under a ticket asks of the network, as `Turn.effects`, and hears when something
    happens. -/
def told (site : Site) (ticket : Ticket) : Happening → List Effect × Bytes
  | .turn now other arrival? =>
    match site.tasks ticket, site.turn? now other arrival? with
    | some task, some turn =>
      if other = ticket then (turn.effects, task.hears arrival?) else ([], [])
    | _, _ => ([], [])
  | _ => ([], [])

/-- What the task under a ticket asks of the network and hears, one happening after the other. -/
def record (ticket : Ticket) : Site → List Happening → List Effect × Bytes
  | _, [] => ([], [])
  | site, e :: later =>
    ((site.told ticket e).1 ++ ((site.after e).record ticket later).1,
      (site.told ticket e).2 ++ ((site.after e).record ticket later).2)

/-- A ticket follows a command: as long as its task is there, it has taken its `Task.Course` on the
    node, and so much was asked for and heard. -/
def Follows (ticket : Ticket) (command : Command) (effects : List Effect) (heard : Bytes)
    (site : Site) : Prop :=
  ∀ task node, site.tasks ticket = some task → site.node? = some node →
    Task.Course ticket command node task effects heard

variable {command : Command} {effects : List Effect} {heard : Bytes}

/-- Nothing is told of a task to which nothing happens. -/
theorem Idles.told_eq (h : site.Idles ticket e) : site.told ticket e = ([], []) := by
  cases e with
  | turn now other arrival? =>
      unfold told
      dsimp only
      split
      · next task turn _ hturn =>
          refine if_neg fun hsame => ?_
          obtain ⟨now', arrival', heq, hnone⟩ := h (congrArg some hsame)
          obtain ⟨rfl, rfl, rfl⟩ := Happening.turn.inj heq
          rw [hnone] at hturn
          contradiction
      · rfl
  | setUp | forgotten | givenUp | tended | markedDead | markedAlive | launched | closed => rfl

theorem told_turn {now : Time} {arrival? : Option Arrival} {task : Task} {turn : Turn}
    (htask : site.tasks ticket = some task) (hturn : site.turn? now ticket arrival? = some turn) :
    site.told ticket (.turn now ticket arrival?) = (turn.effects, task.hears arrival?) := by
  unfold told
  dsimp only
  rw [hturn, htask]
  exact if_pos rfl

/-- **Whatever happens is a part of a command's `Task.Course`,** or a thing of others. -/
theorem follows_after (h : site.Orderly next) (hfair : e.Fair site)
    (hnew : ∀ t, e.newTicket? = some t → next ≤ t) (hlt : ticket < next)
    (hfollows : site.Follows ticket command effects heard) :
    (site.after e).Follows ticket command (effects ++ (site.told ticket e).1)
      (heard ++ (site.told ticket e).2) := by
  intro task' node' htask' hnode'
  obtain ⟨node, hnode⟩ := exists_of_node?_after hnode'
  have hset : e.newTicket? ≠ some ticket := fun heq => Nat.not_le.mpr hlt (hnew ticket heq)
  rcases task_after_cases hset htask' with
    ⟨htask, hidle⟩ | ⟨now, arrival?, turn, rfl, hturn, rfl⟩
  · obtain ⟨ahead, k, hk, hevolves⟩ := h.evolves hfair hidle.node_eq hnode hnode'
    rw [hidle.told_eq, List.append_nil, List.append_nil]
    exact .others (hfollows task' node htask hnode) hk hevolves
  · obtain ⟨task, node₁, htask, hnode₁, hstep⟩ := exists_of_turn? hturn
    obtain rfl := Option.some.inj (hnode.symm.trans hnode₁)
    rw [after_turn hturn] at hnode'
    obtain rfl : turn.node = node' := eq_of_change hnode hnode'
    rw [told_turn htask hturn]
    refine .stepped now arrival? (hfollows task node htask hnode) ?_ hstep
    rintro link rfl
    exact hfair node hnode

/-- **A command takes its course, whatever else happens** (`Site.record`). -/
theorem follows_record (h : site.Orderly next) (hfair : site.Fair tale)
    (hnumbered : Numbered next tale) (hlt : ticket < next)
    (hfollows : site.Follows ticket command effects heard) :
    (tale.foldl after site).Follows ticket command (effects ++ (site.record ticket tale).1)
      (heard ++ (site.record ticket tale).2) := by
  induction tale generalizing site next effects heard with
  | nil =>
      unfold record
      rw [List.append_nil, List.append_nil]
      exact hfollows
  | cons e later ih =>
      obtain ⟨hafter, hrest⟩ := h.first hfair.1 hnumbered
      have hnew : ∀ t, e.newTicket? = some t → next ≤ t := fun t ht =>
        hnumbered.new t (List.mem_filterMap.mpr ⟨e, List.mem_cons_self, ht⟩)
      have hlt' : ticket < nextTicket next e := by
        unfold nextTicket
        split
        · next t ht => exact Nat.lt_succ_of_lt (Nat.lt_of_lt_of_le hlt (hnew t ht))
        · exact hlt
      have hfirst := follows_after h hfair.1 hnew hlt hfollows
      have hlater := ih hafter hfair.2 hrest hlt' hfirst
      unfold record
      rw [← List.append_assoc, ← List.append_assoc]
      exact hlater

end Site

/-! ## Fleets -/

namespace Fleet

variable {f f' : Fleet} {server : Endpoint} {ticket : Ticket} {script : Script}

/-- **The fleets that there are**: what has become of `Fleet.ofServers` in the course of a script
    that was `Site.Fair` everywhere. -/
def Reachable (f : Fleet) : Prop :=
  ∃ servers settings policy script, (ofServers servers settings policy).play script = some f ∧
    ∀ server, ((ofServers servers settings policy).site server).Fair
      ((ofServers servers settings policy).tale server script)

theorem reachable_ofServers (servers : List Endpoint) (settings : PoolSettings)
    (policy : PolicyChoice) : (ofServers servers settings policy).Reachable :=
  ⟨servers, settings, policy, [], rfl, fun _ => trivial⟩

theorem orderly_site_ofServers (servers : List Endpoint) (settings : PoolSettings)
    (policy : PolicyChoice) (server : Endpoint) :
    ((ofServers servers settings policy).site server).Orderly 0 := by
  refine ⟨fun node hnode => ?_, fun ticket task htask => ?_⟩
  · obtain rfl := lookup_ofServers servers settings policy hnode
    exact ⟨Pool.sound_new server settings, fun _ _ => rfl⟩
  · have hnone : ((ofServers servers settings policy).site server).tasks ticket = none := rfl
    rw [hnone] at htask
    contradiction

/-- A script keeps the books of a site in order where it is `Site.Fair`. -/
theorem orderly_site_play (h : (f.site server).Orderly f.nextTicket) (hbooked : f.Booked)
    (hplay : f.play script = some f') (hfair : (f.site server).Fair (f.tale server script)) :
    (f'.site server).Orderly f'.nextTicket := by
  obtain ⟨hle, hnumbered, hlt⟩ := numbered_tale server hplay
  rw [site_play hbooked hplay]
  exact Site.orderly_foldl h hfair hnumbered hle hlt

/-- Tasks are set up fairly if none is a `Purpose.use`. -/
theorem fair_setUps {tasks : List (Endpoint × Purpose)}
    (htasks : ∀ task ∈ tasks, task.2.isUse = false) (site : Site) (next : Ticket) :
    site.Fair (setUps server next tasks) := by
  induction tasks generalizing site next with
  | nil => trivial
  | cons task rest ih =>
      obtain ⟨hfirst, hrest⟩ := List.forall_mem_cons.mp htasks
      show site.Fair ((if task.1 = server then [.setUp next task.2] else []) ++
        setUps server (next + 1) rest)
      split
      · exact ⟨hfirst, ih hrest _ _⟩
      · exact ih hrest _ _

/-- Nothing is out of order when `Fleet.spawnAll` has set up tasks. -/
theorem orderly_site_spawnAll (h : (f.site server).Orderly f.nextTicket) (hbooked : f.Booked)
    {tasks : List (Endpoint × Purpose)} (htasks : ∀ task ∈ tasks, task.2.isUse = false) :
    ((f.spawnAll tasks).1.site server).Orderly (f.spawnAll tasks).1.nextTicket := by
  have hnext : (f.spawnAll tasks).1.nextTicket = f.nextTicket + tasks.length := by
    obtain ⟨jobs, hspawn⟩ := spawnAll_eq f tasks
    rw [hspawn]
  obtain ⟨hnumbered, hlt⟩ := numbered_setUps server f.nextTicket tasks
  rw [site_spawnAll hbooked, hnext]
  exact Site.orderly_foldl h (fair_setUps htasks _ _) hnumbered (Nat.le_add_right ..) hlt

theorem Reachable.booked (h : f.Reachable) : f.Booked := by
  obtain ⟨servers, settings, policy, script, hplay, -⟩ := h
  exact booked_play (booked_ofServers servers settings policy) hplay

/-- The books of every fleet that is `Fleet.Reachable` are in order. -/
theorem Reachable.orderly (h : f.Reachable) (server : Endpoint) :
    (f.site server).Orderly f.nextTicket := by
  obtain ⟨servers, settings, policy, script, hplay, hfair⟩ := h
  exact orderly_site_play (orderly_site_ofServers servers settings policy server)
    (booked_ofServers servers settings policy) hplay (hfair server)

/-- **A command on a server of a fleet takes its course** there, and what it asks for and hears is
    what `Site.record` makes of the tale of the server. -/
theorem course_of_play (horderly : (f.site server).Orderly f.nextTicket) (h : f.Booked)
    {command : Command} {node : Node}
    (hjob : f.jobs.lookup ticket = some (newJob (server, .execute command)))
    (hnode : f.nodes.lookup server = some node) (hplay : f.play script = some f')
    (hfair : (f.site server).Fair (f.tale server script)) {job' : Job}
    (hjob' : f'.jobs.lookup ticket = some job') :
    job'.server = server ∧ ∃ node', f'.nodes.lookup server = some node' ∧
      Task.Course ticket command node' job'.task
        ((f.site server).record ticket (f.tale server script)).1
        ((f.site server).record ticket (f.tale server script)).2 := by
  have htask : (f.site server).tasks ticket = some { purpose := .execute command } :=
    site_tasks_of_lookup hjob
  obtain ⟨hlt, -, hfits⟩ := horderly.tasks ticket _ htask
  obtain ⟨rfl, -⟩ := run_of_play h hjob hplay hjob'
  have hfollows : (f.site job'.server).Follows ticket command [] [] := by
    intro task node' htask' hnode'
    obtain rfl := Option.some.inj (htask.symm.trans htask')
    exact .begun (horderly.node node' hnode').1 (hfits node' hnode')
  obtain ⟨-, hnumbered, -⟩ := numbered_tale job'.server hplay
  have hrecord := Site.follows_record horderly hfair hnumbered hlt hfollows
  have hsite : f'.site job'.server = _ := site_play h hplay
  rw [← hsite] at hrecord
  have hsome : (f'.site job'.server).node?.isSome = (f.site job'.server).node?.isSome := by
    rw [hsite]
    exact Site.node?_foldl _ _
  have hthere : (f.site job'.server).node? = some node := hnode
  rw [hthere] at hsome
  obtain ⟨node', hnode'⟩ := Option.isSome_iff_exists.mp hsome
  exact ⟨rfl, node', hnode', hrecord job'.task node' (site_tasks_of_lookup hjob') hnode'⟩

end Fleet

end Memcache
