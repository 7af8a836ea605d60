import Memcache.Proofs.Fleet.Interleaving

/-!
# `Memcache.Proofs.Fleet.Shutdown` — what a disposal stops, and what gets past it

`Move.dispose` sets `Fleet.disposed` and `Move.close` sets `Pool.closed`, each once and for all. From
then on no thread gets past its check: `Move.notify` and `Move.inspect` have nothing to follow them.
A thread that had got past before is not held back, and `Move.rebuild`, `Move.publish` and
`Move.keep` do what they do. In orderly steps there is no such thread (`Interleaving.Stopped`), and
then nothing is undone (`Interleaving.Finished`).

## Contents

* `Interleaving.each_make`, `Interleaving.inPlace_step` — what moves and steps leave alone;
* `Interleaving.step_cases` — **a step begins a thread, or is a move**;
* `Interleaving.Closing`, `Interleaving.Stopped` — the invariants, of all steps and of orderly ones;
* `Interleaving.Finished`, `Interleaving.finished_step` — **what orderly steps leave as it is**.
-/

namespace Memcache

/-! ## Checks -/

/-- What a thread has checked before such a move is so: `Pool.closed` before `Move.keep`, and
    `Fleet.disposed` before `Move.rebuild` and `Move.publish`. -/
def Move.Cleared (f : Fleet) : Move → Prop
  | .keep server _ => f.isOpen server = true
  | .rebuild | .publish _ => f.disposed = false
  | _ => True

/-- A fleet with `Fleet.disposed`, and `Pool.closed` of all its pools. -/
structure Fleet.Closed (f : Fleet) : Prop where
  disposed : f.disposed = true
  pools : ∀ server node, f.nodes.lookup server = some node → node.pool.closed = true

theorem Fleet.exists_of_isOpen {f : Fleet} {server : Endpoint} (h : f.isOpen server = true) :
    ∃ node, f.nodes.lookup server = some node ∧ node.pool.closed = false := by
  obtain ⟨node, hnode, hopen⟩ := (Option.any_eq_true ..).mp h
  exact ⟨node, hnode, by simpa using hopen⟩

theorem Fleet.Closed.not_isOpen {f : Fleet} (h : f.Closed) (server : Endpoint) :
    f.isOpen server = false := by
  unfold isOpen
  cases hnode : f.nodes.lookup server with
  | none => rfl
  | some node => simp [h.pools server node hnode]

theorem Fleet.Closed.not_cleared_keep {f : Fleet} (h : f.Closed) (server : Endpoint)
    (c : Connection) : ¬ (Move.keep server c).Cleared f :=
  fun hopen => Bool.false_ne_true ((h.not_isOpen server).symm.trans hopen)

theorem Move.not_cleared_rebuild {f : Fleet} (h : f.disposed = true) :
    ¬ Move.rebuild.Cleared f :=
  fun hopen => Bool.false_ne_true (hopen.symm.trans h)

theorem Move.not_cleared_publish {f : Fleet} (h : f.disposed = true) (event : NodeEvent) :
    ¬ (Move.publish event).Cleared f :=
  fun hopen => Bool.false_ne_true (hopen.symm.trans h)

/-- In such a fleet a check is passed only where there is none. -/
theorem Move.Cleared.of_closed {f : Fleet} {m : Move} (h : m.Cleared f) (hclosed : f.Closed)
    (f' : Fleet) : m.Cleared f' := by
  cases m with
  | keep server c => exact absurd h (hclosed.not_cleared_keep server c)
  | rebuild => exact absurd h (not_cleared_rebuild hclosed.disposed)
  | publish event => exact absurd h (not_cleared_publish hclosed.disposed event)
  | _ => trivial

namespace Interleaving

variable {orderly : Bool} {s s' : Interleaving} {f : Fleet}

/-! ## What a step leaves alone -/

theorem kept_refl (spared : Ticket → Prop) (n : Node) : n.Kept spared n :=
  ⟨.refl .., id⟩

/-- No move opens a closed pool or takes a place in the queue, and only `Move.keep` makes
    connections idle. -/
theorem kept_make {m : Move} (hkeep : ∀ server c, m ≠ .keep server c) :
    f.Each (Node.Kept fun _ => True) (m.make f).1 := by
  have hpool : ∀ server (change : Pool → Pool),
      (∀ p : Pool, p.Stays (fun _ => True) (change p)) →
        f.Each (Node.Kept fun _ => True) (f.withPool server change) := by
    intro server change hchange
    exact Fleet.each_update (kept_refl _) fun n => ⟨hchange n.pool, id⟩
  cases m with
  | keep server c => exact absurd rfl (hkeep server c)
  | vacate server holder => exact hpool server _ fun p => p.stays_vacate holder
  | close server =>
      exact hpool server (fun p => { p with closed := true }) fun p =>
        ⟨rfl, rfl, fun _ => rfl, fun _ => id, fun _ _ => id⟩
  | clearIdle server => exact hpool server _ fun p => p.stays_clearIdle
  | record now server success =>
      refine Fleet.each_change (kept_refl _) fun n => ⟨n.stays_record now success, ?_⟩
      exact fun hlistening => (n.listening_record now success).trans hlistening
  | setUp now =>
      refine .of_eq (kept_refl _) ?_
      unfold Move.make
      dsimp only
      split <;> rfl
  | dispose =>
      refine .of_eq (kept_refl _) ?_
      unfold Move.make
      dsimp only
      split <;> rfl
  | inspect | finish | again | notify | rebuild | publish | halt => exact .of_eq (kept_refl _) rfl

/-- What is true whenever `Node.Kept` is, and of a connection that becomes idle by `Pool.keep`, is
    true of every move. -/
theorem each_make {R : Node → Node → Prop} (m : Move)
    (hkept : ∀ n n', n.Kept (fun _ => True) n' → R n n')
    (hkeep : ∀ (n : Node) c, R n { n with pool := n.pool.keep c }) : f.Each R (m.make f).1 := by
  by_cases hm : ∃ server c, m = .keep server c
  · obtain ⟨server, c, rfl⟩ := hm
    show f.Each R (f.update server fun node => ({ node with pool := node.pool.keep c }, none))
    exact Fleet.each_update (fun n => hkept n n (kept_refl _ n)) fun n => hkeep n c
  · exact (kept_make fun server c h => hm ⟨server, c, h⟩).mono hkept

/-- No move clears `Pool.closed`. -/
theorem closed_make (m : Move) :
    f.Each (fun n n' => n.pool.closed = true → n'.pool.closed = true) (m.make f).1 :=
  each_make m (fun _ _ hkept => hkept.pool.closed) fun n c =>
    (n.pool.closed_keep c).trans

theorem kept_mono {spared spared' : Ticket → Prop} {n n' : Node} (h : n.Kept spared n')
    (hspared : ∀ k, spared' k → spared k) : n.Kept spared' n' :=
  ⟨h.pool.mono hspared, h.listening⟩

theorem kept_marks {now : Time} {n : Node} {r : Node × Option NodeEvent} (h : n.Marks now r) :
    n.Kept (fun _ => True) r.1 := by
  cases h with
  | dead =>
      unfold Node.markDead
      split
      · exact ⟨n.pool.stays_clearIdle, id⟩
      · exact kept_refl ..
  | alive =>
      unfold Node.markAlive
      split
      · exact kept_refl ..
      · exact ⟨.refl .., id⟩

/-- The end of a command concerns the connection of its ticket, and nothing else of the node. -/
theorem kept_concluded {now : Time} {ticket : Ticket} {arrival? : Option Arrival} {n n' : Node}
    {t : Task} {reply : Reply} {result : Except ConnectionError Unit}
    (h : t.Concluded now ticket arrival? n n' reply result) : n.Kept (fun _ => True) n' := by
  cases h with
  | heard => exact ⟨n.pool.stays_putLease .., id⟩
  | interrupted => exact kept_refl ..

/-! ### Tasks -/

/-- A task that a move puts down is not in `Stage.queued`. -/
theorem lookup_of_make {m : Move} {ticket : Ticket} {job : Job} {deadline : Time}
    (hjob : (m.make f).1.jobs.lookup ticket = some job)
    (hstage : job.task.stage = .queued deadline) : f.jobs.lookup ticket = some job := by
  have hinsert : ∀ (other : Ticket) (put : Job),
      (f.jobs.insert other put).lookup ticket = some job → put.task.stage ≠ .queued deadline →
        f.jobs.lookup ticket = some job := by
    intro other put hlisted hput
    rw [Table.lookup_insert] at hlisted
    split at hlisted
    · obtain rfl := Option.some.inj hlisted
      exact absurd hstage hput
    · exact hlisted
  cases m with
  | finish other put result => exact hinsert other _ hjob fun hput => by cases hput
  | again other put => exact hinsert other _ hjob fun hput => by cases hput
  | record now server success =>
      exact (congrArg _ (f.jobs_change server _)).symm.trans hjob
  | keep | vacate | close | clearIdle =>
      exact (congrArg _ (Fleet.update_jobs ..)).symm.trans hjob
  | setUp now =>
      unfold Move.make at hjob
      dsimp only at hjob
      split at hjob <;> exact hjob
  | dispose =>
      unfold Move.make at hjob
      dsimp only at hjob
      split at hjob <;> exact hjob
  | inspect | notify | rebuild | publish | halt => exact hjob

/-- A move takes a place in the queue (`Pool.Waits`) from nobody. -/
theorem waits_make (m : Move) :
    f.Each (fun n n' => ∀ k, n.pool.Waits k → n'.pool.Waits k) (m.make f).1 :=
  each_make m (fun _ _ hkept k => hkept.pool.waits k trivial) fun n c _ hwaits =>
    hwaits.congr (congrArg _ (n.pool.claims_keep c))

/-- Who is in `Stage.queued` has a place in the pool as long as the pools leave it, and nobody has
    come in. -/
theorem inPlace_frame {f f' : Fleet} (h : f.InPlace)
    (hjobs : ∀ ticket job deadline, f'.jobs.lookup ticket = some job →
      job.task.stage = .queued deadline → f.jobs.lookup ticket = some job)
    (hnodes : f.Each (fun n n' => ∀ k, n.pool.Waits k → n'.pool.Waits k) f') : f'.InPlace := by
  intro ticket job deadline hjob hstage
  obtain ⟨node, hnode, hwaits⟩ := h ticket job deadline (hjobs ticket job deadline hjob hstage) hstage
  obtain ⟨node', hnode', hkept⟩ := hnodes.forth hnode
  exact ⟨node', hnode', hkept ticket hwaits⟩

/-- **Who waits for a permit has a place in the queue,** after every step (`Fleet.InPlace`). -/
theorem inPlace_step (hplace : s.fleet.InPlace) (h : s.Step orderly s') : s'.fleet.InPlace := by
  cases h with
  | deed now hone hact => exact Fleet.inPlace_act hplace hact
  | @turn now ticket arrival? job node turn hjob hturn =>
      -- whether the listener is called makes no difference to the tasks
      have hact : s.fleet.act now (.step ticket arrival?) = some (s.fleet.turned ticket job turn) :=
        congrArg (Option.map Prod.fst) (Fleet.step_of_turn hjob hturn)
      have hturned := Fleet.inPlace_act hplace hact
      intro k job' deadline hk hstage
      have hlisted : (s.fleet.turned ticket job turn).jobs.lookup k = some job' := by
        rw [Fleet.turned, Fleet.notify_jobs]
        exact hk
      obtain ⟨node', hnode', hplaced⟩ := hturned k job' deadline hlisted hstage
      rw [Fleet.turned, Fleet.notify_nodes] at hnode'
      exact ⟨node', hnode', hplaced⟩
  | @conclude now ticket arrival? job node node' command reply lease result hjob hpurpose hconcluded
      hlease =>
      have hkept := (kept_concluded hconcluded).pool.trans
        (Pool.stays_settle _ ticket (Verdict.succeeded result))
      refine inPlace_frame hplace (fun _ _ _ hk _ => Table.lookup_of_lookup_erase hk) ?_
      exact .of_insert (fun _ _ => id) (Fleet.job?_eq_some_iff.mp hjob).2
        (fun k => hkept.waits k trivial) rfl
  | connect ticket link hjob hpurpose hstage =>
      refine inPlace_frame hplace (fun _ _ _ hk _ => Table.lookup_of_lookup_erase hk) ?_
      exact .of_eq (fun _ _ => id) rfl
  | @mark now server change hchange =>
      refine inPlace_frame hplace
        (fun _ _ _ hk _ => (congrArg _ (s.fleet.jobs_change server change)).symm.trans hk) ?_
      exact Fleet.each_change (fun _ _ => id) fun n k =>
        (kept_marks (hchange n)).pool.waits k trivial
  | drop | settle | dispose | close | leave => exact hplace
  | @move before after m rest hthreads horderly =>
      exact inPlace_frame hplace (fun _ _ _ hk => lookup_of_make hk) (waits_make m)

/-! ## What is ahead -/

theorem cleared_callback {event? : Option NodeEvent} {m : Move} (h : m ∈ callback event?) :
    m.Cleared f := by
  obtain ⟨event, -, rfl⟩ := List.mem_map.mp h
  trivial

theorem cleared_giveBack {server : Endpoint} {holder : Ticket} {lease : Lease} {m : Move}
    (h : m ∈ giveBack server holder lease) : m.Cleared f := by
  unfold giveBack at h
  split at h
  · rcases List.mem_pair.mp h with rfl | rfl
    · trivial
    · trivial
  · obtain rfl := List.mem_singleton.mp h
    trivial

/-- **A move that was checked for follows only if the check says so** (`Move.Cleared`). -/
theorem cleared_make {m x : Move} (h : x ∈ (m.make f).2) : x.Cleared f := by
  cases m with
  | inspect server c =>
      unfold Move.make at h
      dsimp only at h
      split at h
      · next hopen =>
          obtain rfl := List.mem_singleton.mp h
          exact hopen
      · contradiction
  | notify event =>
      unfold Move.make at h
      dsimp only at h
      split at h
      · contradiction
      · next hdisposed =>
          rcases List.mem_pair.mp h with rfl | rfl
          · exact eq_false_of_ne_true hdisposed
          · exact eq_false_of_ne_true hdisposed
  | record now server success => exact cleared_callback h
  | dispose =>
      unfold Move.make at h
      dsimp only at h
      split at h
      · contradiction
      · rcases List.mem_cons.mp h with rfl | hclose
        · trivial
        · obtain ⟨server, -, rfl⟩ := List.mem_map.mp hclose
          trivial
  | close server =>
      obtain rfl := List.mem_singleton.mp h
      trivial
  | keep | vacate | finish | again | rebuild | publish | setUp | halt | clearIdle => contradiction

theorem mem_ahead_begin {thread : List Move} {m : Move} :
    m ∈ (s.begin thread).ahead ↔ m ∈ s.ahead ∨ m ∈ thread := by
  unfold ahead begin
  simp

/-- What a step that is no move does: a thread begins, and only a start has moves to make that are
    not `Move.Cleared`. -/
structure Begun (orderly : Bool) (s s' : Interleaving) : Prop where
  nodes : s.fleet.Each (Node.Kept fun _ => False) s'.fleet
  disposed : s'.fleet.disposed = s.fleet.disposed
  ring : s.fleet.disposed = true → s'.fleet.ring = s.fleet.ring
  events : s.fleet.disposed = true → s'.fleet.events = s.fleet.events ∨ s'.fleet.events = []
  kept : ∀ m ∈ s.ahead, m ∈ s'.ahead
  new : orderly = true → ∀ m ∈ s'.ahead, m ∈ s.ahead ∨ m.Cleared s.fleet

/-- A thread begins, and the fleet is as it was but for its nodes and its tasks. -/
theorem begun_begin {thread : List Move} (hnodes : s.fleet.Each (Node.Kept fun _ => False) f)
    (hdisposed : f.disposed = s.fleet.disposed) (hring : f.ring = s.fleet.ring)
    (hevents : f.events = s.fleet.events) (hthread : ∀ m ∈ thread, ∀ f, m.Cleared f) :
    Begun orderly s (begin { s with fleet := f } thread) where
  nodes := hnodes
  disposed := hdisposed
  ring _ := hring
  events _ := .inl hevents
  kept _ hm := mem_ahead_begin.mpr (.inl hm)
  new _ m hm := (mem_ahead_begin.mp hm).imp_right fun hnew => hthread m hnew _

/-- A deed that is one move (`Deed.isOneMove`). -/
theorem begun_deed {now : Time} {deed : Deed} (hone : deed.isOneMove = true)
    (hact : s.fleet.act now deed = some f) : Begun orderly s { s with fleet := f } := by
  have hruled := Fleet.ruled_act hact
  have hdispose : deed ≠ .dispose := by
    rintro rfl
    contradiction
  have hsettled : deed ≠ .settled := by
    rintro rfl
    contradiction
  refine ⟨?_, ?_, fun hdisposed => hruled.ring hdisposed hsettled, hruled.events, fun _ => id,
    fun _ _ => .inl⟩
  · exact (Fleet.kept_act hact).mono fun _ _ hkept => kept_mono hkept nofun
  · rw [hruled.disposed, decide_eq_false hdispose, Bool.or_false]

/-- **A step begins a thread, or is the move of one**: what it had in `Interleaving.ahead` before is
    its move and the others, and what it has there then is what `Move.make` makes it do and the
    others. -/
theorem step_cases (h : s.Step orderly s') :
    Begun orderly s s' ∨
      ∃ (m : Move) (others : List Move), s'.fleet = (m.make s.fleet).1 ∧
        (orderly = true → s.NonePast m) ∧ (∀ x, x ∈ s.ahead ↔ x = m ∨ x ∈ others) ∧
        ∀ x, x ∈ s'.ahead ↔ x ∈ (m.make s.fleet).2 ∨ x ∈ others := by
  have hrefl := kept_refl fun _ => False
  cases h with
  | deed now hone hact => exact .inl (begun_deed hone hact)
  | turn now ticket arrival? hjob hturn =>
      have hlawful := Task.lawful_step hturn
      refine .inl (begun_begin ?_ rfl rfl rfl fun _ hm _ => cleared_callback hm)
      refine .of_insert hrefl (Fleet.job?_eq_some_iff.mp hjob).2 ?_ rfl
      exact ⟨hlawful.pool.mono nofun, fun hlistening => hlawful.listening.trans hlistening⟩
  | conclude now ticket arrival? hjob hpurpose hconcluded hlease =>
      have hkept := kept_concluded hconcluded
      refine .inl (begun_begin ?_ rfl rfl rfl fun _ hm _ => ?_)
      · refine .of_insert hrefl (Fleet.job?_eq_some_iff.mp hjob).2 ?_ rfl
        exact ⟨(hkept.pool.trans (Pool.stays_settle ..)).mono nofun, hkept.listening⟩
      · rcases List.mem_append.mp hm with hback | hrest
        · exact cleared_giveBack hback
        · rcases List.mem_pair.mp hrest with rfl | rfl
          · trivial
          · trivial
  | connect ticket link hjob hpurpose hstage =>
      refine .inl (begun_begin (.of_eq hrefl rfl) rfl rfl rfl fun _ hm _ => ?_)
      rcases List.mem_pair.mp hm with rfl | rfl
      · trivial
      · trivial
  | mark now server hchange =>
      obtain ⟨hdisposed, hring, hevents⟩ := s.fleet.change_eq server _
      refine .inl (begun_begin ?_ hdisposed hring hevents fun _ hm _ => cleared_callback hm)
      exact Fleet.each_change hrefl fun n => kept_mono (kept_marks (hchange n)) nofun
  | drop hnode hlease =>
      refine .inl (begun_begin (.of_eq hrefl rfl) rfl rfl rfl ?_)
      exact fun _ hm _ => cleared_giveBack hm
  | dispose | close =>
      refine .inl (begun_begin (.of_eq hrefl rfl) rfl rfl rfl fun m hm _ => ?_)
      obtain rfl := List.mem_singleton.mp hm
      trivial
  | settle now horderly =>
      refine .inl ⟨.of_eq hrefl rfl, rfl, fun _ => rfl, fun _ => .inl rfl,
        fun m hm => mem_ahead_begin.mpr (.inl hm), fun htrue m hm => ?_⟩
      rcases mem_ahead_begin.mp hm with hbefore | hnew
      · exact .inl hbefore
      · rcases List.mem_pair.mp hnew with rfl | rfl
        · exact .inr (horderly htrue)
        · exact .inr trivial
  | leave before after hthreads =>
      have hahead : ∀ m, m ∈ s.ahead ↔ m ∈ ahead { s with threads := before ++ after } := by
        intro m
        unfold ahead
        rw [hthreads]
        simp
      exact .inl ⟨.of_eq hrefl rfl, rfl, fun _ => rfl, fun _ => .inl rfl,
        fun m => (hahead m).mp, fun _ m hm => .inl ((hahead m).mpr hm)⟩
  | @move before after m rest hthreads horderly =>
      refine .inr ⟨m, before.flatten ++ rest ++ after.flatten, rfl, horderly, fun x => ?_,
        fun x => ?_⟩
      · unfold ahead
        rw [hthreads]
        simp only [List.flatten_append, List.flatten_cons, List.mem_append, List.mem_cons,
          or_assoc]
        exact or_left_comm
      · unfold ahead
        simp only [List.flatten_append, List.flatten_cons, List.mem_append, or_assoc]
        exact or_left_comm

/-! ## What a move does to the flags -/

/-- Only `Move.dispose` sets `Fleet.disposed`, only `Move.rebuild` changes the ring, and only
    `Move.publish` publishes. -/
theorem make_frame (f : Fleet) (m : Move) :
    (m ≠ .dispose → (m.make f).1.disposed = f.disposed) ∧
      (m ≠ .rebuild → (m.make f).1.ring = f.ring) ∧
      ((∀ event, m ≠ .publish event) → (m.make f).1.events = f.events) := by
  have hpool : ∀ server (change : Pool → Pool),
      (f.withPool server change).disposed = f.disposed ∧
        (f.withPool server change).ring = f.ring ∧
        (f.withPool server change).events = f.events := by
    intro server change
    cases hnode : f.nodes.lookup server with
    | none =>
        rw [Fleet.withPool_of_none hnode]
        exact ⟨rfl, rfl, rfl⟩
    | some node =>
        rw [Fleet.withPool_of_lookup hnode]
        exact ⟨rfl, rfl, rfl⟩
  cases m with
  | keep server c | vacate server c =>
      obtain ⟨hdisposed, hring, hevents⟩ := hpool server _
      exact ⟨fun _ => hdisposed, fun _ => hring, fun _ => hevents⟩
  | close server | clearIdle server =>
      obtain ⟨hdisposed, hring, hevents⟩ := hpool server _
      exact ⟨fun _ => hdisposed, fun _ => hring, fun _ => hevents⟩
  | record now server success =>
      obtain ⟨hdisposed, hring, hevents⟩ := f.change_eq server _
      exact ⟨fun _ => hdisposed, fun _ => hring, fun _ => hevents⟩
  | setUp now =>
      unfold Move.make
      dsimp only
      split <;> exact ⟨fun _ => rfl, fun _ => rfl, fun _ => rfl⟩
  | dispose =>
      refine ⟨fun hother => absurd rfl hother, fun _ => ?_, fun _ => ?_⟩
      all_goals
        unfold Move.make
        dsimp only
        split <;> rfl
  | rebuild => exact ⟨fun _ => rfl, fun hother => absurd rfl hother, fun _ => rfl⟩
  | publish event => exact ⟨fun _ => rfl, fun _ => rfl, fun hother => absurd rfl (hother event)⟩
  | inspect | finish | again | notify | halt => exact ⟨fun _ => rfl, fun _ => rfl, fun _ => rfl⟩

theorem disposed_make {m : Move} (h : f.disposed = true) : (m.make f).1.disposed = true := by
  by_cases hdispose : m = .dispose
  · subst hdispose
    rw [show Move.make f .dispose = (f, []) from if_pos h]
    exact h
  · exact ((make_frame f m).1 hdispose).trans h

/-- After `Move.dispose` every pool is to be closed, by `Move.close`. -/
theorem make_dispose (h : f.disposed = false) :
    Move.make f .dispose = ({ f with disposed := true }, .halt :: f.nodes.keys.map .close) :=
  if_neg (by simp [h])

/-- A closed pool with no idle connection stays so, unless `Move.keep` makes one idle there. -/
theorem idle_make {m : Move} {server : Endpoint} {node' : Node} (hkeep : ∀ c, m ≠ .keep server c)
    (hnode' : (m.make f).1.nodes.lookup server = some node') :
    ∃ node, f.nodes.lookup server = some node ∧
      (node.pool.closed = true → node.pool.idle = [] → node'.pool.idle = []) := by
  by_cases hm : ∃ other c, m = .keep other c
  · obtain ⟨other, c, rfl⟩ := hm
    have hne : server ≠ other := by
      rintro rfl
      exact hkeep c rfl
    exact ⟨node', (Fleet.lookup_withPool_of_ne hne _).symm.trans hnode', fun _ => id⟩
  · have hkept := kept_make (f := f) fun other c h => hm ⟨other, c, h⟩
    obtain ⟨node, hnode, hnode''⟩ := hkept.back hnode'
    exact ⟨node, hnode, hnode''.pool.idle⟩

/-! ## What is true of every run -/

/-- A pool of a fleet with `Fleet.disposed` is closed, or `Move.close` of it is ahead. -/
def Closing (s : Interleaving) : Prop :=
  s.fleet.disposed = true → ∀ server node, s.fleet.nodes.lookup server = some node →
    node.pool.closed = true ∨ .close server ∈ s.ahead

/-- Whoever is the first to set `Fleet.disposed` disposes of the fleet. -/
theorem eq_dispose {m : Move} (hbefore : s.fleet.disposed ≠ true)
    (hafter : (m.make s.fleet).1.disposed = true) : m = .dispose := by
  by_contra hother
  exact hbefore (((make_frame _ m).1 hother).symm.trans hafter)

theorem closing_step (hclosing : s.Closing) (h : s.Step orderly s') : s'.Closing := by
  intro hdisposed server node' hnode'
  rcases step_cases h with hbegun | ⟨m, others, hfleet, -, hbefore, hafter⟩
  · obtain ⟨node, hnode, hkept⟩ := hbegun.nodes.back hnode'
    rcases hclosing (hbegun.disposed ▸ hdisposed) server node hnode with hclosed | hahead
    · exact .inl (hkept.pool.closed hclosed)
    · exact .inr (hbegun.kept _ hahead)
  · rw [hfleet] at hdisposed hnode'
    obtain ⟨node, hnode, hstays⟩ := (closed_make m).back hnode'
    by_cases halready : s.fleet.disposed = true
    · rcases hclosing halready server node hnode with hclosed | hahead
      · exact .inl (hstays hclosed)
      · rcases (hbefore _).mp hahead with rfl | hother
        · obtain ⟨_, _, hpool⟩ := Fleet.lookup_withPool hnode'
          exact .inl (by rw [hpool])
        · exact .inr ((hafter _).mpr (.inr hother))
    -- this is the disposal, which has all pools still to close
    · obtain rfl := eq_dispose halready hdisposed
      refine .inr ((hafter _).mpr (.inl ?_))
      rw [make_dispose (eq_false_of_ne_true halready)]
      exact List.mem_cons_of_mem _ (List.mem_map_of_mem (Table.mem_keys_of_lookup hnode))

/-- **A closed fleet stays closed** (`Fleet.Closed`), in every run. -/
theorem closed_step (hclosed : s.fleet.Closed) (h : s.Step orderly s') : s'.fleet.Closed := by
  obtain ⟨hdisposed, hpools⟩ := hclosed
  rcases step_cases h with hbegun | ⟨m, others, hfleet, -⟩
  · refine ⟨hbegun.disposed.trans hdisposed, fun server node' hnode' => ?_⟩
    obtain ⟨node, hnode, hkept⟩ := hbegun.nodes.back hnode'
    exact hkept.pool.closed (hpools server node hnode)
  · rw [hfleet]
    refine ⟨disposed_make hdisposed, fun server node' hnode' => ?_⟩
    obtain ⟨node, hnode, hstays⟩ := (closed_make m).back hnode'
    exact hstays (hpools server node hnode)

/-! ## What is true of orderly runs -/

/-- What is true of orderly runs in addition to `Interleaving.Closing`. -/
structure Stopped (s : Interleaving) : Prop where
  closing : s.Closing
  known : ∀ server c, .keep server c ∈ s.ahead → ∃ node, s.fleet.nodes.lookup server = some node
  /-- No thread rebuilds the ring or publishes any more. -/
  unpublished : s.fleet.disposed = true → .rebuild ∉ s.ahead ∧ ∀ event, .publish event ∉ s.ahead
  /-- A connection becomes idle only as long as its pool has still to be closed. -/
  keep : s.fleet.disposed = true → ∀ server c, .keep server c ∈ s.ahead → .close server ∈ s.ahead
  idle : s.fleet.disposed = true → ∀ server node, s.fleet.nodes.lookup server = some node →
    .close server ∉ s.ahead → node.pool.idle = [] ∨ .clearIdle server ∈ s.ahead

/-- Where a connection is about to become idle, by `Move.keep`, or may become so, the pool has still
    to be closed. -/
theorem Stopped.close_ahead {server : Endpoint} {c : Connection} (h : s.Stopped)
    (hdisposed : s.fleet.disposed = true)
    (hkeep : .keep server c ∈ s.ahead ∨ s.fleet.isOpen server = true) : .close server ∈ s.ahead := by
  rcases hkeep with hahead | hopen
  · exact h.keep hdisposed server c hahead
  · obtain ⟨node, hnode, hnot⟩ := Fleet.exists_of_isOpen hopen
    rcases h.closing hdisposed server node hnode with hclosed | hclose
    · rw [hclosed] at hnot
      contradiction
    · exact hclose

section Frame
variable (h : s.Stopped) (hnew : ∀ m ∈ s'.ahead, m ∈ s.ahead ∨ m.Cleared s.fleet)
include h hnew

theorem known_frame {R : Node → Node → Prop} (hnodes : s.fleet.Each R s'.fleet) {server : Endpoint}
    {c : Connection} (hkeep : .keep server c ∈ s'.ahead) :
    ∃ node, s'.fleet.nodes.lookup server = some node := by
  have hbefore : ∃ node, s.fleet.nodes.lookup server = some node := by
    rcases hnew _ hkeep with hahead | hopen
    · exact h.known server c hahead
    · obtain ⟨node, hnode, -⟩ := Fleet.exists_of_isOpen hopen
      exact ⟨node, hnode⟩
  obtain ⟨node, hnode⟩ := hbefore
  obtain ⟨node', hnode', -⟩ := hnodes.forth hnode
  exact ⟨node', hnode'⟩

theorem unpublished_frame (hdisposed : s.fleet.disposed = true) :
    .rebuild ∉ s'.ahead ∧ ∀ event, .publish event ∉ s'.ahead := by
  obtain ⟨hrebuild, hpublish⟩ := h.unpublished hdisposed
  refine ⟨fun hahead => ?_, fun event hahead => ?_⟩
  · rcases hnew _ hahead with hbefore | hcleared
    · exact hrebuild hbefore
    · exact Move.not_cleared_rebuild hdisposed hcleared
  · rcases hnew _ hahead with hbefore | hcleared
    · exact hpublish event hbefore
    · exact Move.not_cleared_publish hdisposed event hcleared

end Frame

/-- A thread that begins changes nothing about `Interleaving.Stopped`. -/
theorem stopped_begun (h : s.Stopped) (hclosing : s'.Closing) (hbegun : Begun true s s') :
    s'.Stopped := by
  have hdisposed : s'.fleet.disposed = true → s.fleet.disposed = true := by
    rw [hbegun.disposed]
    exact id
  refine ⟨hclosing, fun server c => known_frame h (hbegun.new rfl) hbegun.nodes,
    fun hafter => unpublished_frame h (hbegun.new rfl) (hdisposed hafter), ?_, ?_⟩
  · intro hafter server c hkeep
    exact hbegun.kept _ (h.close_ahead (hdisposed hafter) (hbegun.new rfl _ hkeep))
  · intro hafter server node' hnode' hclose
    have hbefore : .close server ∉ s.ahead := fun hahead => hclose (hbegun.kept _ hahead)
    obtain ⟨node, hnode, hkept⟩ := hbegun.nodes.back hnode'
    have hclosed := (h.closing (hdisposed hafter) server node hnode).resolve_right hbefore
    rcases h.idle (hdisposed hafter) server node hnode hbefore with hidle | hclear
    · exact .inl (hkept.pool.idle hclosed hidle)
    · exact .inr (hbegun.kept _ hclear)

/-- **The disposal**: no thread is past a check of `Fleet.disposed`, and every pool has still to be
    closed. -/
theorem stopped_dispose {others : List Move} (h : s.Stopped) (hclosing : s'.Closing)
    (hpast : s.NonePast .dispose)
    (hfleet : s'.fleet = { s.fleet with disposed := true })
    (hbefore : ∀ x, x ∈ s.ahead ↔ x = .dispose ∨ x ∈ others)
    (hafter : ∀ x, x ∈ s'.ahead ↔ x ∈ .halt :: s.fleet.nodes.keys.map .close ∨ x ∈ others) :
    s'.Stopped := by
  have hnodes : s'.fleet.nodes = s.fleet.nodes := by rw [hfleet]
  -- whatever is neither a halt nor a close was ahead before
  have hold : ∀ x, x ∈ s'.ahead → x ≠ .halt → (∀ server, x ≠ .close server) → x ∈ s.ahead := by
    intro x hahead hhalt hclose
    rcases (hafter x).mp hahead with hnew | hother
    · rcases List.mem_cons.mp hnew with heq | hmem
      · exact absurd heq hhalt
      · obtain ⟨server, -, heq⟩ := List.mem_map.mp hmem
        exact absurd heq.symm (hclose server)
    · exact (hbefore x).mpr (.inr hother)
  have hclose : ∀ server node, s.fleet.nodes.lookup server = some node →
      .close server ∈ s'.ahead := by
    intro server node hnode
    have hmem : server ∈ s.fleet.nodes.keys := Table.mem_keys_of_lookup hnode
    exact (hafter _).mpr (.inl (List.mem_cons_of_mem _ (List.mem_map_of_mem hmem)))
  refine ⟨hclosing, fun server c hkeep => ?_, fun _ => ⟨fun hahead => ?_, fun event hahead => ?_⟩,
    fun _ server c hkeep => ?_, fun _ server node hnode hnot => ?_⟩
  · rw [hnodes]
    exact h.known server c (hold _ hkeep nofun nofun)
  · exact hpast.1 (hold _ hahead nofun nofun)
  · exact hpast.2 event (hold _ hahead nofun nofun)
  · obtain ⟨node, hnode⟩ := h.known server c (hold _ hkeep nofun nofun)
    exact hclose server node hnode
  · rw [hnodes] at hnode
    exact absurd (hclose server node hnode) hnot

/-- Any other move, whether or not `Fleet.disposed` is set. -/
theorem stopped_move {m : Move} {others : List Move} (h : s.Stopped) (hclosing : s'.Closing)
    (hpast : s.NonePast m) (hfleet : s'.fleet = (m.make s.fleet).1)
    (hdisposed : s'.fleet.disposed = true → s.fleet.disposed = true)
    (hbefore : ∀ x, x ∈ s.ahead ↔ x = m ∨ x ∈ others)
    (hafter : ∀ x, x ∈ s'.ahead ↔ x ∈ (m.make s.fleet).2 ∨ x ∈ others) : s'.Stopped := by
  have hother : ∀ x ∈ others, x ∈ s'.ahead := fun x hx => (hafter x).mpr (.inr hx)
  have hnew : ∀ x ∈ s'.ahead, x ∈ s.ahead ∨ x.Cleared s.fleet := by
    intro x hahead
    rcases (hafter x).mp hahead with hmade | hx
    · exact .inr (cleared_make hmade)
    · exact .inl ((hbefore x).mpr (.inr hx))
  have hnodes : s.fleet.Each _ s'.fleet := hfleet ▸ closed_make m
  refine ⟨hclosing, fun server c => known_frame h hnew hnodes,
    fun hafterwards => unpublished_frame h hnew (hdisposed hafterwards), ?_, ?_⟩
  · intro hafterwards server c hkeep
    rcases (hbefore _).mp (h.close_ahead (hdisposed hafterwards) (hnew _ hkeep)) with rfl | hclose
    -- its pool is closed in this very move, when nobody is about to make a connection idle
    · rcases (hafter _).mp hkeep with hmade | hx
      · exact absurd (List.mem_singleton.mp hmade) nofun
      · exact absurd ((hbefore _).mpr (.inr hx)) (hpast c)
    · exact hother _ hclose
  · intro hafterwards server node' hnode' hclose
    by_cases hisClose : m = .close server
    · subst hisClose
      exact .inr ((hafter _).mpr (.inl List.mem_cons_self))
    by_cases hisClear : m = .clearIdle server
    · subst hisClear
      rw [hfleet] at hnode'
      obtain ⟨_, _, hpool⟩ := Fleet.lookup_withPool hnode'
      exact .inl (by rw [hpool]; rfl)
    have hnot : .close server ∉ s.ahead := by
      intro hahead
      rcases (hbefore _).mp hahead with heq | hx
      · exact hisClose heq.symm
      · exact hclose (hother _ hx)
    have hkeep : ∀ c, m ≠ .keep server c := by
      rintro c rfl
      exact hnot (h.keep (hdisposed hafterwards) server c ((hbefore _).mpr (.inl rfl)))
    obtain ⟨node, hnode, hidle⟩ := idle_make hkeep (hfleet ▸ hnode')
    have hclosed := (h.closing (hdisposed hafterwards) server node hnode).resolve_right hnot
    rcases h.idle (hdisposed hafterwards) server node hnode hnot with hempty | hclear
    · exact .inl (hidle hclosed hempty)
    · exact .inr (hother _ (((hbefore _).mp hclear).resolve_left (Ne.symm hisClear)))

/-- **What is true of orderly runs, `Interleaving.Stopped`,** step after step. -/
theorem stopped_step (hstopped : s.Stopped) (h : s.Step true s') : s'.Stopped := by
  have hclosing := closing_step hstopped.closing h
  rcases step_cases h with hbegun | ⟨m, others, hfleet, hpast, hbefore, hafter⟩
  · exact stopped_begun hstopped hclosing hbegun
  · by_cases hdisposal : s.fleet.disposed = false ∧ m = .dispose
    · obtain ⟨hopen, rfl⟩ := hdisposal
      rw [make_dispose hopen] at hfleet hafter
      exact stopped_dispose hstopped hclosing (hpast rfl) hfleet hbefore hafter
    · refine stopped_move hstopped hclosing (hpast rfl) hfleet ?_ hbefore hafter
      intro hafterwards
      by_contra hopen
      rw [hfleet] at hafterwards
      exact hdisposal ⟨eq_false_of_ne_true hopen, eq_dispose hopen hafterwards⟩

/-! ## Once a disposal is over -/

/-- The disposal is over: nothing of it is still ahead. -/
structure Over (s : Interleaving) : Prop where
  disposed : s.fleet.disposed = true
  close : ∀ server, .close server ∉ s.ahead
  clearIdle : ∀ server, .clearIdle server ∉ s.ahead

theorem over_nil (h : f.disposed = true) : Over ⟨f, []⟩ :=
  ⟨h, fun _ => List.not_mem_nil, fun _ => List.not_mem_nil⟩

theorem Over.closed (h : s.Over) (hclosing : s.Closing) : s.fleet.Closed :=
  ⟨h.disposed, fun server node hnode =>
    (hclosing h.disposed server node hnode).resolve_right (h.close server)⟩

/-- The fleet is `Fleet.Closed`, every `Pool.idle` is empty, and no thread is past a check. -/
structure Finished (s : Interleaving) : Prop where
  closed : s.fleet.Closed
  idle : ∀ server node, s.fleet.nodes.lookup server = some node → node.pool.idle = []
  cleared : ∀ m ∈ s.ahead, m.Cleared s.fleet

/-- So it is when the disposal is `Interleaving.Over`. -/
theorem Over.finished (h : s.Over) (hstopped : s.Stopped) : s.Finished := by
  obtain ⟨hrebuild, hpublish⟩ := hstopped.unpublished h.disposed
  refine ⟨h.closed hstopped.closing, fun server node hnode => ?_, fun m hm => ?_⟩
  · have hidle := hstopped.idle h.disposed server node hnode (h.close server)
    exact hidle.resolve_right (h.clearIdle server)
  · cases m with
    | keep server c => exact absurd (hstopped.keep h.disposed server c hm) (h.close server)
    | rebuild => exact absurd hm hrebuild
    | publish event => exact absurd hm (hpublish event)
    | _ => trivial

theorem Finished.nonePast (h : s.Finished) (m : Move) : s.NonePast m := by
  cases m with
  | dispose =>
      refine ⟨fun hahead => ?_, fun event hahead => ?_⟩
      · exact Move.not_cleared_rebuild h.closed.disposed (h.cleared _ hahead)
      · exact Move.not_cleared_publish h.closed.disposed event (h.cleared _ hahead)
  | close server =>
      intro c hahead
      exact h.closed.not_cleared_keep server c (h.cleared _ hahead)
  | _ => trivial

/-- **Orderly steps undo nothing of a disposal**: `Fleet.ring` stays, nothing is published, and no
    connection becomes idle. -/
theorem finished_step (hfinished : s.Finished) (h : s.Step true s') :
    s'.Finished ∧ s'.fleet.ring = s.fleet.ring ∧
      (s'.fleet.events = s.fleet.events ∨ s'.fleet.events = []) := by
  have hclosed := closed_step hfinished.closed h
  obtain ⟨⟨hdisposed, hpools⟩, hidle, hcleared⟩ := id hfinished
  rcases step_cases h with hbegun | ⟨m, others, hfleet, -, hbefore, hafter⟩
  · refine ⟨⟨hclosed, fun server node' hnode' => ?_, fun m hm => ?_⟩, hbegun.ring hdisposed,
      hbegun.events hdisposed⟩
    · obtain ⟨node, hnode, hkept⟩ := hbegun.nodes.back hnode'
      exact hkept.pool.idle (hpools server node hnode) (hidle server node hnode)
    · rcases hbegun.new rfl m hm with hahead | hnew
      · exact (hcleared m hahead).of_closed hfinished.closed _
      · exact hnew.of_closed hfinished.closed _
  · have hnow : m.Cleared s.fleet := hcleared m ((hbefore m).mpr (.inl rfl))
    -- the move is none of those that a check comes before
    have hkeep : ∀ server c, m ≠ .keep server c := by
      rintro server c rfl
      exact hfinished.closed.not_cleared_keep server c hnow
    have hrebuild : m ≠ .rebuild := by
      rintro rfl
      exact Move.not_cleared_rebuild hdisposed hnow
    have hpublish : ∀ event, m ≠ .publish event := by
      rintro event rfl
      exact Move.not_cleared_publish hdisposed event hnow
    obtain ⟨-, hring, hevents⟩ := make_frame s.fleet m
    refine ⟨⟨hclosed, fun server node' hnode' => ?_, fun x hx => ?_⟩, ?_, .inl ?_⟩
    · obtain ⟨node, hnode, hstays⟩ := idle_make (hkeep server) (hfleet ▸ hnode')
      exact hstays (hpools server node hnode) (hidle server node hnode)
    · rcases (hafter x).mp hx with hmade | hother
      · exact (cleared_make hmade).of_closed hfinished.closed _
      · exact (hcleared x ((hbefore x).mpr (.inr hother))).of_closed hfinished.closed _
    · rw [hfleet, hring hrebuild]
    · rw [hfleet, hevents hpublish]

/-! ## Runs -/

section Runs
variable (h : s.Steps orderly s')
include h

theorem keys_steps (hkeys : s.fleet.nodes.keys.Nodup) : s'.fleet.nodes.keys.Nodup := by
  induction h with
  | refl => exact hkeys
  | tail _ hlast ih =>
      rcases step_cases hlast with hbegun | ⟨m, others, hfleet, -⟩
      · exact hbegun.nodes.keys ih
      · exact hfleet ▸ (closed_make m).keys ih

theorem inPlace_steps (hplace : s.fleet.InPlace) : s'.fleet.InPlace := by
  induction h with
  | refl => exact hplace
  | tail _ hlast ih => exact inPlace_step ih hlast

theorem closing_steps (hclosing : s.Closing) : s'.Closing := by
  induction h with
  | refl => exact hclosing
  | tail _ hlast ih => exact closing_step ih hlast

theorem closed_steps (hclosed : s.fleet.Closed) : s'.fleet.Closed := by
  induction h with
  | refl => exact hclosed
  | tail _ hlast ih => exact closed_step ih hlast

end Runs

theorem stopped_steps (hstopped : s.Stopped) (h : s.Steps true s') : s'.Stopped := by
  induction h with
  | refl => exact hstopped
  | tail _ hlast ih => exact stopped_step ih hlast

theorem finished_steps (hfinished : s.Finished) (h : s.Steps true s') :
    s'.Finished ∧ s'.fleet.ring = s.fleet.ring ∧
      (s'.fleet.events = s.fleet.events ∨ s'.fleet.events = []) := by
  induction h with
  | refl => exact ⟨hfinished, rfl, .inl rfl⟩
  | tail _ hlast ih =>
      obtain ⟨hbefore, hring, hevents⟩ := ih
      obtain ⟨hafter, hring', hevents'⟩ := finished_step hbefore hlast
      refine ⟨hafter, hring'.trans hring, ?_⟩
      rcases hevents' with hsame | hdrained
      · rwa [hsame]
      · exact .inr hdrained

/-- With no thread in the middle of anything, `Interleaving.Stopped` is true of a fleet that is not
    disposed of. -/
theorem stopped_of_open (hopen : f.disposed = false) : Stopped ⟨f, []⟩ where
  closing hdisposed := absurd (hopen.symm.trans hdisposed) Bool.false_ne_true
  known _ _ hkeep := absurd hkeep List.not_mem_nil
  unpublished _ := ⟨List.not_mem_nil, fun _ => List.not_mem_nil⟩
  keep _ _ _ hkeep := absurd hkeep List.not_mem_nil
  idle hdisposed := absurd (hopen.symm.trans hdisposed) Bool.false_ne_true

end Interleaving

end Memcache
