import Mathlib.Logic.Relation
import Memcache.Fleet

/-!
# `Memcache.Proofs.Fleet.Turnover` — changes of nodes that overlap

`Fleet.markDead` and `Fleet.markAlive` change a node, rebuild the ring and publish the change in one
go. Several callers that do so at the same time overlap: a flag flips first, the callback comes
later (`Turnover.raised`), it has to wait for the lock of the ring (`Turnover.waiting`), asks the
nodes one by one while other flags flip (`Turnover.rebuild?`), and stores the ring that it made of
the answers. `Turnover` is a fleet with all such callbacks under way, and `Turnover.Step` any one
move of any one of them.

## Contents

* `Rebuild`, `Turnover`, `Turnover.Step` — callbacks under way and their moves;
* `Fleet.Unmoved` — the changes of a fleet that are nobody's callback;
* `Turnover.update_steps` — **a change made in one go is one of the runs**.
-/

namespace Memcache

/-! ## Flags -/

/-- What a call that may change `Node.alive` makes of the node: it is `Node.markDead` or
    `Node.markAlive`. -/
inductive Node.Marks (now : Time) (n : Node) : Node × Option NodeEvent → Prop where
  | dead : n.Marks now (n.markDead now)
  | alive : n.Marks now n.markAlive

/-- A node with `Node.listening` whose flag flips announces it, and goes on being listened to. -/
theorem Node.Marks.announced {now : Time} {n n' : Node} {event? : Option NodeEvent}
    (h : n.Marks now (n', event?)) :
    n'.listening = n.listening ∧
      (n'.alive = n.alive ∨ (n.listening = true → ∃ event, event? = some event)) := by
  generalize hr : (n', event?) = r at h
  cases h with
  | dead =>
      unfold markDead at hr
      split at hr
      · obtain ⟨rfl, rfl⟩ := Prod.mk.inj hr
        exact ⟨rfl, .inr fun hlisten => ⟨_, if_pos hlisten⟩⟩
      · obtain ⟨rfl, rfl⟩ := Prod.mk.inj hr
        exact ⟨rfl, .inl rfl⟩
  | alive =>
      unfold markAlive at hr
      split at hr
      · obtain ⟨rfl, rfl⟩ := Prod.mk.inj hr
        exact ⟨rfl, .inl rfl⟩
      · obtain ⟨rfl, rfl⟩ := Prod.mk.inj hr
        exact ⟨rfl, .inr fun hlisten => ⟨_, if_pos hlisten⟩⟩

namespace Fleet

/-- The flag of a node, `Node.alive`, and whether its changes are announced, `Node.listening`. -/
def flags? (f : Fleet) (e : Endpoint) : Option (Bool × Bool) :=
  (f.nodes.lookup e).map fun n => (n.alive, n.listening)

theorem isAlive?_eq_flags? (f : Fleet) (e : Endpoint) :
    f.isAlive? e = (f.flags? e).map Prod.fst := by
  unfold isAlive? flags?
  cases f.nodes.lookup e with
  | none => rfl
  | some n => rfl

/-- A change that leaves alone `Fleet.flags?` of all nodes, `Fleet.ring` and `Fleet.disposed`. -/
structure Unmoved (f f' : Fleet) : Prop where
  flags : ∀ e, f'.flags? e = f.flags? e
  ring : f'.ring = f.ring
  disposed : f'.disposed = f.disposed

theorem spawnAll_nodes (f : Fleet) (tasks : List (Endpoint × Purpose)) :
    (f.spawnAll tasks).1.nodes = f.nodes := by
  induction tasks generalizing f with
  | nil => rfl
  | cons task rest ih => exact ih _

theorem spawnAll_disposed (f : Fleet) (tasks : List (Endpoint × Purpose)) :
    (f.spawnAll tasks).1.disposed = f.disposed := by
  induction tasks generalizing f with
  | nil => rfl
  | cons task rest ih => exact ih _

end Fleet

/-! ## Callbacks under way -/

/-- A ring being built under its lock: the announcement that it is built for, or none if it is built
    for a start; the nodes that are not asked yet, in `left`; and those that said they are alive. -/
structure Rebuild where
  cause? : Option NodeEvent
  left : List Endpoint
  alive : List Endpoint := []

/-- A fleet with the callbacks that are under way. -/
structure Turnover where
  fleet : Fleet
  /-- True once a start has stored its ring. -/
  started : Bool := false
  /-- The flips whose callbacks have not begun. -/
  raised : List NodeEvent := []
  /-- Who waits for the lock. -/
  waiting : List (Option NodeEvent) := []
  /-- Who has it. -/
  rebuild? : Option Rebuild := none
  /-- The callbacks that have given the lock back and not published yet. -/
  stored : List NodeEvent := []

namespace Turnover

/-- One move of one call, whichever has one. -/
inductive Step (s : Turnover) : Turnover → Prop where
  /-- A flag flips, or is found as it should be, and the node's listener will be called. -/
  | mark {now : Time} {server : Endpoint} {node node' : Node} {event? : Option NodeEvent}
      (hnode : s.fleet.nodes.lookup server = some node) (hmarks : node.Marks now (node', event?)) :
      Step s { s with
        fleet := { s.fleet with nodes := s.fleet.nodes.insert server node' }
        raised := s.raised ++ event?.toList }
  /-- A callback begins, and goes for the lock: it is in `waiting`. -/
  | enter (before after : List NodeEvent) {event : NodeEvent}
      (hraised : s.raised = before ++ event :: after) (hopen : s.fleet.disposed = false) :
      Step s { s with raised := before ++ after, waiting := s.waiting ++ [some event] }
  /-- A callback begins after disposal, finds `Fleet.disposed`, and is over. -/
  | ignore (before after : List NodeEvent) {event : NodeEvent}
      (hraised : s.raised = before ++ event :: after) (hdisposed : s.fleet.disposed = true) :
      Step s { s with raised := before ++ after }
  /-- A start has its connections, and goes for the lock. -/
  | start : Step s { s with waiting := s.waiting ++ [none] }
  /-- The lock is free, and any who waits for it gets it. -/
  | lock (before after : List (Option NodeEvent)) {cause? : Option NodeEvent}
      (hfree : s.rebuild? = none) (hwaiting : s.waiting = before ++ cause? :: after) :
      Step s { s with
        waiting := before ++ after
        rebuild? := some { cause? := cause?, left := s.fleet.nodes.keys } }
  /-- The next node is asked. -/
  | read {cause? : Option NodeEvent} {e : Endpoint} {left alive : List Endpoint}
      (hrebuild : s.rebuild? = some ⟨cause?, e :: left, alive⟩) :
      Step s { s with
        rebuild? := some
          ⟨cause?, left, if s.fleet.isAlive? e = some true then alive ++ [e] else alive⟩ }
  /-- Every node was asked: the ring is stored and the lock given back. -/
  | store {cause? : Option NodeEvent} {alive : List Endpoint}
      (hrebuild : s.rebuild? = some ⟨cause?, [], alive⟩) :
      Step s { s with
        fleet := { s.fleet with ring := .ofEndpoints alive }
        started := s.started || cause?.isNone
        rebuild? := none
        stored := s.stored ++ cause?.toList }
  /-- A callback publishes its announcement, and is over. -/
  | publish (before after : List NodeEvent) {event : NodeEvent}
      (hstored : s.stored = before ++ event :: after) :
      Step s { s with
        fleet := { s.fleet with events := s.fleet.events ++ [event] }
        stored := before ++ after }
  /-- Something else happens in the fleet, and leaves it `Fleet.Unmoved`. -/
  | other {f : Fleet} (hunmoved : s.fleet.Unmoved f) : Step s { s with fleet := f }

/-- Moves one after the other. -/
abbrev Steps : Turnover → Turnover → Prop :=
  Relation.ReflTransGen Step

/-! ## A change made in one go -/

/-- All the nodes that are left are asked, in `Rebuild.left`. -/
theorem read_steps {s : Turnover} {cause? : Option NodeEvent} {left alive : List Endpoint}
    (h : s.rebuild? = some ⟨cause?, left, alive⟩) :
    s.Steps { s with
      rebuild? := some
        ⟨cause?, [], alive ++ left.filter (s.fleet.isAlive? · = some true)⟩ } := by
  induction left generalizing s alive with
  | nil =>
      rw [List.filter_nil, List.append_nil, ← h]
  | cons e left ih =>
      refine .head (.read h) ?_
      refine .trans (ih rfl) ?_
      dsimp only
      by_cases he : s.fleet.isAlive? e = some true
      · rw [if_pos he, List.filter_cons_of_pos (by simpa using he), List.append_assoc]
        exact .refl
      · rw [if_neg he, List.filter_cons_of_neg (by simpa using he)]

/-- A ring is built, as by `Fleet.rebuild`, without being disturbed. -/
theorem rebuild_steps {s : Turnover} (before after : List (Option NodeEvent))
    {cause? : Option NodeEvent} (hkeys : s.fleet.nodes.keys.Nodup) (hfree : s.rebuild? = none)
    (hwaiting : s.waiting = before ++ cause? :: after) :
    s.Steps { s with
      fleet := s.fleet.rebuild
      started := s.started || cause?.isNone
      waiting := before ++ after
      stored := s.stored ++ cause?.toList } := by
  refine .head (.lock before after hfree hwaiting) ?_
  refine .trans (read_steps rfl) ?_
  refine .head (.store rfl) ?_
  -- no flag flips in between, so the answers are those of the nodes as they are
  have hanswers : s.fleet.nodes.keys.filter (s.fleet.isAlive? · = some true) =
      s.fleet.working := by
    refine Eq.trans (List.filter_congr ?_) (Table.filter_keys _ hkeys)
    intro e _
    rw [Fleet.isAlive?]
    cases s.fleet.nodes.lookup e with
    | none => rfl
    | some n => simp
  simp only [List.nil_append, hanswers, ← hfree]
  exact .refl

/-- **A change made in one go by `Fleet.update` is one of the runs**: the flag flips, and its
    callback runs through with no other in between. -/
theorem update_steps {f : Fleet} {started : Bool} {now : Time} {server : Endpoint}
    {change : Node → Node × Option NodeEvent} (hchange : ∀ n : Node, n.Marks now (change n))
    (hkeys : f.nodes.keys.Nodup) :
    Steps { fleet := f, started } { fleet := f.update server change, started } := by
  unfold Fleet.update
  cases hnode : f.nodes.lookup server with
  | none => exact .refl
  | some node =>
      dsimp only
      have hmarks := hchange node
      generalize change node = turned at hmarks ⊢
      obtain ⟨node', event?⟩ := turned
      refine .head (.mark hnode hmarks) ?_
      cases event? with
      | none => exact .refl
      | some event =>
          -- the callback of a fleet that was disposed of does nothing; any other runs through
          by_cases hdisposed : f.disposed = true
          · refine .head (.ignore [] [] rfl hdisposed) ?_
            simp only [Fleet.notify, hdisposed, if_true]
            exact .refl
          · have hkeys' : (f.nodes.insert server node').keys.Nodup := Table.nodup_keys_insert hkeys
            refine .head (.enter [] [] rfl (eq_false_of_ne_true hdisposed)) ?_
            refine .trans (rebuild_steps [] [] hkeys' rfl rfl) ?_
            refine .head (.publish [] [] rfl) ?_
            simp only [Fleet.notify, hdisposed, Option.isNone_some, Bool.or_false]
            exact .refl

end Turnover

end Memcache
