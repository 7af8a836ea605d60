import Mathlib.Logic.Relation
import Memcache.Fleet
import Memcache.Proofs.Table.Writes

/-!
# `Memcache.Proofs.Node.Marking` — calls that mark one node and overlap

A node keeps a flag that says whether it is alive (`Node.alive`) and, apart from it, since when it
has been dead (`Node.deadSince?`). `Node.markDead` and `Node.markAlive` change both in one go.
Callers that do so at the same time overlap: each flips the flag first, writes the time later, and
calls the listener last. `Fleet.due` goes by the time, so a dead node without one is never probed
again.

If every call writes its time before a later one does, then a node is dead just if it has a time
once all times are written. If a call may write its time after a later one has, then this is not so:
a late revival wipes out the time of a node that has died again.

## Contents

* `Mark`, `Marking`, `Marking.Step` — calls under way and their moves, in whatever order they write
  or in that of the flips;
* `Marking.steps_markDead`, `Marking.steps_markAlive` — **a call made in one go is one of the
  runs**;
* `Fleet.mem_due_iff` — the nodes that the sweeper goes for;
* `Marking.dated_of_orderly` — **in the order of the flips, no dead node is forgotten**;
* `Marking.forgotten` — **in another order one can be**.
-/

namespace Memcache

/-! ## Calls that overlap -/

/-- The two calls that flip `Node.alive`: `Node.markDead` and `Node.markAlive`. -/
inductive Mark where
  | dead
  | alive
  deriving DecidableEq

namespace Mark

/-- The value of `Node.alive` that a call is for. -/
def flag : Mark → Bool
  | .dead => false
  | .alive => true

/-- The value of `Node.deadSince?` that a call writes. -/
def since? (now : Time) : Mark → Option Time
  | .dead => some now
  | .alive => none

/-- What a call does last: the announcement, and before it a dead node drops its idle connections
    (`Pool.clearIdle`). -/
def finish (n : Node) : Mark → Node × Option NodeEvent
  | .dead => ({ n with pool := n.pool.clearIdle }, n.announce .failed)
  | .alive => (n, n.announce .revived)

end Mark

/-- A node with the calls on it that are half-way. -/
structure Marking where
  node : Node
  /-- The calls that have flipped `Node.alive` and not written the time, in the order of the
      flips. -/
  flipped : List Mark := []
  /-- The calls that have written the time and not called the listener. -/
  written : List Mark := []
  /-- What the listener has heard, the oldest first. -/
  events : List NodeEvent := []

namespace Marking

/-- A new node with `Node.listening`. -/
def start (endpoint : Endpoint) (settings : PoolSettings) (policy : PolicyChoice) : Marking :=
  { node := { Node.new endpoint settings policy with listening := true } }

/-- No call is half-way: none has `flipped` or `written` only. -/
structure Quiet (s : Marking) : Prop where
  flipped : s.flipped = []
  written : s.written = []

/-- **One move of one call.** A call that finds `Node.alive` as it is to be has no move at all.
    Whether a call may write its time before an earlier one has written its own is the parameter
    `overtaking`. -/
inductive Step (overtaking : Bool) (s : Marking) : Marking → Prop where
  | flip (m : Mark) (hflag : s.node.alive ≠ m.flag) :
      Step overtaking s
        { s with node := { s.node with alive := m.flag }, flipped := s.flipped ++ [m] }
  | write (before : List Mark) {after : List Mark} {m : Mark} (now : Time)
      (hflipped : s.flipped = before ++ m :: after) (horder : before = [] ∨ overtaking = true) :
      Step overtaking s
        { s with
          node := { s.node with deadSince? := m.since? now }
          flipped := before ++ after
          written := s.written ++ [m] }
  | finish (before : List Mark) {after : List Mark} {m : Mark}
      (hwritten : s.written = before ++ m :: after) :
      Step overtaking s
        { s with
          node := (m.finish s.node).1
          written := before ++ after
          events := s.events ++ (m.finish s.node).2.toList }
  /-- A probe that failed lets the waiting time begin again, by `Node.touch`. -/
  | touch (now : Time) : Step overtaking s { s with node := s.node.touch now }

/-- Any number of moves. -/
def Steps (overtaking : Bool) : Marking → Marking → Prop :=
  Relation.ReflTransGen (Step overtaking)

/-! ## Calls made in one go -/

variable {overtaking : Bool} {s s' : Marking}

/-- The state after a whole call. -/
def called (s : Marking) (marked : Node × Option NodeEvent) : Marking :=
  { s with node := marked.1, events := s.events ++ marked.2.toList }

/-- A call that goes through without a break. -/
theorem steps_of_mark (m : Mark) (now : Time) (hflipped : s.flipped = [])
    (hflag : s.node.alive ≠ m.flag) :
    s.Steps overtaking
      (s.called (m.finish { s.node with alive := m.flag, deadSince? := m.since? now })) := by
  have hflip : Step overtaking s _ := .flip m hflag
  rw [hflipped] at hflip
  have hwrite : Step overtaking
      { s with node := { s.node with alive := m.flag }, flipped := [m] } _ :=
    .write [] now rfl (.inl rfl)
  have hfinish : Step overtaking
      { s with
        node := { s.node with alive := m.flag, deadSince? := m.since? now }
        flipped := []
        written := s.written ++ [m] } _ := .finish s.written rfl
  rw [List.append_nil] at hfinish
  unfold called
  rw [hflipped]
  exact .tail (.tail (.single hflip) hwrite) hfinish

/-- A call that finds nothing to do. -/
theorem steps_of_none : s.Steps overtaking (s.called (s.node, none)) := by
  unfold called
  rw [Option.toList_none, List.append_nil]
  exact .refl

/-- **A call of `Node.markDead` in one go is one of the runs.** -/
theorem steps_markDead (now : Time) (hflipped : s.flipped = []) :
    s.Steps overtaking (s.called (s.node.markDead now)) := by
  unfold Node.markDead
  split
  · next halive => exact steps_of_mark .dead now hflipped (by rw [halive]; nofun)
  · exact steps_of_none

/-- **And so is a call of `Node.markAlive`.** -/
theorem steps_markAlive (hflipped : s.flipped = []) :
    s.Steps overtaking (s.called s.node.markAlive) := by
  unfold Node.markAlive
  split
  · exact steps_of_none
  · next hdead => exact steps_of_mark .alive 0 hflipped hdead

/-! ## In the order of the flips -/

/-- A node whose `Node.alive` and `Node.deadSince?` agree. -/
def Dated (n : Node) : Prop :=
  n.deadSince?.isSome = true ↔ n.alive = false

/-- The flag `Node.alive` is that of the last flip, and once all times are written `Node.deadSince?`
    agrees with it. -/
structure Inv (s : Marking) : Prop where
  last : ∀ m, s.flipped.getLast? = some m → s.node.alive = m.flag
  dated : s.flipped = [] → Dated s.node

theorem dated_of_flag {n : Node} {m : Mark} {now : Time} (hflag : n.alive = m.flag) :
    Dated { n with deadSince? := m.since? now } := by
  unfold Dated
  rw [hflag]
  cases m with
  | dead => exact ⟨fun _ => rfl, fun _ => rfl⟩
  | alive => exact ⟨nofun, nofun⟩

/-- **Every move in the order of the flips keeps flag and time together.** -/
theorem inv_step (h : s.Inv) (hstep : s.Step false s') : s'.Inv := by
  cases hstep with
  | flip m hflag =>
      constructor
      · intro last hlast
        rw [List.getLast?_concat] at hlast
        rw [← Option.some.inj hlast]
      · intro hnil
        exact absurd hnil (List.append_ne_nil_of_right_ne_nil _ (List.cons_ne_nil m []))
  | @write before after m now hflipped horder =>
      obtain rfl := horder.resolve_right Bool.false_ne_true
      have hlast := h.last
      rw [hflipped, List.nil_append] at hlast
      constructor
      · intro last hafter
        cases after with
        | nil => cases hafter
        | cons next rest => exact hlast last hafter
      · intro hnil
        -- the last flip writes last, and the flag is its own
        have hafter : after = [] := hnil
        subst hafter
        exact dated_of_flag (hlast m rfl)
  | @finish before after m hwritten =>
      cases m with
      | dead => exact ⟨h.last, h.dated⟩
      | alive => exact ⟨h.last, h.dated⟩
  | touch now =>
      refine ⟨h.last, fun hnil => ?_⟩
      have hdated := h.dated hnil
      unfold Dated Node.touch at *
      rwa [Option.isSome_map]

theorem inv_steps (h : s.Inv) (hsteps : s.Steps false s') : s'.Inv := by
  induction hsteps with
  | refl => exact h
  | tail _ hstep ih => exact inv_step ih hstep

end Marking

/-! ## The sweeper -/

/-- **The sweeper goes for the nodes that have a `Node.deadSince?`, once it is long enough ago**
    (`Fleet.due`). -/
theorem Fleet.mem_due_iff {f : Fleet} {now : Time} {server : Endpoint} {n : Node}
    (hkeys : f.nodes.keys.Nodup) (hnode : f.nodes.lookup server = some n) :
    server ∈ f.due now ↔
      ∃ since, n.deadSince? = some since ∧ f.settings.deadTimeout ≤ now - since := by
  unfold due
  rw [Table.mem_select hkeys]
  constructor
  · rintro ⟨value, hvalue, hdue⟩
    obtain rfl := Option.some.inj (hnode.symm.trans hvalue)
    split at hdue
    · next since hsince => exact ⟨since, hsince, of_decide_eq_true hdue⟩
    · contradiction
  · rintro ⟨since, hsince, hlong⟩
    refine ⟨n, hnode, ?_⟩
    rw [hsince]
    exact decide_eq_true hlong

namespace Marking

/-- The sweeper can go for a node: in every fleet that has it, the node is `Fleet.due` from some
    time on. -/
def Selectable (n : Node) : Prop :=
  ∀ (f : Fleet) (server : Endpoint), f.nodes.keys.Nodup → f.nodes.lookup server = some n →
    ∃ now, ∀ later, now ≤ later → server ∈ f.due later

theorem selectable_of_since {n : Node} (h : n.deadSince?.isSome = true) : Selectable n := by
  intro f server hkeys hnode
  obtain ⟨since, hsince⟩ := Option.isSome_iff_exists.mp h
  refine ⟨f.settings.deadTimeout + since, fun later hlater => ?_⟩
  exact (Fleet.mem_due_iff hkeys hnode).mpr ⟨since, hsince, Nat.le_sub_of_add_le hlater⟩

theorem inv_start (endpoint : Endpoint) (settings : PoolSettings) (policy : PolicyChoice) :
    (start endpoint settings policy).Inv where
  last := nofun
  dated := fun _ => ⟨nofun, nofun⟩

/-- **In the order of the flips, no dead node is forgotten.** Let calls on a new node overlap in any
    way but that none writes its time before an earlier one has (`Marking.Step`). Then, once no call
    is half-way (`Marking.Quiet`), `Node.deadSince?` has a time just if `Node.alive` is cleared, and
    so the sweeper can go for the node (`Selectable`). -/
theorem dated_of_orderly (endpoint : Endpoint) (settings : PoolSettings) (policy : PolicyChoice)
    (s : Marking) (hsteps : (start endpoint settings policy).Steps false s) (hquiet : s.Quiet) :
    (s.node.deadSince?.isSome = true ↔ s.node.alive = false) ∧
      (s.node.alive = false → Selectable s.node) := by
  have hinv := inv_steps (inv_start endpoint settings policy) hsteps
  have hdated : s.node.deadSince?.isSome = true ↔ s.node.alive = false :=
    hinv.dated hquiet.flipped
  exact ⟨hdated, fun hdead => selectable_of_since (hdated.mpr hdead)⟩

/-- A node dies, is revived and dies again before the first of the three calls has written its time,
    and then they write in turn: the node is dead since the last one wrote. -/
theorem dated_of_orderly_overlapping :
    ∃ s, (start ⟨"a:1"⟩ {} .failImmediately).Steps false s ∧ s.Quiet ∧
      s.node.alive = false ∧ s.node.deadSince? = some 3 ∧ Selectable s.node := by
  have hdead : (start ⟨"a:1"⟩ {} .failImmediately).Steps false _ := .single (.flip .dead nofun)
  have hrevived := hdead.tail (.flip .alive nofun)
  have hagain := hrevived.tail (.flip .dead nofun)
  have hwritten := ((hagain.tail (.write [] 1 rfl (.inl rfl))).tail
    (.write [] 2 rfl (.inl rfl))).tail (.write [] 3 rfl (.inl rfl))
  have hrun := ((hwritten.tail (.finish [] rfl)).tail (.finish [] rfl)).tail (.finish [] rfl)
  have hselectable := (dated_of_orderly _ _ _ _ hrun ⟨rfl, rfl⟩).2 rfl
  exact ⟨_, hrun, ⟨rfl, rfl⟩, rfl, rfl, hselectable⟩

/-! ## In another order -/

/-- **A dead node can be forgotten**, whatever its address, its settings and its policy: it dies and
    is revived, but before the revival has written its part it dies again. What the revival writes
    into `Node.deadSince?` then wipes out the time of the second death, and the sweeper never goes
    for the node. -/
theorem exists_forgotten (endpoint : Endpoint) (settings : PoolSettings) (policy : PolicyChoice) :
    ∃ s, (start endpoint settings policy).Steps true s ∧ s.Quiet ∧ s.node.alive = false ∧
      s.node.deadSince? = none ∧
      ∀ (f : Fleet) (server : Endpoint) (now : Time), f.nodes.keys.Nodup →
        f.nodes.lookup server = some s.node → server ∉ f.due now := by
  have hdeath : (start endpoint settings policy).Steps true _ := steps_markDead 0 rfl
  have hrevival := hdeath.tail (.flip .alive nofun)
  have hagain := hrevival.tail (.flip .dead nofun)
  have hwritten := hagain.tail (.write [.alive] 1 rfl (.inr rfl))
  have hlate := hwritten.tail (.write [] 2 rfl (.inl rfl))
  have hquiet := (hlate.tail (.finish [] rfl)).tail (.finish [] rfl)
  refine ⟨_, hquiet, ⟨rfl, rfl⟩, rfl, rfl, ?_⟩
  intro f server now hkeys hnode hdue
  obtain ⟨since, hsince, -⟩ := (Fleet.mem_due_iff hkeys hnode).mp hdue
  cases hsince

/-- So it is not true that `Node.deadSince?` has a time just if the node is dead, whenever no call
    is half-way. -/
theorem forgotten :
    ¬ ∀ (endpoint : Endpoint) (settings : PoolSettings) (policy : PolicyChoice) (s : Marking),
      (start endpoint settings policy).Steps true s → s.Quiet →
        (s.node.deadSince?.isSome = true ↔ s.node.alive = false) := by
  intro hclaim
  obtain ⟨s, hsteps, hquiet, hdead, hsince, -⟩ := exists_forgotten ⟨"a:1"⟩ {} .failImmediately
  have hsome := (hclaim _ _ _ s hsteps hquiet).mpr hdead
  rw [hsince] at hsome
  contradiction

end Marking

end Memcache
