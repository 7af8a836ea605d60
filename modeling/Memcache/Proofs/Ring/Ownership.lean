import Memcache.Ring

/-!
# `Memcache.Proofs.Ring.Ownership` — the owner of a place, without the ring

`Ring.owner` finds the owner of a place by a search among sorted points that name servers by
position. Neither the sorting nor the positions matter to the answer: seen from a place, the owner
is the server that has the nearest point on the way round the circle, and the first address of those
that share that point (`Ring.Owns`). Distances on the way round are differences of 32-bit numbers,
so passing the last point needs no case of its own.

## Contents

* `Ring.first_nearest` — what the search among sorted points finds;
* `Ring.mem_points`, `Ring.le_of_position_le` — positions stand for servers, in the servers' order;
* `Ring.Owns`, `Ring.owner_eq_some_iff` — **the owner is the server with the nearest point**;
* `Ring.locate_eq_none_iff`, `Ring.mem_of_locate` — a key has an owner among the servers, if any.
-/

namespace Memcache

/-! ## The order of addresses -/

namespace Endpoint

theorem le_iff {a b : Endpoint} : a.le b = true ↔ a.address ≤ b.address := by
  simp [le]

theorem le_trans {a b c : Endpoint} (hab : a.le b) (hbc : b.le c) : a.le c :=
  le_iff.mpr (String.le_trans (le_iff.mp hab) (le_iff.mp hbc))

theorem le_total (a b : Endpoint) : (a.le b || b.le a) = true := by
  rw [Bool.or_eq_true, le_iff, le_iff]
  exact String.le_total ..

theorem le_antisymm {a b : Endpoint} (hab : a.le b) (hba : b.le a) : a = b := by
  have haddress := String.le_antisymm (le_iff.mp hab) (le_iff.mp hba)
  cases a
  cases b
  exact congrArg Endpoint.mk haddress

end Endpoint

namespace Ring

/-! ## Distances on the way round -/

section Distance
variable {h p q : UInt32}

theorem sub_lt_sub_of_ahead (hp : h ≤ p) (hpq : p < q) : p - h < q - h := by
  rw [UInt32.le_iff_toNat_le] at hp
  rw [UInt32.lt_iff_toNat_lt] at hpq ⊢
  rw [UInt32.toNat_sub, UInt32.toNat_sub]
  have hbound := q.toNat_lt
  omega

theorem sub_lt_sub_of_passed (hp : h ≤ p) (hq : q < h) : p - h < q - h := by
  rw [UInt32.le_iff_toNat_le] at hp
  rw [UInt32.lt_iff_toNat_lt] at hq ⊢
  rw [UInt32.toNat_sub, UInt32.toNat_sub]
  have hbound := p.toNat_lt
  omega

theorem sub_lt_sub_of_behind (hpq : p < q) (hq : q < h) : p - h < q - h := by
  rw [UInt32.lt_iff_toNat_lt] at hpq hq ⊢
  rw [UInt32.toNat_sub, UInt32.toNat_sub]
  have hbound := h.toNat_lt
  omega

end Distance

/-! ## The search among sorted points -/

theorem pointLe_iff {a b : UInt32 × Nat} :
    pointLe a b = true ↔ a.1 < b.1 ∨ a.1 = b.1 ∧ a.2 ≤ b.2 := by
  unfold pointLe
  by_cases heq : a.1 = b.1
  · simp [heq]
  · simp [heq]

theorem pointLe_trans {a b c : UInt32 × Nat} (hab : pointLe a b) (hbc : pointLe b c) :
    pointLe a c := by
  rw [pointLe_iff] at *
  rcases hab with hab | ⟨hab, hi⟩ <;> rcases hbc with hbc | ⟨hbc, hj⟩
  · exact .inl (UInt32.lt_trans hab hbc)
  · exact .inl (hbc ▸ hab)
  · exact .inl (hab ▸ hbc)
  · exact .inr ⟨hab.trans hbc, Nat.le_trans hi hj⟩

theorem pointLe_total (a b : UInt32 × Nat) : (pointLe a b || pointLe b a) = true := by
  rw [Bool.or_eq_true, pointLe_iff, pointLe_iff]
  by_cases heq : a.1 = b.1
  · rcases Nat.le_total a.2 b.2 with hle | hle
    · exact .inl (.inr ⟨heq, hle⟩)
    · exact .inr (.inr ⟨heq.symm, hle⟩)
  · rcases UInt32.lt_or_lt_of_ne heq with hlt | hgt
    · exact .inl (.inl hlt)
    · exact .inr (.inl hgt)

/-- Of the points `a` and `b`, `a` is met first from `h`: it is the nearer one, or as near and of
    the earlier server. -/
def Before (h : UInt32) (a b : UInt32 × Nat) : Prop :=
  a.1 - h < b.1 - h ∨ a.1 = b.1 ∧ a.2 ≤ b.2

/-- **The search finds the nearest point.** Of the points in their order, the first that is not
    before `h` comes first from `h`, and if there is none, the first of all does. -/
theorem first_nearest {points : List (UInt32 × Nat)} (h : UInt32)
    (hsorted : points.Pairwise fun a b => pointLe a b) (hne : points ≠ []) :
    ∃ a, points[(points.findIdx fun p => h ≤ p.1) % points.length]? = some a ∧
      a ∈ points ∧ ∀ b ∈ points, Before h a b := by
  have hpos : 0 < points.length := List.length_pos_iff.mpr hne
  have hordered : ∀ {i j} (hi : i < points.length) (hj : j < points.length), i < j →
      pointLe points[i] points[j] := fun hi hj hij =>
    List.pairwise_iff_getElem.mp hsorted _ _ hi hj hij
  by_cases hfound : (points.findIdx fun p => h ≤ p.1) < points.length
  · -- the search stops inside: the points before it are passed, those after it are no nearer
    generalize hi : (points.findIdx fun p => h ≤ p.1) = i at hfound
    have hahead : h ≤ points[i].1 := by
      have hstop : (points.findIdx fun p => h ≤ p.1) < points.length := hi.symm ▸ hfound
      have hat := List.findIdx_getElem (w := hstop)
      simpa [hi] using hat
    refine ⟨points[i], ?_, List.getElem_mem _, ?_⟩
    · rw [Nat.mod_eq_of_lt hfound]
      exact List.getElem?_eq_getElem hfound
    · intro b hb
      obtain ⟨j, hj, rfl⟩ := List.getElem_of_mem hb
      rcases Nat.lt_trichotomy j i with hji | rfl | hij
      · have hpassed := List.not_of_lt_findIdx (hi ▸ hji)
        exact .inl (sub_lt_sub_of_passed hahead (by simpa using hpassed))
      · exact .inr ⟨rfl, Nat.le_refl _⟩
      · rcases pointLe_iff.mp (hordered hfound hj hij) with hlt | heq
        · exact .inl (sub_lt_sub_of_ahead hahead hlt)
        · exact .inr heq
  · -- every point is passed: the way round starts again at the first
    have hend : (points.findIdx fun p => h ≤ p.1) = points.length :=
      Nat.le_antisymm List.findIdx_le_length (Nat.le_of_not_lt hfound)
    have hpassed : ∀ b ∈ points, b.1 < h := by
      intro b hb
      have hskipped := List.findIdx_eq_length.mp hend b hb
      simpa using hskipped
    refine ⟨points[0], ?_, List.getElem_mem _, ?_⟩
    · rw [hend, Nat.mod_self]
      exact List.getElem?_eq_getElem hpos
    · intro b hb
      have hlt := hpassed b hb
      obtain ⟨j, hj, rfl⟩ := List.getElem_of_mem hb
      rcases Nat.eq_zero_or_pos j with rfl | hj0
      · exact .inr ⟨rfl, Nat.le_refl _⟩
      · rcases pointLe_iff.mp (hordered hpos hj hj0) with hlt' | heq
        · exact .inl (sub_lt_sub_of_behind hlt' hlt)
        · exact .inr heq

/-! ## The servers of a ring, and their positions -/

variable {places : Endpoint → List UInt32} {es : List Endpoint}

theorem mem_endpoints {e : Endpoint} : e ∈ (ofPlaces places es).endpoints ↔ e ∈ es := by
  simp [ofPlaces]

theorem endpoints_sorted : (ofPlaces places es).endpoints.Pairwise fun e f => e.le f := by
  refine List.pairwise_mergeSort ?_ Endpoint.le_total _
  intro e f g hef hfg
  exact Endpoint.le_trans hef hfg

theorem points_sorted : (ofPlaces places es).points.Pairwise fun a b => pointLe a b := by
  refine List.pairwise_mergeSort ?_ pointLe_total _
  intro a b c hab hbc
  exact pointLe_trans hab hbc

/-- A listed server has a position in `endpoints`. -/
theorem exists_position {e : Endpoint} (he : e ∈ es) :
    ∃ i : Nat, (ofPlaces places es).endpoints[i]? = some e :=
  List.getElem?_of_mem (mem_endpoints.mpr he)

/-- A point is one of the `places` of the server at its position. -/
theorem mem_points {a : UInt32 × Nat} :
    a ∈ (ofPlaces places es).points ↔
      ∃ e, (ofPlaces places es).endpoints[a.2]? = some e ∧ a.1 ∈ places e := by
  obtain ⟨p, i⟩ := a
  simp only [ofPlaces, List.mem_mergeSort, List.mem_flatMap, List.mem_map, Prod.mk.injEq]
  constructor
  · rintro ⟨⟨e, j⟩, hpos, q, hq, rfl, rfl⟩
    exact ⟨e, List.mem_zipIdx_iff_getElem?.mp hpos, hq⟩
  · rintro ⟨e, hpos, hp⟩
    exact ⟨(e, i), List.mem_zipIdx_iff_getElem?.mpr hpos, p, hp, rfl, rfl⟩

/-- Positions in `endpoints` are in the order `Endpoint.le` of the servers at them. -/
theorem le_of_position_le {i j : Nat} {e f : Endpoint} (hij : i ≤ j)
    (he : (ofPlaces places es).endpoints[i]? = some e)
    (hf : (ofPlaces places es).endpoints[j]? = some f) : e.le f := by
  obtain ⟨hi, rfl⟩ := List.getElem?_eq_some_iff.mp he
  obtain ⟨hj, rfl⟩ := List.getElem?_eq_some_iff.mp hf
  rcases Nat.lt_or_eq_of_le hij with hlt | rfl
  · exact List.pairwise_iff_getElem.mp endpoints_sorted _ _ hi hj hlt
  · exact Endpoint.le_iff.mpr (String.le_refl _)

/-! ## Ownership -/

/-- Of the servers `es`, the server `e` owns the place `h`: from `h` on, one of its points is met no
    later than any point of another server, and earlier than those of servers with a lesser
    address. -/
def Owns (places : Endpoint → List UInt32) (es : List Endpoint) (h : UInt32) (e : Endpoint) :
    Prop :=
  e ∈ es ∧ ∃ p ∈ places e, ∀ f ∈ es, ∀ q ∈ places f, p - h < q - h ∨ p = q ∧ e.le f

/-- A place has one server at most that `Owns` it. -/
theorem Owns.unique {h : UInt32} {e f : Endpoint} (he : Owns places es h e)
    (hf : Owns places es h f) : e = f := by
  obtain ⟨hes, p, hp, hfirst⟩ := he
  obtain ⟨hfs, q, hq, hfirst'⟩ := hf
  -- each of the two is met no later than the other
  rcases hfirst f hfs q hq with hlt | ⟨rfl, hle⟩
  · rcases hfirst' e hes p hp with hgt | ⟨rfl, -⟩
    · exact absurd (UInt32.lt_trans hlt hgt) (UInt32.lt_irrefl _)
    · exact absurd hlt (UInt32.lt_irrefl _)
  · rcases hfirst' e hes p hp with hlt | ⟨-, hge⟩
    · exact absurd hlt (UInt32.lt_irrefl _)
    · exact Endpoint.le_antisymm hle hge

/-- Once there is a point at all, `Ring.owner` finds a server that `Owns` the place. -/
theorem exists_owner (h : UInt32) (hne : (ofPlaces places es).points ≠ []) :
    ∃ e, (ofPlaces places es).owner h = some e ∧ Owns places es h e := by
  obtain ⟨⟨p, i⟩, hfirst, hmem, hbefore⟩ := first_nearest h points_sorted hne
  obtain ⟨e, he, hp⟩ := mem_points.mp hmem
  refine ⟨e, ?_, mem_endpoints.mp (List.mem_of_getElem? he), p, hp, ?_⟩
  · simp only [owner, hfirst]
    exact he
  · intro f hf q hq
    obtain ⟨j, hj⟩ := exists_position hf
    -- of equal points that of the lesser position is met first, and positions go by address
    rcases hbefore (q, j) (mem_points.mpr ⟨f, hj, hq⟩) with hlt | ⟨heq, hij⟩
    · exact .inl hlt
    · exact .inr ⟨heq, le_of_position_le hij he hj⟩

/-- Once a listed server has a place, `points` of the ring is not empty. -/
theorem points_ne_nil {e : Endpoint} {p : UInt32} (he : e ∈ es) (hp : p ∈ places e) :
    (ofPlaces places es).points ≠ [] := by
  obtain ⟨i, hi⟩ := exists_position he
  exact List.ne_nil_of_mem (mem_points (a := (p, i)) |>.mpr ⟨e, hi, hp⟩)

/-- **The `owner` of a place is the server with the nearest point**, the one that `Owns` it. -/
theorem owner_eq_some_iff {h : UInt32} {e : Endpoint} :
    (ofPlaces places es).owner h = some e ↔ Owns places es h e := by
  constructor
  · intro howner
    have hne : (ofPlaces places es).points ≠ [] := by
      intro hnil
      simp [owner, hnil] at howner
    obtain ⟨f, hf, howns⟩ := exists_owner h hne
    obtain rfl : f = e := Option.some.inj (hf.symm.trans howner)
    exact howns
  · intro howns
    obtain ⟨hes, p, hp, -⟩ := id howns
    obtain ⟨f, hf, howns'⟩ := exists_owner h (points_ne_nil hes hp)
    rw [hf, howns.unique howns']

/-- A place is without an `owner` when no server has a point. -/
theorem owner_eq_none_iff {h : UInt32} :
    (ofPlaces places es).owner h = none ↔ ∀ e ∈ es, places e = [] := by
  constructor
  · intro hnone e he
    apply List.eq_nil_iff_forall_not_mem.mpr
    intro p hp
    obtain ⟨f, hf, -⟩ := exists_owner h (points_ne_nil he hp)
    rw [hnone] at hf
    contradiction
  · intro hnone
    cases howner : (ofPlaces places es).owner h with
    | none => rfl
    | some e =>
      obtain ⟨he, p, hp, -⟩ := owner_eq_some_iff.mp howner
      rw [hnone e he] at hp
      contradiction

/-! ## Keys -/

/-- Every server has points in `pointsOf`, whatever the `digest`. -/
theorem pointsOf_ne_nil (e : Endpoint) (digest : Bytes → Bytes) : pointsOf e digest ≠ [] :=
  List.cons_ne_nil _ _

/-- A key is without an owner by `locate` on the empty ring only. -/
theorem locate_eq_none_iff {digest : Bytes → Bytes} {key : String} :
    (ofEndpoints es digest).locate key digest = none ↔ es = [] := by
  refine owner_eq_none_iff.trans ⟨?_, ?_⟩
  · intro hnone
    apply List.eq_nil_iff_forall_not_mem.mpr
    intro e he
    exact pointsOf_ne_nil e digest (hnone e he)
  · intro hnil
    subst hnil
    intro e he
    contradiction

/-- The server that `locate` finds is one of the servers of the ring. -/
theorem mem_of_locate {digest : Bytes → Bytes} {key : String} {e : Endpoint}
    (h : (ofEndpoints es digest).locate key digest = some e) : e ∈ es :=
  (owner_eq_some_iff.mp h).1

end Ring

end Memcache
