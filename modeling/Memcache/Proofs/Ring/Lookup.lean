import Mathlib
import Memcache.Proofs.Ring.Disruption
import Memcache.Proofs.Ring.Ownership

/-!
# `Memcache.Proofs.Ring.Lookup` — what a lookup finds, by the rule of the ring

The rule of the ring (`Ring.Rule`) names neither positions nor a search. Every server has its
points, and a pair is a point with a server that has it (`Ring.pairs`); pairs are ordered by their
points, and those with the same point by the addresses of their servers. A key belongs to the server
of the least pair whose point is not before the key's place, and if there is none, to the server of
the least pair of all. `Ring.ofEndpoints` sorts and renumbers the servers and sorts the points, and
`Ring.locate` searches among them, and finds the server that the rule names.

Both are compared with the nearest point on the way round: for points on the same side of a place
the order of the points is that of their distances, and those behind the place are farther away.

## Contents

* `Ring.pairs`, `Ring.rank`, `Ring.IsFirst` — pairs and their order;
* `Ring.Rule` — the rule; `Ring.exists_rule` — it names a server if there is a point;
  `Ring.rule_iff_owns` — **it names the server with the nearest point**;
* `Ring.locate_eq_rule` — **a lookup finds the server that the rule names**.
-/

namespace Memcache

namespace Ring

variable {places : Endpoint → List UInt32} {es : List Endpoint} {h : UInt32} {e : Endpoint}

/-! ## Pairs -/

/-- The pairs of a point and a server of `es` that has it among its `places`. -/
def pairs (places : Endpoint → List UInt32) (es : List Endpoint) : Set (UInt32 × Endpoint) :=
  {a | a.2 ∈ es ∧ a.1 ∈ places a.2}

/-- The `pairs` whose points are not before the place `h`. -/
def pairsFrom (places : Endpoint → List UInt32) (es : List Endpoint) (h : UInt32) :
    Set (UInt32 × Endpoint) :=
  {a | a ∈ pairs places es ∧ h ≤ a.1}

/-- The order of pairs: by points, then by addresses. -/
def rank (a : UInt32 × Endpoint) : ℕ ×ₗ String :=
  toLex (a.1.toNat, a.2.address)

/-- The pair `a` is the least of `s` by `rank`. -/
structure IsFirst (s : Set (UInt32 × Endpoint)) (a : UInt32 × Endpoint) : Prop where
  mem : a ∈ s
  le : ∀ b ∈ s, rank a ≤ rank b

theorem rank_le_iff {a b : UInt32 × Endpoint} :
    rank a ≤ rank b ↔ a.1 < b.1 ∨ a.1 = b.1 ∧ a.2.le b.2 := by
  rw [rank, rank, Prod.Lex.toLex_le_toLex, Endpoint.le_iff, UInt32.lt_iff_toNat_lt,
    UInt32.toNat_inj]

theorem finite_pairs : (pairs places es).Finite := by
  apply (es.flatMap fun e => (places e).map fun p => (p, e)).finite_toSet.subset
  rintro ⟨p, e⟩ ⟨he, hp⟩
  simpa [pairs] using And.intro he hp

/-- Of some `pairs`, one is the least. -/
theorem exists_isFirst {s : Set (UInt32 × Endpoint)} (hs : s ⊆ pairs places es)
    (hne : s.Nonempty) : ∃ p e, IsFirst s (p, e) := by
  obtain ⟨⟨p, e⟩, hmem, hle⟩ := Set.exists_min_image s rank (finite_pairs.subset hs) hne
  exact ⟨p, e, hmem, hle⟩

/-! ## The rule -/

/-- **The rule of the ring.** The place `h` belongs to the server of the least pair in
    `pairsFrom places es h`, whose points are not before it; if there is none, to the server of the
    least of all `pairs`. -/
def Rule (places : Endpoint → List UInt32) (es : List Endpoint) (h : UInt32) (e : Endpoint) :
    Prop :=
  (∃ p, IsFirst (pairsFrom places es h) (p, e)) ∨
    pairsFrom places es h = ∅ ∧ ∃ p, IsFirst (pairs places es) (p, e)

/-- The `Rule` names a server if there is a point. -/
theorem exists_rule (h : UInt32) (hne : (pairs places es).Nonempty) : ∃ e, Rule places es h e := by
  rcases Set.eq_empty_or_nonempty (pairsFrom places es h) with hnone | hsome
  · obtain ⟨p, e, hfirst⟩ := exists_isFirst Set.Subset.rfl hne
    exact ⟨e, .inr ⟨hnone, p, hfirst⟩⟩
  · obtain ⟨p, e, hfirst⟩ := exists_isFirst (fun _ ha => ha.1) hsome
    exact ⟨e, .inl ⟨p, hfirst⟩⟩

/-- The server that the `Rule` names has the nearest point, and so `Owns` the place. -/
theorem Rule.owns (hrule : Rule places es h e) : Owns places es h e := by
  rcases hrule with ⟨p, ⟨⟨he, hp⟩, hahead⟩, hle⟩ | ⟨hnone, p, ⟨he, hp⟩, hle⟩
  · refine ⟨he, p, hp, ?_⟩
    intro f hf q hq
    by_cases hq' : h ≤ q
    · rcases rank_le_iff.mp (hle (q, f) ⟨⟨hf, hq⟩, hq'⟩) with hlt | heq
      · exact .inl (sub_lt_sub_of_ahead hahead hlt)
      · exact .inr heq
    · exact .inl (sub_lt_sub_of_passed hahead (UInt32.not_le.mp hq'))
  · refine ⟨he, p, hp, ?_⟩
    intro f hf q hq
    have hbehind : q < h := by
      apply UInt32.not_le.mp
      intro hq'
      have hmem : (q, f) ∈ pairsFrom places es h := ⟨⟨hf, hq⟩, hq'⟩
      simp [hnone] at hmem
    rcases rank_le_iff.mp (hle (q, f) ⟨hf, hq⟩) with hlt | heq
    · exact .inl (sub_lt_sub_of_behind hlt hbehind)
    · exact .inr heq

/-- **The `Rule` names the server with the nearest point**, the one that `Owns` the place. -/
theorem rule_iff_owns : Rule places es h e ↔ Owns places es h e := by
  constructor
  · exact Rule.owns
  · intro howns
    obtain ⟨he, p, hp, -⟩ := id howns
    obtain ⟨f, hrule⟩ := exists_rule h ⟨(p, e), he, hp⟩
    rw [howns.unique hrule.owns]
    exact hrule

/-- The `Rule` does not look at the order or the number in which servers are listed. -/
theorem rule_congr {es' : List Endpoint} (hset : ∀ e, e ∈ es' ↔ e ∈ es) :
    Rule places es' h e ↔ Rule places es h e := by
  have hpairs : pairs places es' = pairs places es := by
    ext a
    simp [pairs, hset]
  simp only [Rule, pairsFrom, hpairs]

/-! ## Lookups -/

/-- A server has 160 points in `pointsOf`. -/
theorem length_pointsOf (e : Endpoint) (digest : Bytes → Bytes) :
    (pointsOf e digest).length = 160 := by
  simp [pointsOf, digestsPerEndpoint, Digest.leWords]

/-- **A lookup finds the server that the `Rule` names**, whatever the `digest` and whichever servers
    are listed, in any order and any number of times. By `locate` it finds none just if none is
    listed, and otherwise a listed one: that of the least pair not before `hash` of the key among
    the 160 points of each, or of the least pair of all. So it depends on nothing but which servers
    are listed. -/
theorem locate_eq_rule (digest : Bytes → Bytes) (es : List Endpoint) (key : String) :
    ((ofEndpoints es digest).locate key digest = none ↔ es = []) ∧
    (∀ e, (ofEndpoints es digest).locate key digest = some e ↔
      Rule (pointsOf · digest) es (hash (Text.encode key) digest) e) ∧
    (∀ e, (ofEndpoints es digest).locate key digest = some e → e ∈ es) ∧
    (∀ es', (∀ e, e ∈ es' ↔ e ∈ es) →
      (ofEndpoints es' digest).locate key digest = (ofEndpoints es digest).locate key digest) ∧
    ∀ e, (pointsOf e digest).length = 160 := by
  have hrule : ∀ es e, (ofEndpoints es digest).locate key digest = some e ↔
      Rule (pointsOf · digest) es (hash (Text.encode key) digest) e := by
    intro es e
    exact owner_eq_some_iff.trans rule_iff_owns.symm
  refine ⟨locate_eq_none_iff, hrule es, fun _ => mem_of_locate, ?_, (length_pointsOf · digest)⟩
  intro es' hset
  apply Option.ext
  intro e
  rw [hrule es', hrule es]
  exact rule_congr hset

set_option maxRecDepth 100000 in
/-- Two servers share all their points by `coarseDigest`, and the key's place is behind them. The
    `Rule` goes round to the least pair of all, that of the lesser address, however often the
    servers are listed. -/
theorem locate_eq_rule_coarse :
    (∀ e : Endpoint, e ∈ [⟨"b:1"⟩, ⟨"a:1"⟩, ⟨"b:1"⟩] ↔ e ∈ [⟨"a:1"⟩, ⟨"b:1"⟩]) ∧
      Rule (pointsOf · coarseDigest) [⟨"a:1"⟩, ⟨"b:1"⟩]
        (hash (Text.encode "k") coarseDigest) ⟨"a:1"⟩ ∧
      (ofEndpoints [⟨"b:1"⟩, ⟨"a:1"⟩, ⟨"b:1"⟩] coarseDigest).locate "k" coarseDigest =
        some ⟨"a:1"⟩ := by
  have hset : ∀ e : Endpoint, e ∈ [⟨"b:1"⟩, ⟨"a:1"⟩, ⟨"b:1"⟩] ↔ e ∈ [⟨"a:1"⟩, ⟨"b:1"⟩] := by
    intro e
    simp only [List.mem_cons, List.not_mem_nil, or_false]
    tauto
  have howner : (ofEndpoints [⟨"a:1"⟩, ⟨"b:1"⟩] coarseDigest).locate "k" coarseDigest =
      some ⟨"a:1"⟩ := by cbv
  obtain ⟨-, hrule, -, hlisted, -⟩ := locate_eq_rule coarseDigest [⟨"a:1"⟩, ⟨"b:1"⟩] "k"
  exact ⟨hset, (hrule _).mp howner, (hlisted _ hset).trans howner⟩

end Ring

end Memcache
