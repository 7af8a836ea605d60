import Mathlib
import Memcache.Proofs.Ring.Ownership

/-!
# `Memcache.Proofs.Ring.Disruption` — what a change of servers does to the keys

When the servers of a ring change, the list `Ring.endpoints` that the points refer to is numbered
anew and `Ring.points` are sorted anew. The owners are compared here without looking at either, by
`Ring.Owns`: a server that owns a place among many also owns it among fewer, since there is less
that could be met before its point.

## Contents

* `Ring.Owns.restrict` — an owner among many is one among fewer;
* `Ring.locate_minimal_disruption` — **keys leave no server but one that goes, and join none but one
  that comes**.
-/

namespace Memcache

namespace Ring

/-- A server of `few` that `Owns` a place among `many` still does when the others are taken away. -/
theorem Owns.restrict {places : Endpoint → List UInt32} {few many : List Endpoint} {h : UInt32}
    {e : Endpoint} (howns : Owns places many h e) (hsub : few ⊆ many) (he : e ∈ few) :
    Owns places few h e := by
  obtain ⟨-, p, hp, hfirst⟩ := howns
  refine ⟨he, p, hp, ?_⟩
  intro f hf q hq
  exact hfirst f (hsub hf) q hq

/-- By `Ring.locate` a key keeps its server when others are taken away. -/
theorem locate_of_subset {digest : Bytes → Bytes} {key : String} {few many : List Endpoint}
    {e : Endpoint} (hsub : few ⊆ many) (he : e ∈ few)
    (howner : (ofEndpoints many digest).locate key digest = some e) :
    (ofEndpoints few digest).locate key digest = some e :=
  owner_eq_some_iff.mpr ((owner_eq_some_iff.mp howner).restrict hsub he)

/-- A key for which `locate` finds another server, or none, among `few` had one of `many` that was
    taken away. -/
theorem locate_eq_or_lost {digest : Bytes → Bytes} {key : String} {few many : List Endpoint}
    (hsub : few ⊆ many) :
    (ofEndpoints few digest).locate key digest = (ofEndpoints many digest).locate key digest ∨
      ∃ e ∈ many, e ∉ few ∧ (ofEndpoints many digest).locate key digest = some e := by
  cases howner : (ofEndpoints many digest).locate key digest with
  | none =>
      have hmany := locate_eq_none_iff.mp howner
      subst hmany
      exact .inl (locate_eq_none_iff.mpr (List.subset_nil.mp hsub))
  | some e =>
      by_cases he : e ∈ few
      · exact .inl (locate_of_subset hsub he howner)
      · exact .inr ⟨e, mem_of_locate howner, he, rfl⟩

/-- **Minimal disruption.** Whatever the `digest`, for the servers `few` among the servers `many`,
    in any order and listed any number of times: a key for which `locate` finds one of `few` among
    `many` has the same server among `few`. So a key that moves when servers die was owned by one of
    those that died, and when one server comes back, a key keeps its server or moves to that one. -/
theorem locate_minimal_disruption (digest : Bytes → Bytes) (key : String)
    (few many : List Endpoint) (hsub : few ⊆ many) :
    (∀ e ∈ few, (ofEndpoints many digest).locate key digest = some e →
      (ofEndpoints few digest).locate key digest = some e) ∧
    ((ofEndpoints few digest).locate key digest ≠ (ofEndpoints many digest).locate key digest →
      ∃ dead ∈ many, dead ∉ few ∧ (ofEndpoints many digest).locate key digest = some dead) ∧
    (∀ back, (∀ e ∈ many, e ∈ few ∨ e = back) →
      (ofEndpoints many digest).locate key digest = (ofEndpoints few digest).locate key digest ∨
        (ofEndpoints many digest).locate key digest = some back) := by
  refine ⟨fun e he => locate_of_subset hsub he, ?_, ?_⟩
  · intro hmoved
    rcases locate_eq_or_lost hsub with hsame | hlost
    · exact absurd hsame hmoved
    · exact hlost
  · intro back hback
    rcases locate_eq_or_lost hsub with hsame | ⟨e, he, hgone, howner⟩
    · exact .inl hsame.symm
    · rcases hback e he with hfew | rfl
      · exact absurd hfew hgone
      · exact .inr howner

/-- Sixteen equal octets, which put all the points of all servers on one place and a short key
    behind it. -/
def coarseDigest (message : Bytes) : Bytes :=
  List.replicate 16 (if message.length < 3 then 1 else 0)

set_option maxRecDepth 100000 in
/-- Of three servers that share all their points by `coarseDigest`, the one of the least address
    owns a key behind them, and keeps it when another is taken away. -/
theorem locate_minimal_disruption_coarse :
    (ofEndpoints [⟨"b:1"⟩, ⟨"a:1"⟩, ⟨"c:1"⟩] coarseDigest).locate "k" coarseDigest = some ⟨"a:1"⟩ ∧
      (ofEndpoints [⟨"c:1"⟩, ⟨"a:1"⟩] coarseDigest).locate "k" coarseDigest = some ⟨"a:1"⟩ := by
  have howner : (ofEndpoints [⟨"b:1"⟩, ⟨"a:1"⟩, ⟨"c:1"⟩] coarseDigest).locate "k" coarseDigest =
      some ⟨"a:1"⟩ := by cbv
  refine ⟨howner, ?_⟩
  exact (locate_minimal_disruption coarseDigest "k" [⟨"c:1"⟩, ⟨"a:1"⟩] [⟨"b:1"⟩, ⟨"a:1"⟩, ⟨"c:1"⟩]
    (by decide)).1 ⟨"a:1"⟩ (by decide) howner

end Ring

end Memcache
