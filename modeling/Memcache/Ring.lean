import Memcache.Digest.Md5
import Memcache.Endpoint
import Memcache.Text.Utf8

/-!
# `Memcache.Ring` — which server owns a key

Every server puts 160 points on a circle of 32-bit numbers: forty digests, four little-endian words
each. A key belongs to the server of the first point at or after the key's own hash, and past the
last point to the server of the first. Taking a server away removes its points and no others.

The digest is MD5 unless another one is named; nothing here depends on which it is.

## Contents

* `Ring.hash`, `Ring.pointsOf` — places on the circle;
* `Ring.ofEndpoints` — the ring of a set of servers, in whatever order and number they are listed;
* `Ring.locate` — the owner of a key.
-/

namespace Memcache

/-- A ring: its servers in the order of their addresses, and their points in increasing order, equal
    points in the order of their servers. A point names its server by its position in the list. -/
structure Ring where
  endpoints : List Endpoint
  points : List (UInt32 × Nat)

namespace Ring

/-- How many digests give a server its points, four each. -/
def digestsPerEndpoint : Nat := 40

/-- The place of a key: the first word of its `digest`. -/
def hash (key : Bytes) (digest : Bytes → Bytes := Digest.md5) : UInt32 :=
  UInt32.ofNat (Digest.leValue ((digest key).take 4))

/-- The points of a server: the words of `digestsPerEndpoint` digests of its address and a
    number. -/
def pointsOf (e : Endpoint) (digest : Bytes → Bytes := Digest.md5) : List UInt32 :=
  (List.range digestsPerEndpoint).flatMap fun i =>
    Digest.leWords 4 (digest (Text.encode (e.address ++ "-" ++ toString i)))

/-- The order of points: by place, then by the position of the server. -/
def pointLe (a b : UInt32 × Nat) : Bool :=
  if a.1 = b.1 then a.2 ≤ b.2 else a.1 < b.1

/-- The ring of the listed servers, each with the points that `places` gives it. -/
def ofPlaces (places : Endpoint → List UInt32) (es : List Endpoint) : Ring :=
  let endpoints := es.eraseDups.mergeSort Endpoint.le
  { endpoints := endpoints
    points :=
      (endpoints.zipIdx.flatMap fun e => (places e.1).map fun p => (p, e.2)).mergeSort pointLe }

/-- The ring of the listed servers, each with the points of `pointsOf`. -/
def ofEndpoints (es : List Endpoint) (digest : Bytes → Bytes := Digest.md5) : Ring :=
  ofPlaces (pointsOf · digest) es

/-- The server of the first point at or after `place`; past the last point, that of the first. -/
def owner (r : Ring) (place : UInt32) : Option Endpoint :=
  let position := r.points.findIdx fun p => place ≤ p.1
  match r.points[position % r.points.length]? with
  | none => none
  | some p => r.endpoints[p.2]?

/-- The `owner` of the place that `hash` gives a key; none on an empty ring. -/
def locate (r : Ring) (key : String) (digest : Bytes → Bytes := Digest.md5) : Option Endpoint :=
  r.owner (hash (Text.encode key) digest)

end Ring

end Memcache
