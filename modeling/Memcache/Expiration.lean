import Memcache.Duration

/-!
# `Memcache.Expiration` — when an item ends, in 32 bits

A server reads an expiration as one number: 0 is never, up to thirty days is a distance from now in
seconds, and anything larger is a moment in seconds since the epoch. Longer distances therefore
become moments, and what does not fit becomes never.

## Contents

* `WallTime`, `Expiration`, `ExpirationError`;
* `Expiration.encodeAt` — the number for an expiration that is asked for at a given moment.
-/

namespace Memcache

/-- A moment of the calendar, in nanoseconds since the epoch. -/
abbrev WallTime := Int

/-- The first moment whose seconds do not fit in 64 signed bits. -/
def WallTime.limit : WallTime :=
  (UInt64.size / 2 : Nat) * 1000000000

/-- When an item ends. -/
inductive Expiration where
  | never
  /-- After a length of time. -/
  | after (d : Duration)
  /-- At a moment. -/
  | at (t : WallTime)
  deriving DecidableEq, Repr

/-- Why a moment cannot be an expiration. -/
inductive ExpirationError where
  | beforeEpoch
  | outOfRange (seconds : Nat)
  deriving DecidableEq, Repr

/-- The wording of an error. -/
def ExpirationError.message : ExpirationError → String
  | .beforeEpoch => "absolute expiration is before the unix epoch"
  | .outOfRange s => s!"absolute expiration {s} does not fit in 32 bits"

namespace Expiration

/-- The longest distance that a server reads as one: thirty days. -/
def maxRelative : Duration :=
  Duration.seconds 2592000

/-- The number of a moment in whole seconds, if it fits in 32 bits. Second 0 is written as 1, since
    0 would mean never. -/
def unixSeconds (t : WallTime) : Except ExpirationError UInt32 :=
  if t < 0 then .error .beforeEpoch
  else
    let seconds := t.toNat / 1000000000
    if seconds < UInt32.size then .ok (UInt32.ofNat (max seconds 1)) else .error (.outOfRange seconds)

/-- The number for a length of time asked for at `now`: the seconds of `d` up to `maxRelative`, and
    those of the moment of its end beyond that, or 0 for never if that moment has no number. Parts
    of a second count as a whole one, so that a short time does not become never. -/
def encodeAfter (now : WallTime) (d : Duration) : Except ExpirationError UInt32 :=
  if d = 0 ∨ Duration.longest ≤ d then .ok 0
  else if d ≤ maxRelative then .ok (UInt32.ofNat ((d + 999999999) / 1000000000))
  else if WallTime.limit ≤ now + d then .ok 0
  else
    match unixSeconds (now + d) with
    | .error (.outOfRange _) => .ok 0
    | other => other

/-- The number for an expiration asked for at `now`. -/
def encodeAt (now : WallTime) : Expiration → Except ExpirationError UInt32
  | .never => .ok 0
  | .after d => encodeAfter now d
  | .at t => unixSeconds t

end Expiration

end Memcache
