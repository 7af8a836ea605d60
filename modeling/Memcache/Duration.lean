/-!
# `Memcache.Duration` — lengths of time

A length of time is a whole number of nanoseconds. Messages show it in the largest unit of which it
holds at least one, with as many decimals as it takes to be exact.

## Contents

* `Duration`, `Time` and the units;
* `Duration.longest` — the longest length that a caller can ask for, used for "without end";
* `Duration.text` — the exact text, such as `1.5s` or `50ms`.
-/

namespace Memcache

/-- A length of time in nanoseconds. -/
abbrev Duration := Nat

/-- A moment on the clock of a run, in nanoseconds since the run began. -/
abbrev Time := Nat

namespace Duration

/-- Whole seconds. -/
def seconds (n : Nat) : Duration :=
  n * 1000000000

/-- Whole milliseconds. -/
def millis (n : Nat) : Duration :=
  n * 1000000

/-- How many whole milliseconds fit. -/
def toMillis (d : Duration) : Nat :=
  d / 1000000

/-- The longest length: `2 ^ 64` seconds less one nanosecond. -/
def longest : Duration :=
  seconds UInt64.size - 1

/-- A fraction with `places` decimals, without its trailing zeros and without a lonely point. -/
def fraction (places n : Nat) : String :=
  let digits := Nat.toDigits 10 n
  let all := List.replicate (places - digits.length) '0' ++ digits
  let kept := (all.reverse.dropWhile (· = '0')).reverse
  if kept.isEmpty then "" else String.ofList ('.' :: kept)

/-- The exact text of a length. -/
def text (d : Duration) : String :=
  let part (unit places : Nat) (name : String) :=
    toString (d / unit) ++ fraction places (d % unit) ++ name
  if 1000000000 ≤ d then part 1000000000 9 "s"
  else if 1000000 ≤ d then part 1000000 6 "ms"
  else if 1000 ≤ d then part 1000 3 "µs"
  else toString d ++ "ns"

end Duration

end Memcache
