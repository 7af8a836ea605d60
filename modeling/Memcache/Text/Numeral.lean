/-!
# `Memcache.Text.Numeral` — decimal numerals with a limit

A numeral is an optional sign and one or more ASCII digits, with nothing around them. Unsigned
numerals take a plus sign only, and a value outside the target range is no numeral of that type.

The value of a run of digits is counted no further than a ceiling just outside the range, so a
numeral of any length is read in time proportional to it.

## Contents

* `digits? ceiling` — the value of a non-empty run of digits, up to `ceiling`;
* `parseNat? bound` — an unsigned numeral below `bound`;
* `parseInt? bound` — a signed numeral in `-bound ≤ n < bound`.
-/

namespace Memcache.Text

/-- The value of one ASCII digit. -/
def digit? (c : Char) : Option Nat :=
  if 48 ≤ c.toNat ∧ c.toNat ≤ 57 then some (c.toNat - 48) else none

/-- The value of digits written after a number that is already `acc`, or `ceiling` if that is
    less. -/
def digitsFrom? (ceiling : Nat) : Nat → List Char → Option Nat
  | acc, [] => some acc
  | acc, c :: cs =>
    (digit? c).bind fun d => digitsFrom? ceiling (min (acc * 10 + d) ceiling) cs

/-- The value of a non-empty run of digits, or `ceiling` if that is less. -/
def digits? (ceiling : Nat) (cs : List Char) : Option Nat :=
  if cs.isEmpty then none else digitsFrom? ceiling 0 cs

/-- An unsigned numeral below `bound`. -/
def parseNat? (bound : Nat) (cs : List Char) : Option Nat :=
  let body := match cs with
    | '+' :: rest => rest
    | _ => cs
  (digits? bound body).filter (· < bound)

/-- A signed numeral from `-bound` up to, not including, `bound`. -/
def parseInt? (bound : Nat) (cs : List Char) : Option Int :=
  match cs with
  | '-' :: rest => ((digits? (bound + 1) rest).filter (· ≤ bound)).map fun n => -(n : Int)
  | _ => (parseNat? bound cs).map Int.ofNat

/-- A numeral of 64 unsigned bits. -/
def parseU64? (cs : List Char) : Option UInt64 :=
  (parseNat? UInt64.size cs).map UInt64.ofNat

/-- A numeral of 64 signed bits. -/
def parseI64? (cs : List Char) : Option Int64 :=
  (parseInt? (UInt64.size / 2) cs).map Int64.ofInt

end Memcache.Text
