import Memcache.Bytes
import Memcache.Endpoint

/-!
# `Memcache.Endpoint.Socket` — numeric socket addresses

An Internet address with a port: four decimal numbers, or eight hexadecimal groups in brackets with
`::` for a run of zeros. Many spellings name one address; the printed form is the shortest.

## Contents

* `SocketAddress`; `SocketAddress.parse?` — any accepted spelling;
* `SocketAddress.text` — the one printed form, and `toEndpoint`.
-/

namespace Memcache

/-- An Internet address and a port. -/
inductive SocketAddress where
  | v4 (octets : List Nat) (port : Nat)
  | v6 (groups : List Nat) (scope port : Nat)
  deriving DecidableEq, Repr

namespace SocketAddress

/-! ## Reading -/

/-- A reader takes a value off the front, or leaves everything as it is. -/
abbrev Reader (α : Type) := List Char → Option (α × List Char)

/-- The value of a digit in a base up to sixteen. -/
def digitIn? (base : Nat) (c : Char) : Option Nat :=
  let n := c.toNat
  let value :=
    if 48 ≤ n ∧ n ≤ 57 then n - 48
    else if 97 ≤ n ∧ n ≤ 102 then n - 87
    else if 65 ≤ n ∧ n ≤ 70 then n - 55
    else base
  if value < base then some value else none

/-- A number with at most `width` digits (any number of them for 0) that is below `bound`. Unless
    `zeros` allows it, a number of several digits may not start with a zero. -/
def number (base width bound : Nat) (zeros : Bool) : Reader Nat := fun cs =>
  let digits := cs.takeWhile fun c => (digitIn? base c).isSome
  let rest := cs.dropWhile fun c => (digitIn? base c).isSome
  let value := digits.foldl (fun acc c => acc * base + (digitIn? base c).getD 0) 0
  if digits.isEmpty ∨ (0 < width ∧ width < digits.length) ∨ bound ≤ value then none
  else if !zeros ∧ 1 < digits.length ∧ cs.head? = some '0' then none
  else some (value, rest)

/-- One given character. -/
def char (c : Char) : Reader Unit
  | [] => none
  | x :: cs => if x = c then some ((), cs) else none

/-- A value after a separator; the first of a sequence has none. -/
def separated {α : Type} (sep : Char) (first : Bool) (r : Reader α) : Reader α := fun cs =>
  if first then r cs else (char sep cs).bind fun (_, rest) => r rest

/-- Four decimal numbers with points between them. -/
def octets : Reader (List Nat) := fun cs => do
  let octet := number 10 3 256 false
  let (a, cs) ← octet cs
  let (b, cs) ← separated '.' false octet cs
  let (c, cs) ← separated '.' false octet cs
  let (d, cs) ← separated '.' false octet cs
  some ([a, b, c, d], cs)

/-- Up to `limit` groups with colons between them, the last two perhaps written as four decimal
    numbers. Yields the groups, whether they end in such numbers, and the rest. -/
def groups (limit : Nat) (first : Bool) (cs : List Char) : List Nat × Bool × List Char :=
  match limit with
  | 0 => ([], false, cs)
  | limit + 1 =>
    match (if 0 < limit then separated ':' first octets cs else none) with
    | some ([a, b, c, d], rest) => ([a * 256 + b, c * 256 + d], true, rest)
    | _ =>
      match separated ':' first (number 16 4 65536 true) cs with
      | none => ([], false, cs)
      | some (g, rest) =>
        let (gs, dotted, rest) := groups limit false rest
        (g :: gs, dotted, rest)

/-- Eight groups of `groups`, one run of zeros perhaps left out. -/
def address6 : Reader (List Nat) := fun cs =>
  let (head, dotted, rest) := groups 8 true cs
  if head.length = 8 then some (head, rest)
  else if dotted then none
  else do
    let (_, rest) ← char ':' rest
    let (_, rest) ← char ':' rest
    let (tail, _, rest) := groups (7 - head.length) true rest
    some (head ++ List.replicate (8 - head.length - tail.length) 0 ++ tail, rest)

/-- A colon and a port, below 65536. -/
def port : Reader Nat := fun cs => do
  let (_, cs) ← char ':' cs
  number 10 0 65536 true cs

/-- A percent sign and the number of a scope. -/
def scope : Reader Nat := fun cs => do
  let (_, cs) ← char '%' cs
  number 10 0 UInt32.size true cs

/-- An address of four numbers, by `octets`, with its port. -/
def socket4 : Reader SocketAddress := fun cs => do
  let (a, cs) ← octets cs
  let (p, cs) ← port cs
  some (.v4 a p, cs)

/-- An address of eight groups in brackets, by `address6`, with its port. -/
def socket6 : Reader SocketAddress := fun cs => do
  let (_, cs) ← char '[' cs
  let (a, cs) ← address6 cs
  let (s, cs) := (scope cs).getD (0, cs)
  let (_, cs) ← char ']' cs
  let (p, cs) ← port cs
  some (.v6 a s p, cs)

/-- The address that a whole text spells, by `socket4` or `socket6`. -/
def parse? (text : String) : Option SocketAddress :=
  match (socket4 text.toList).orElse fun _ => socket6 text.toList with
  | some (a, []) => some a
  | _ => none

/-! ## Printing -/

/-- The length of the run of zeros at the front. -/
def zeroRun (gs : List Nat) : Nat :=
  (gs.takeWhile (· = 0)).length

/-- The start and length of the first longest run of zeros, looking from position `start` on. -/
def longestZeroRun (start : Nat) : List Nat → Nat × Nat
  | [] => (start, 0)
  | g :: gs =>
    let here := zeroRun (g :: gs)
    let later := longestZeroRun (start + 1) gs
    if later.2 ≤ here then (start, here) else later

/-- Groups with colons between them. -/
def groupText (gs : List Nat) : String :=
  ":".intercalate (gs.map (hexDigits 1))

/-- Four decimal numbers with points between them. -/
def octetText (octets : List Nat) : String :=
  ".".intercalate (octets.map toString)

/-- Eight groups: an embedded address of four numbers as such, the `longestZeroRun` as `::`. -/
def text6 (gs : List Nat) : String :=
  match gs with
  | [0, 0, 0, 0, 0, 0xffff, a, b] =>
    "::ffff:" ++ octetText [a / 256, a % 256, b / 256, b % 256]
  | _ =>
    let (start, length) := longestZeroRun 0 gs
    if 1 < length then groupText (gs.take start) ++ "::" ++ groupText (gs.drop (start + length))
    else groupText gs

/-- The printed form. -/
def text : SocketAddress → String
  | .v4 octets port => octetText octets ++ ":" ++ toString port
  | .v6 gs scope port =>
    let scopeText := if scope = 0 then "" else "%" ++ toString scope
    "[" ++ text6 gs ++ scopeText ++ "]:" ++ toString port

/-- The server at a numeric address. -/
def toEndpoint (a : SocketAddress) : Endpoint :=
  ⟨a.text⟩

end SocketAddress

end Memcache
