/-!
# `Memcache.Bytes` — byte strings and big-endian fields

A byte string is a list of octets, so that every definition on it is a recursion on the list and
every statement about it an induction. The wire format needs one thing more: unsigned numbers of a
fixed width, most significant octet first.

## Contents

* `be w n` writes `n` in `w` octets and keeps the low `8 * w` bits; `beValue` reads them back.
* `beValue_be` — **writing then reading gives the low `8 * w` bits of `n`**, so a field that is too
  narrow truncates and never spills into its neighbour.
* `hex` and `hexDigits` are the lower-case hexadecimal texts of octets and numbers.
-/

namespace Memcache

/-- A byte string. -/
abbrev Bytes := List UInt8

/-- True for fewer than `n` octets. At most `n` of them are looked at. -/
def shorterThan : Bytes → Nat → Bool
  | _, 0 => false
  | [], _ + 1 => true
  | _ :: bs, n + 1 => shorterThan bs n

@[simp] theorem shorterThan_iff (bs : Bytes) (n : Nat) :
    shorterThan bs n = true ↔ bs.length < n := by
  induction n generalizing bs with
  | zero => simp [shorterThan]
  | succ n ih => cases bs <;> simp [shorterThan, ih]

/-! ## Big-endian fields -/

/-- The low `8 * w` bits of `n`, most significant octet first. -/
def be : Nat → Nat → Bytes
  | 0, _ => []
  | w + 1, n => UInt8.ofNat (n >>> (8 * w)) :: be w n

/-- The number that a string of octets denotes, most significant octet first. -/
def beValue (bs : Bytes) : Nat :=
  bs.foldl (fun acc b => acc * 256 + b.toNat) 0

@[simp] theorem length_be (w n : Nat) : (be w n).length = w := by
  induction w with
  | zero => rfl
  | succ w ih => simp [be, ih]

theorem foldl_be (w n acc : Nat) :
    (be w n).foldl (fun acc b => acc * 256 + b.toNat) acc =
      acc <<< (8 * w) + n % (1 <<< (8 * w)) := by
  have hshift : ∀ w m : Nat, m <<< (8 * w) = m * 256 ^ w := by
    intro w m
    rw [Nat.shiftLeft_eq, Nat.pow_mul]
  rw [hshift, hshift, Nat.one_mul]
  induction w generalizing acc with
  | zero => simp [be, Nat.mod_one]
  | succ w ih =>
    have hsplit : n % 256 ^ (w + 1) = 256 ^ w * (n / 256 ^ w % 256) + n % 256 ^ w := by
      rw [Nat.pow_succ, Nat.mod_mul, Nat.add_comm]
    have hoct : (UInt8.ofNat (n >>> (8 * w))).toNat = n / 256 ^ w % 256 := by
      rw [UInt8.toNat_ofNat', Nat.shiftRight_eq_div_pow, Nat.pow_mul]
    rw [be, List.foldl_cons, ih, hoct, hsplit, Nat.pow_succ, Nat.add_mul,
      Nat.mul_comm (n / 256 ^ w % 256), Nat.mul_assoc acc, Nat.mul_comm 256, Nat.add_assoc]

/-- **A field of `be` reads back by `beValue` as what was written, as far as it is wide.** -/
theorem beValue_be (w n : Nat) : beValue (be w n) = n % (1 <<< (8 * w)) := by
  simp [beValue, foldl_be]

/-! ## Hexadecimal text -/

/-- One hexadecimal digit, lower case. -/
def hexDigit (n : Nat) : Char :=
  if n < 10 then Char.ofNat (48 + n) else Char.ofNat (87 + n)

/-- The two digits of each octet, by `hexDigit`. -/
def hex (bs : Bytes) : String :=
  String.ofList (bs.flatMap fun b => [hexDigit (b.toNat / 16), hexDigit (b.toNat % 16)])

/-- The number in hexadecimal with at least `width` digits. -/
def hexDigits (width n : Nat) : String :=
  let digits := Nat.toDigits 16 n
  String.ofList (List.replicate (width - digits.length) '0' ++ digits)

end Memcache
