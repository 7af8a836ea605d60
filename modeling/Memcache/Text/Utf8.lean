import Memcache.Bytes

/-!
# `Memcache.Text.Utf8` — octets of a text, and texts out of octets

Texts travel as UTF-8. Reading is offered in two strengths: `decode?` refuses malformed octets,
`decodeLossy` puts U+FFFD in the place of each malformed part and always answers.

## Contents

* `encode`, `decode?`, and `decode?_encode` — **every text reads back**; `decode?_eq_some_iff` — and
  is read from nothing else;
* `next` — one character, or the longest start of a character that cannot be completed;
* `decodeLossy` — the repeated `next`.
-/

namespace Memcache.Text

/-- The octets of a text. -/
def encode (s : String) : Bytes :=
  s.toByteArray.data.toList

/-- The text whose octets these are, if they are well-formed UTF-8. -/
def decode? (bs : Bytes) : Option String :=
  String.fromUTF8? ⟨bs.toArray⟩

/-- **Every text reads back from its octets:** `decode?` undoes `encode`. -/
theorem decode?_encode (s : String) : decode? (encode s) = some s := by
  have h : (⟨(encode s).toArray⟩ : ByteArray) = s.toByteArray := by simp [encode]
  rw [decode?, h, String.fromUTF8?, dif_pos s.isValidUTF8]
  rfl

/-- A text is read by `decode?` from its own octets only. -/
theorem decode?_eq_some_iff {bs : Bytes} {s : String} : decode? bs = some s ↔ bs = encode s := by
  constructor
  · intro h
    unfold decode? String.fromUTF8? at h
    split at h
    · obtain rfl := Option.some.inj h
      rfl
    · contradiction
  · rintro rfl
    exact decode?_encode s

/-! ## Malformed octets -/

/-- What must follow a first octet: how many octets, the range of the first of them, and the bits
    that the first octet gives. `none` for an octet that starts no character. -/
def leadByte (b : UInt8) : Option (Nat × UInt8 × UInt8 × Nat) :=
  let n := b.toNat
  if n < 0x80 then some (0, 0x80, 0xbf, n)
  else if n < 0xc2 then none
  else if n < 0xe0 then some (1, 0x80, 0xbf, n - 0xc0)
  else if n = 0xe0 then some (2, 0xa0, 0xbf, 0)
  else if n = 0xed then some (2, 0x80, 0x9f, 0xd)
  else if n < 0xf0 then some (2, 0x80, 0xbf, n - 0xe0)
  else if n = 0xf0 then some (3, 0x90, 0xbf, 0)
  else if n < 0xf4 then some (3, 0x80, 0xbf, n - 0xf0)
  else if n = 0xf4 then some (3, 0x80, 0x8f, 4)
  else none

/-- Reads `need` continuation octets, the first of them between `lo` and `hi`, onto the code point
    `acc`. Stops in front of the first octet that does not fit. -/
def continuation : Nat → UInt8 → UInt8 → Nat → Bytes → Option Nat × Bytes
  | 0, _, _, acc, bs => (some acc, bs)
  | _ + 1, _, _, _, [] => (none, [])
  | need + 1, lo, hi, acc, b :: bs =>
    if lo ≤ b ∧ b ≤ hi then continuation need 0x80 0xbf (acc * 64 + b.toNat % 64) bs
    else (none, b :: bs)

theorem length_continuation_le (need : Nat) (lo hi : UInt8) (acc : Nat) (bs : Bytes) :
    (continuation need lo hi acc bs).2.length ≤ bs.length := by
  induction bs generalizing need lo hi acc with
  | nil => cases need <;> simp [continuation]
  | cons b bs ih =>
    cases need with
    | zero => simp [continuation]
    | succ need =>
      simp only [continuation]
      split
      · exact Nat.le_trans (ih ..) (Nat.le_succ _)
      · simp

/-- The character that starts with `b`, or `none` for a malformed part, and the octets after it. -/
def next (b : UInt8) (bs : Bytes) : Option Char × Bytes :=
  match leadByte b with
  | none => (none, bs)
  | some (need, lo, hi, acc) =>
    let (code, rest) := continuation need lo hi acc bs
    (code.map Char.ofNat, rest)

theorem length_next_le (b : UInt8) (bs : Bytes) : (next b bs).2.length ≤ bs.length := by
  unfold next
  split
  · simp
  · exact length_continuation_le ..

/-- The text of any octets, read by `next`, with U+FFFD for each malformed part. -/
def decodeLossy (bs : Bytes) : String :=
  go bs ""
where
  go : Bytes → String → String
    | [], acc => acc
    | b :: bs, acc =>
      have := length_next_le b bs
      go (next b bs).2 (acc.push ((next b bs).1.getD '\ufffd'))
  termination_by bs => bs.length

end Memcache.Text
