import Memcache.Text.Utf8

/-!
# `Memcache.Proofs.Text.Lossy` — texts through the forgiving decoder

`Text.decodeLossy` answers to any octets, and puts U+FFFD where they are malformed. The octets of a
text, `Text.encode`, are not, so `Text.next` reads each character in turn and the text comes back. A
character has one to four octets; `Text.leadByte` of the first tells how many follow it, within
which range, and gives its high bits.

## Contents

* `Text.encode_eq_flatMap` — the octets of a text are those of its characters;
* `Text.next_utf8EncodeChar` — one character is read from its octets;
* `Text.decodeLossy_encode` — **every text reads back**; `Text.encode_injective`.
-/

namespace Memcache.Text

/-- The octets of a text by `encode` are those of its characters. -/
theorem encode_eq_flatMap (s : String) :
    encode s = s.toList.flatMap String.utf8EncodeChar := by
  unfold encode
  rw [← String.utf8Encode_toList, List.utf8Encode, List.data_toByteArray]

/-! ## One character -/

/-- One octet that `continuation` reads gives six bits. -/
theorem continuation_ofNat {need acc n : Nat} {lo hi : UInt8} (bs : Bytes) (hlo : lo.toNat ≤ n)
    (hhi : n ≤ hi.toNat) :
    continuation (need + 1) lo hi acc (UInt8.ofNat n :: bs) =
      continuation need 0x80 0xbf (acc * 64 + n % 64) bs := by
  have hn : (UInt8.ofNat n).toNat = n :=
    UInt8.toNat_ofNat_of_lt' (Nat.lt_of_le_of_lt hhi hi.toNat_lt)
  rw [continuation, if_pos, hn]
  rw [UInt8.le_iff_toNat_le, UInt8.le_iff_toNat_le, hn]
  exact ⟨hlo, hhi⟩

/-- What must follow a first octet, by its number, in `leadByte`. -/
theorem leadByte_ofNat {n : Nat} (h : n < 256) :
    leadByte (UInt8.ofNat n) =
      if n < 0x80 then some (0, 0x80, 0xbf, n)
      else if n < 0xc2 then none
      else if n < 0xe0 then some (1, 0x80, 0xbf, n - 0xc0)
      else if n = 0xe0 then some (2, 0xa0, 0xbf, 0)
      else if n = 0xed then some (2, 0x80, 0x9f, 0xd)
      else if n < 0xf0 then some (2, 0x80, 0xbf, n - 0xe0)
      else if n = 0xf0 then some (3, 0x90, 0xbf, 0)
      else if n < 0xf4 then some (3, 0x80, 0xbf, n - 0xf0)
      else if n = 0xf4 then some (3, 0x80, 0x8f, 4)
      else none := by
  unfold leadByte
  rw [UInt8.toNat_ofNat_of_lt' h]

/-- The first octet of a character of two octets, in `leadByte`. -/
theorem leadByte_two {v : Nat} (hlow : 0x7f < v) (hhigh : v ≤ 0x7ff) :
    leadByte (UInt8.ofNat (v / 64 % 0x20 + 0xc0)) = some (1, 0x80, 0xbf, v / 64) := by
  have hbits : v / 64 % 0x20 + 0xc0 - 0xc0 = v / 64 := by omega
  rw [leadByte_ofNat (by omega), if_neg (by omega), if_neg (by omega), if_pos (by omega), hbits]

/-- The first octet of a character of three, whose second octet is in the range `lo` to `hi` that
    `leadByte` asks for. -/
theorem leadByte_three {v : Nat} (hlow : 0x7ff < v) (hhigh : v ≤ 0xffff)
    (hvalid : v < 0xd800 ∨ 0xdfff < v) :
    ∃ lo hi, leadByte (UInt8.ofNat (v / 4096 % 0x10 + 0xe0)) = some (2, lo, hi, v / 4096) ∧
      lo.toNat ≤ v / 64 % 0x40 + 0x80 ∧ v / 64 % 0x40 + 0x80 ≤ hi.toNat := by
  rw [leadByte_ofNat (by omega), if_neg (by omega), if_neg (by omega), if_neg (by omega)]
  by_cases hfirst : v / 4096 = 0
  · refine ⟨0xa0, 0xbf, ?_, ?_, ?_⟩
    · rw [if_pos (by omega), hfirst]
    all_goals simp only [UInt8.reduceToNat]; omega
  · rw [if_neg (by omega)]
    by_cases hsurrogates : v / 4096 = 0xd
    · refine ⟨0x80, 0x9f, ?_, ?_, ?_⟩
      · rw [if_pos (by omega), hsurrogates]
      all_goals simp only [UInt8.reduceToNat]; omega
    · refine ⟨0x80, 0xbf, ?_, ?_, ?_⟩
      · have hbits : v / 4096 % 0x10 + 0xe0 - 0xe0 = v / 4096 := by omega
        rw [if_neg (by omega), if_pos (by omega), hbits]
      all_goals simp only [UInt8.reduceToNat]; omega

/-- The same of a character of four octets. -/
theorem leadByte_four {v : Nat} (hlow : 0xffff < v) (hhigh : v < 0x110000) :
    ∃ lo hi, leadByte (UInt8.ofNat (v / 262144 % 0x08 + 0xf0)) = some (3, lo, hi, v / 262144) ∧
      lo.toNat ≤ v / 4096 % 0x40 + 0x80 ∧ v / 4096 % 0x40 + 0x80 ≤ hi.toNat := by
  rw [leadByte_ofNat (by omega), if_neg (by omega), if_neg (by omega), if_neg (by omega),
    if_neg (by omega), if_neg (by omega), if_neg (by omega)]
  by_cases hfirst : v / 262144 = 0
  · refine ⟨0x90, 0xbf, ?_, ?_, ?_⟩
    · rw [if_pos (by omega), hfirst]
    all_goals simp only [UInt8.reduceToNat]; omega
  · rw [if_neg (by omega)]
    by_cases hlast : v / 262144 = 4
    · refine ⟨0x80, 0x8f, ?_, ?_, ?_⟩
      · rw [if_neg (by omega), if_pos (by omega), hlast]
      all_goals simp only [UInt8.reduceToNat]; omega
    · refine ⟨0x80, 0xbf, ?_, ?_, ?_⟩
      · have hbits : v / 262144 % 0x08 + 0xf0 - 0xf0 = v / 262144 := by omega
        rw [if_pos (by omega), hbits]
      all_goals simp only [UInt8.reduceToNat]; omega

/-- **One character is read by `next` from its octets**, whatever follows them. -/
theorem next_utf8EncodeChar (c : Char) :
    ∃ b bs, String.utf8EncodeChar c = b :: bs ∧ ∀ rest, next b (bs ++ rest) = (some c, rest) := by
  have hvalid : c.val.toNat < 0xd800 ∨ 0xdfff < c.val.toNat ∧ c.val.toNat < 0x110000 := c.valid
  have hback : Char.ofNat c.val.toNat = c := Char.ofNat_toNat c
  unfold String.utf8EncodeChar
  generalize c.val.toNat = v at hvalid hback
  have hlow : ∀ n, (0x80 : UInt8).toNat ≤ n % 0x40 + 0x80 := fun n => Nat.le_add_left 0x80 _
  have hhigh : ∀ n, n % 0x40 + 0x80 ≤ (0xbf : UInt8).toNat := by
    intro n
    simp only [UInt8.reduceToNat]
    omega
  have hread : ∀ code : Nat, code = v → (some code).map Char.ofNat = some c := by
    rintro code rfl
    rw [Option.map_some, hback]
  dsimp only
  by_cases hone : v ≤ 0x7f
  · rw [if_pos hone]
    refine ⟨_, _, rfl, fun rest => ?_⟩
    rw [next, leadByte_ofNat (by omega), if_pos (by omega)]
    exact congrArg (·, rest) (hread v rfl)
  rw [if_neg hone]
  by_cases htwo : v ≤ 0x7ff
  · rw [if_pos htwo]
    refine ⟨_, _, rfl, fun rest => ?_⟩
    rw [next, leadByte_two (by omega) htwo]
    dsimp only [List.cons_append, List.nil_append]
    rw [continuation_ofNat _ (hlow _) (hhigh _)]
    refine congrArg (·, rest) (hread _ ?_)
    omega
  rw [if_neg htwo]
  by_cases hthree : v ≤ 0xffff
  · rw [if_pos hthree]
    refine ⟨_, _, rfl, fun rest => ?_⟩
    obtain ⟨lo, hi, hlead, hlo, hhi⟩ := leadByte_three (v := v) (by omega) hthree (by omega)
    rw [next, hlead]
    dsimp only [List.cons_append, List.nil_append]
    rw [continuation_ofNat _ hlo hhi, continuation_ofNat _ (hlow _) (hhigh _)]
    refine congrArg (·, rest) (hread _ ?_)
    omega
  rw [if_neg hthree]
  refine ⟨_, _, rfl, fun rest => ?_⟩
  obtain ⟨lo, hi, hlead, hlo, hhi⟩ := leadByte_four (v := v) (by omega) (by omega)
  rw [next, hlead]
  dsimp only [List.cons_append, List.nil_append]
  rw [continuation_ofNat _ hlo hhi, continuation_ofNat _ (hlow _) (hhigh _),
    continuation_ofNat _ (hlow _) (hhigh _)]
  refine congrArg (·, rest) (hread _ ?_)
  omega

/-! ## Whole texts -/

theorem go_flatMap (cs : List Char) (acc : String) :
    decodeLossy.go (cs.flatMap String.utf8EncodeChar) acc = acc ++ String.ofList cs := by
  induction cs generalizing acc with
  | nil =>
      rw [List.flatMap_nil, decodeLossy.go, String.ofList_nil, String.append_empty]
  | cons c cs ih =>
      obtain ⟨b, bs, hoctets, hnext⟩ := next_utf8EncodeChar c
      rw [List.flatMap_cons, hoctets, List.cons_append, decodeLossy.go, hnext, ih]
      simp [String.ext_iff]

/-- **Every text reads back**: `decodeLossy` undoes `encode`. -/
@[simp] theorem decodeLossy_encode (s : String) : decodeLossy (encode s) = s := by
  rw [decodeLossy, encode_eq_flatMap, go_flatMap, String.ofList_toList, String.empty_append]

/-- Texts differ in their octets. -/
theorem encode_injective : Function.Injective encode :=
  Function.LeftInverse.injective decodeLossy_encode

/-- A text that is not empty has octets. -/
theorem encode_ne_nil {s : String} (h : s ≠ "") : encode s ≠ [] := by
  intro hnil
  exact h (encode_injective hnil)

end Memcache.Text
