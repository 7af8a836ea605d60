import Mathlib
import Memcache.Text.Blank
import Memcache.Text.Numeral

/-!
# `Memcache.Proofs.Text.Decimal` — decimal texts of numbers read back

`Text.digitsFrom?` reads a numeral digit by digit, and counts its value no further than a ceiling
just outside the range. That is no loss: a number that has passed the ceiling stays there, and one
that has not is counted exactly. So the text of a number of 64 bits, with or without sign, is read
as that number.

## Contents

* `digitsFrom?_eq`, `digits?_toDigits` — a run of digits is counted up to the ceiling;
* `trimChars_eq_self` — texts without blanks are not trimmed;
* `parseU64?_toString`, `parseI64?_toString` — **every number reads back from its decimal text**.
-/

namespace Memcache.Text

/-! ## Digits -/

theorem toNat_of_isDigit {c : Char} (h : c.isDigit = true) : 48 ≤ c.toNat ∧ c.toNat ≤ 57 := by
  rw [Char.isDigit, Bool.and_eq_true, decide_eq_true_eq, decide_eq_true_eq] at h
  exact h

theorem digit?_of_isDigit {c : Char} (h : c.isDigit = true) : digit? c = some (c.toNat - 48) :=
  if_pos (toNat_of_isDigit h)

/-- **By `digitsFrom?` digits behind a number are counted up to the `ceiling`.** The number `acc`
    may have passed it. -/
theorem digitsFrom?_eq (ceiling acc : Nat) {cs : List Char} (h : ∀ c ∈ cs, c.isDigit = true) :
    digitsFrom? ceiling (min acc ceiling) cs =
      some (min (Nat.ofDigitChars 10 cs acc) ceiling) := by
  induction cs generalizing acc with
  | nil => rw [digitsFrom?, Nat.ofDigitChars_nil]
  | cons c cs ih =>
      -- a number at the ceiling stays there whatever digits come
      have hstep : min (min acc ceiling * 10 + (c.toNat - 48)) ceiling =
          min (10 * acc + (c.toNat - 48)) ceiling := by
        omega
      rw [digitsFrom?, digit?_of_isDigit (h c List.mem_cons_self), Option.bind_some, hstep,
        ih _ fun c' hc' => h c' (List.mem_cons_of_mem c hc'), Nat.ofDigitChars_cons]
      rfl

/-- The digits of a number that is not beyond the `ceiling` are read by `digits?` as that number. -/
theorem digits?_toDigits {ceiling n : Nat} (h : n ≤ ceiling) :
    digits? ceiling (Nat.toDigits 10 n) = some n := by
  have hdigits : ∀ c ∈ Nat.toDigits 10 n, c.isDigit = true := fun c hc =>
    Nat.isDigit_of_mem_toDigits (by decide) (by decide) hc
  have hcount := digitsFrom?_eq ceiling 0 hdigits
  rw [Nat.zero_min, Nat.ofDigitChars_ten_toDigits, Nat.min_eq_left h] at hcount
  have hne : ¬ (Nat.toDigits 10 n).isEmpty = true := by
    rw [List.isEmpty_iff]
    exact Nat.toDigits_ne_nil
  rw [digits?, if_neg hne, hcount]

/-! ## Blanks -/

theorem dropWhile_isBlank_eq_self {cs : List Char}
    (h : ∀ c, cs.head? = some c → isBlank c = false) : cs.dropWhile isBlank = cs := by
  cases cs with
  | nil => rfl
  | cons c cs => rw [List.dropWhile_cons_of_neg (by simp [h c List.head?_cons])]

/-- A text without blanks is what `trimChars` leaves of it. -/
theorem trimChars_eq_self {cs : List Char} (h : ∀ c ∈ cs, isBlank c = false) :
    trimChars cs = cs := by
  have hfront : cs.dropWhile isBlank = cs :=
    dropWhile_isBlank_eq_self fun c hc => h c (List.mem_of_mem_head? hc)
  have hback : cs.reverse.dropWhile isBlank = cs.reverse :=
    dropWhile_isBlank_eq_self fun c hc => h c (List.mem_reverse.mp (List.mem_of_mem_head? hc))
  rw [trimChars, hfront, hback, List.reverse_reverse]

theorem isBlank_of_isDigit {c : Char} (h : c.isDigit = true) : isBlank c = false := by
  obtain ⟨hlow, hhigh⟩ := toNat_of_isDigit h
  simp only [isBlank, inRanges, blanks, List.any_cons, List.any_nil, Bool.or_false,
    Bool.or_eq_false_iff, Bool.and_eq_false_imp, decide_eq_true_eq, decide_eq_false_iff_not, not_le]
  omega

/-! ## Numbers -/

theorem toList_toString (n : Nat) : (toString n).toList = Nat.toDigits 10 n := by
  rw [Nat.toString_eq_repr, Nat.toList_repr]

theorem isDigit_of_mem_toString {n : Nat} {c : Char} (h : c ∈ (toString n).toList) :
    c.isDigit = true := by
  rw [toList_toString] at h
  exact Nat.isDigit_of_mem_toDigits (by decide) (by decide) h

/-- The text of a number below `bound` is read by `parseNat?` as that number. -/
theorem parseNat?_toString {bound n : Nat} (h : n < bound) :
    parseNat? bound (toString n).toList = some n := by
  have hdigits : ∀ c ∈ (toString n).toList, c.isDigit = true := fun c =>
    isDigit_of_mem_toString
  rw [toList_toString] at hdigits ⊢
  have hread := digits?_toDigits (Nat.le_of_lt h)
  unfold parseNat?
  dsimp only
  split
  · next rest heq =>
      have hplus : ('+' : Char).isDigit = true := hdigits '+' (heq ▸ List.mem_cons_self)
      contradiction
  · rw [hread, Option.filter_some, decide_eq_true h]
    rfl

/-- **Every unsigned number of 64 bits reads back from its decimal text**, by `parseU64?`. -/
theorem parseU64?_toString (n : UInt64) : parseU64? (toString n.toNat).toList = some n := by
  rw [parseU64?, parseNat?_toString n.toNat_lt, Option.map_some, UInt64.ofNat_toNat]

/-- The text of an integer from `-bound` and below `bound` is read by `parseInt?` as that
    integer. -/
theorem parseInt?_toString {bound : Nat} {n : Int} (hlow : -(bound : Int) ≤ n)
    (hhigh : n < bound) : parseInt? bound (toString n).toList = some n := by
  cases n with
  | ofNat m =>
      have hm : m < bound := by
        simpa using hhigh
      show parseInt? bound (toString m).toList = _
      have hread := parseNat?_toString hm
      unfold parseInt?
      split
      · next rest heq =>
          have hminus : ('-' : Char).isDigit = true :=
            isDigit_of_mem_toString (n := m) (heq ▸ List.mem_cons_self)
          contradiction
      · rw [hread]
        rfl
  | negSucc m =>
      have hm : m + 1 ≤ bound := by
        omega
      have htext : (toString (Int.negSucc m)).toList = '-' :: Nat.toDigits 10 (m + 1) := by
        show ("-" ++ (m + 1).repr).toList = _
        rw [String.toList_append, Nat.toList_repr]
        rfl
      rw [htext]
      rw [parseInt?, digits?_toDigits (by omega), Option.filter_some, decide_eq_true hm]
      rfl

/-- **Every signed number of 64 bits reads back from its decimal text**, by `parseI64?`. -/
theorem parseI64?_toString (n : Int64) : parseI64? (toString n.toInt).toList = some n := by
  have hsize : UInt64.size / 2 = 2 ^ 63 := by decide
  have hlow := n.le_toInt
  have hhigh := n.toInt_lt
  rw [parseI64?, hsize, parseInt?_toString (by exact_mod_cast hlow) (by exact_mod_cast hhigh),
    Option.map_some, Int64.ofInt_toInt]

/-- The text of an integer has no blanks by `isBlank`. -/
theorem isBlank_of_mem_toString {n : Int} {c : Char} (h : c ∈ (toString n).toList) :
    isBlank c = false := by
  cases n with
  | ofNat m => exact isBlank_of_isDigit (isDigit_of_mem_toString (n := m) h)
  | negSucc m =>
      have hmem : c ∈ ("-" ++ toString (m + 1)).toList := h
      rw [String.toList_append, List.mem_append] at hmem
      rcases hmem with hsign | hdigit
      · obtain rfl : c = '-' := List.mem_singleton.mp hsign
        decide
      · exact isBlank_of_isDigit (isDigit_of_mem_toString hdigit)

end Memcache.Text
