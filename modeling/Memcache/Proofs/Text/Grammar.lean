import Mathlib
import Memcache.Proofs.Text.Decimal

/-!
# `Memcache.Proofs.Text.Grammar` — which texts are numerals

A numeral is one or more ASCII digits, perhaps with a sign in front. Here that is said as a grammar,
`Text.Unsigned` and `Text.Signed`, with the number that a numeral denotes, and without a word on how
it is read. `Text.parseNat?` and `Text.parseInt?` accept a text just if the grammar does and the
number is in the range. They may count no further than a ceiling: what they count is a number in the
range just if the number itself is.

`Text.trimChars` cuts off white space around a text before it is read. Every text is what it is cut
down to, padded (`Text.Padded`), and no white space is left at its ends (`Text.Bare`); nothing else
is like that. No numeral has any inside, so a padded numeral is cut down to the numeral.

## Contents

* `Text.Digits`, `Text.Unsigned`, `Text.Signed` — the grammar; `Unsigned.eq_of_signed` — **a numeral
  denotes one number**;
* `Text.parseNat?_eq_some_iff`, `Text.parseInt?_eq_some_iff`, `Text.parseU64?_eq_some_iff`,
  `Text.parseI64?_eq_some_iff` — **what is read**;
* `Text.Padded`, `Text.Bare`; `Text.padded_trimChars`, `Text.bare_trimChars`,
  `Text.Padded.trimChars_eq_of_bare` — **what is cut off**.
-/

namespace Memcache.Text

/-! ## The grammar -/

/-- The text `cs` is one or more digits, and `n` the number that they denote. -/
structure Digits (cs : List Char) (n : Nat) : Prop where
  ne_nil : cs ≠ []
  isDigit : ∀ c ∈ cs, c.isDigit = true
  value : Nat.ofDigitChars 10 cs 0 = n

/-- A numeral without a sign, or with a plus sign, and the number that it denotes. -/
inductive Unsigned : List Char → Nat → Prop where
  | plain {cs : List Char} {n : Nat} (h : Digits cs n) : Unsigned cs n
  | plus {cs : List Char} {n : Nat} (h : Digits cs n) : Unsigned ('+' :: cs) n

/-- A numeral without a sign, or with a plus sign or a minus sign, and the number that it
    denotes. -/
inductive Signed : List Char → Int → Prop where
  | unsigned {cs : List Char} {n : Nat} (h : Unsigned cs n) : Signed cs n
  | minus {cs : List Char} {n : Nat} (h : Digits cs n) : Signed ('-' :: cs) (-n)

section Grammar
variable {cs : List Char} {m n : Nat}

/-- A numeral of `Digits` begins with a digit, and so with no sign. -/
theorem Digits.head_isDigit {c : Char} (h : Digits (c :: cs) n) : c.isDigit = true :=
  h.isDigit c List.mem_cons_self

theorem unsigned_plus_iff : Unsigned ('+' :: cs) n ↔ Digits cs n := by
  constructor
  · intro h
    cases h with
    | plain hdigits =>
        have hplus : ('+' : Char).isDigit = true := hdigits.head_isDigit
        contradiction
    | plus hdigits => exact hdigits
  · exact .plus

theorem unsigned_iff_digits (h : cs.head? ≠ some '+') : Unsigned cs n ↔ Digits cs n := by
  constructor
  · intro hunsigned
    cases hunsigned with
    | plain hdigits => exact hdigits
    | plus hdigits => exact absurd rfl h
  · exact .plain

theorem Unsigned.head_ne_minus (h : Unsigned cs n) : cs.head? ≠ some '-' := by
  intro hminus
  cases h with
  | plus hdigits => cases hminus
  | plain hdigits =>
      obtain ⟨rest, rfl⟩ := List.head?_eq_some_iff.mp hminus
      have hminus : ('-' : Char).isDigit = true := hdigits.head_isDigit
      contradiction

theorem signed_minus_iff {i : Int} : Signed ('-' :: cs) i ↔ ∃ n, Digits cs n ∧ i = -(n : Int) := by
  constructor
  · intro h
    cases h with
    | unsigned hunsigned => exact absurd rfl hunsigned.head_ne_minus
    | minus hdigits => exact ⟨_, hdigits, rfl⟩
  · rintro ⟨n, hdigits, rfl⟩
    exact .minus hdigits

theorem signed_iff_unsigned {i : Int} (h : cs.head? ≠ some '-') :
    Signed cs i ↔ ∃ n, Unsigned cs n ∧ i = n := by
  constructor
  · intro hsigned
    cases hsigned with
    | unsigned hunsigned => exact ⟨_, hunsigned, rfl⟩
    | minus hdigits => exact absurd rfl h
  · rintro ⟨n, hunsigned, rfl⟩
    exact .unsigned hunsigned

theorem Unsigned.unique (hm : Unsigned cs m) (hn : Unsigned cs n) : m = n := by
  cases hm with
  | plain hdigits =>
      rcases hn with hdigits' | hdigits'
      · exact hdigits.value.symm.trans hdigits'.value
      · exact absurd hdigits.head_isDigit (by decide)
  | plus hdigits => exact hdigits.value.symm.trans (unsigned_plus_iff.mp hn).value

/-- **A numeral denotes one number**, whether a sign is allowed, as in `Signed`, or not. -/
theorem Unsigned.eq_of_signed {i : Int} (hn : Unsigned cs n) (hi : Signed cs i) : i = n := by
  obtain ⟨m, hm, rfl⟩ := (signed_iff_unsigned hn.head_ne_minus).mp hi
  rw [hm.unique hn]

end Grammar

/-! ## Reading -/

section Reading
variable {cs : List Char} {n : Nat}

theorem isDigit_of_digit? {c : Char} {d : Nat} (h : digit? c = some d) : c.isDigit = true := by
  unfold digit? at h
  split at h
  · next hrange =>
      rw [Char.isDigit, Bool.and_eq_true, decide_eq_true_eq, decide_eq_true_eq]
      exact hrange
  · contradiction

theorem isDigit_of_digitsFrom? {ceiling acc : Nat} (h : digitsFrom? ceiling acc cs = some n) :
    ∀ c ∈ cs, c.isDigit = true := by
  induction cs generalizing acc with
  | nil => exact fun c hc => absurd hc List.not_mem_nil
  | cons c cs ih =>
      obtain ⟨d, hd, hrest⟩ := Option.bind_eq_some_iff.mp h
      intro c' hc'
      rcases List.mem_cons.mp hc' with rfl | hmem
      · exact isDigit_of_digit? hd
      · exact ih hrest c' hmem

/-- **By `digits?` a run of `Digits` is read as far as the `ceiling`.** -/
theorem digits?_eq_some_iff {ceiling k : Nat} :
    digits? ceiling cs = some k ↔ ∃ n, Digits cs n ∧ k = min n ceiling := by
  unfold digits?
  constructor
  · intro h
    split at h
    · contradiction
    · next hne =>
        have hdigits := isDigit_of_digitsFrom? h
        have hcount := digitsFrom?_eq ceiling 0 hdigits
        rw [Nat.zero_min, h] at hcount
        exact ⟨_, ⟨by simpa using hne, hdigits, rfl⟩, Option.some.inj hcount⟩
  · rintro ⟨n, hdigits, rfl⟩
    have hcount := digitsFrom?_eq ceiling 0 hdigits.isDigit
    rw [Nat.zero_min, hdigits.value] at hcount
    rw [if_neg (by simpa using hdigits.ne_nil), hcount]

/-- What `digits?` counts below the `ceiling` is the number. -/
theorem filter_digits?_eq_some_iff {ceiling : Nat} {p : Nat → Bool}
    (hceiling : ∀ k, p k = true → k < ceiling) :
    (digits? ceiling cs).filter p = some n ↔ Digits cs n ∧ p n = true := by
  rw [Option.filter_eq_some_iff, digits?_eq_some_iff]
  constructor
  · rintro ⟨⟨m, hdigits, rfl⟩, hp⟩
    have hlt := hceiling _ hp
    rw [Nat.min_eq_left (by omega)] at hp ⊢
    exact ⟨hdigits, hp⟩
  · rintro ⟨hdigits, hp⟩
    exact ⟨⟨n, hdigits, (Nat.min_eq_left (Nat.le_of_lt (hceiling n hp))).symm⟩, hp⟩

/-- **What `parseNat?` reads**: an `Unsigned` numeral of a number below `bound`. -/
theorem parseNat?_eq_some_iff {bound : Nat} :
    parseNat? bound cs = some n ↔ Unsigned cs n ∧ n < bound := by
  have hread : ∀ body, (digits? bound body).filter (· < bound) = some n ↔
      Digits body n ∧ n < bound := by
    intro body
    rw [filter_digits?_eq_some_iff fun k hk => of_decide_eq_true hk, decide_eq_true_eq]
  unfold parseNat?
  dsimp only
  split
  · rw [hread, unsigned_plus_iff]
  · next hplus =>
      rw [hread, unsigned_iff_digits]
      intro hhead
      obtain ⟨rest, rfl⟩ := List.head?_eq_some_iff.mp hhead
      exact hplus rest rfl

theorem parseInt?_minus (bound : Nat) (cs : List Char) :
    parseInt? bound ('-' :: cs) =
      ((digits? (bound + 1) cs).filter (· ≤ bound)).map fun n : Nat => -(n : Int) := by
  rw [parseInt?]
  cases (digits? (bound + 1) cs).filter (· ≤ bound) with
  | none => rfl
  | some n => rfl

theorem parseInt?_of_head {bound : Nat} (h : cs.head? ≠ some '-') :
    parseInt? bound cs = (parseNat? bound cs).map Int.ofNat := by
  unfold parseInt?
  split
  · exact absurd rfl h
  · rfl

/-- **What `parseInt?` reads**: a `Signed` numeral of a number from `-bound` and below `bound`. -/
theorem parseInt?_eq_some_iff {bound : Nat} {i : Int} (hbound : 0 < bound) :
    parseInt? bound cs = some i ↔ Signed cs i ∧ -(bound : Int) ≤ i ∧ i < bound := by
  by_cases hhead : cs.head? = some '-'
  · obtain ⟨rest, rfl⟩ := List.head?_eq_some_iff.mp hhead
    have hread : ∀ n, (digits? (bound + 1) rest).filter (· ≤ bound) = some n ↔
        Digits rest n ∧ n ≤ bound := by
      intro n
      rw [filter_digits?_eq_some_iff fun k hk => Nat.lt_succ_of_le (of_decide_eq_true hk),
        decide_eq_true_eq]
    simp only [parseInt?_minus, Option.map_eq_some_iff, hread, signed_minus_iff]
    constructor
    · rintro ⟨n, ⟨hdigits, hle⟩, rfl⟩
      exact ⟨⟨n, hdigits, rfl⟩, by omega, by omega⟩
    · rintro ⟨⟨n, hdigits, rfl⟩, hlow, -⟩
      exact ⟨n, ⟨hdigits, by omega⟩, rfl⟩
  · simp only [parseInt?_of_head hhead, Option.map_eq_some_iff, parseNat?_eq_some_iff,
      signed_iff_unsigned hhead, Int.ofNat_eq_natCast]
    constructor
    · rintro ⟨n, ⟨hunsigned, hlt⟩, rfl⟩
      exact ⟨⟨n, hunsigned, rfl⟩, by omega, by omega⟩
    · rintro ⟨⟨n, hunsigned, rfl⟩, -, hhigh⟩
      exact ⟨n, ⟨hunsigned, by omega⟩, rfl⟩

/-- **What `parseU64?` reads**: an `Unsigned` numeral of a number of 64 bits. -/
theorem parseU64?_eq_some_iff {n : UInt64} : parseU64? cs = some n ↔ Unsigned cs n.toNat := by
  rw [parseU64?, Option.map_eq_some_iff]
  constructor
  · rintro ⟨m, hm, rfl⟩
    obtain ⟨hunsigned, hlt⟩ := parseNat?_eq_some_iff.mp hm
    rwa [UInt64.toNat_ofNat_of_lt' hlt]
  · intro hunsigned
    exact ⟨n.toNat, parseNat?_eq_some_iff.mpr ⟨hunsigned, n.toNat_lt⟩, UInt64.ofNat_toNat⟩

/-- **What `parseI64?` reads**: a `Signed` numeral of a number of 64 bits. -/
theorem parseI64?_eq_some_iff {n : Int64} : parseI64? cs = some n ↔ Signed cs n.toInt := by
  have hsize : UInt64.size / 2 = 2 ^ 63 := by decide
  rw [parseI64?, Option.map_eq_some_iff, hsize]
  constructor
  · rintro ⟨i, hi, rfl⟩
    obtain ⟨hsigned, hlow, hhigh⟩ := (parseInt?_eq_some_iff (by decide)).mp hi
    rwa [Int64.toInt_ofInt_of_le (by simpa using hlow) (by simpa using hhigh)]
  · intro hsigned
    have hlow := n.le_toInt
    have hhigh := n.toInt_lt
    exact ⟨n.toInt, (parseInt?_eq_some_iff (by decide)).mpr
      ⟨hsigned, by exact_mod_cast hlow, by exact_mod_cast hhigh⟩, Int64.ofInt_toInt n⟩

end Reading

/-! ## White space -/

/-- The text `cs` is `inner` with white space around it. -/
def Padded (cs inner : List Char) : Prop :=
  ∃ front back, cs = front ++ inner ++ back ∧ (∀ c ∈ front, isBlank c = true) ∧
    ∀ c ∈ back, isBlank c = true

section Padded
variable {cs inner : List Char}

/-- **Every text is what `trimChars` cuts it down to, `Padded`.** -/
theorem padded_trimChars (cs : List Char) : Padded cs (trimChars cs) := by
  have hback : (cs.dropWhile isBlank).reverse =
      (cs.dropWhile isBlank).reverse.takeWhile isBlank ++
        (cs.dropWhile isBlank).reverse.dropWhile isBlank :=
    List.takeWhile_append_dropWhile.symm
  refine ⟨cs.takeWhile isBlank, ((cs.dropWhile isBlank).reverse.takeWhile isBlank).reverse, ?_,
    fun c hc => List.mem_takeWhile_imp hc, ?_⟩
  · rw [trimChars, List.append_assoc, ← List.reverse_append, ← hback, List.reverse_reverse,
      List.takeWhile_append_dropWhile]
  · intro c hc
    exact List.mem_takeWhile_imp (List.mem_reverse.mp hc)

/-- A text with no white space at either end. -/
structure Bare (cs : List Char) : Prop where
  head : ∀ c, cs.head? = some c → isBlank c = false
  last : ∀ c, cs.getLast? = some c → isBlank c = false

theorem bare_of_isBlank (h : ∀ c ∈ cs, isBlank c = false) : Bare cs where
  head c hc := h c (List.mem_of_mem_head? hc)
  last c hc := h c (List.mem_of_mem_getLast? hc)

/-- **By `trimChars` no white space is left at either end.** -/
theorem bare_trimChars (cs : List Char) : Bare (trimChars cs) := by
  have hdropped : ∀ (cs : List Char) (c : Char), (cs.dropWhile isBlank).head? = some c →
      isBlank c = false := by
    intro cs c hc
    have hnot := List.head?_dropWhile_not isBlank cs
    rw [hc] at hnot
    exact hnot
  constructor
  · -- what is left is the front of what was left after the first cut
    intro c hc
    have hsuffix : (cs.dropWhile isBlank).reverse.dropWhile isBlank <:+
        (cs.dropWhile isBlank).reverse := List.dropWhile_suffix _
    obtain ⟨back, hback⟩ := List.reverse_prefix.mpr hsuffix
    rw [List.reverse_reverse] at hback
    obtain ⟨rest, hrest⟩ := List.head?_eq_some_iff.mp hc
    rw [trimChars] at hrest
    rw [hrest, List.cons_append] at hback
    exact hdropped cs c (by rw [← hback, List.head?_cons])
  · intro c hc
    rw [trimChars, List.getLast?_reverse] at hc
    exact hdropped _ c hc

/-- **What is `Padded` and `Bare` inside is cut down to its `inner` text.** -/
theorem Padded.trimChars_eq_of_bare (h : Padded cs inner) (hbare : Bare inner) :
    trimChars cs = inner := by
  obtain ⟨front, back, rfl, hfront, hback⟩ := h
  cases inner with
  | nil =>
      have hblank : ∀ c ∈ front ++ [] ++ back, isBlank c = true := by
        intro c hc
        rw [List.append_nil] at hc
        rcases List.mem_append.mp hc with hc | hc
        · exact hfront c hc
        · exact hback c hc
      rw [trimChars, List.dropWhile_eq_nil_iff.mpr hblank]
      rfl
  | cons c rest =>
      -- nothing of what is inside is dropped, from neither end
      have hleft : (front ++ (c :: rest) ++ back).dropWhile isBlank = c :: rest ++ back := by
        rw [List.append_assoc, List.dropWhile_append_of_pos hfront]
        exact dropWhile_isBlank_eq_self hbare.head
      have hright : ((c :: rest) ++ back).reverse.dropWhile isBlank = (c :: rest).reverse := by
        rw [List.reverse_append, List.dropWhile_append_of_pos fun c hc =>
          hback c (List.mem_reverse.mp hc)]
        refine dropWhile_isBlank_eq_self fun d hd => hbare.last d ?_
        rwa [List.head?_reverse] at hd
      rw [trimChars, hleft, hright, List.reverse_reverse]

/-- **What is `Padded` and has no white space inside is cut down to its `inner` text.** -/
theorem Padded.trimChars_eq (h : Padded cs inner) (hinner : ∀ c ∈ inner, isBlank c = false) :
    trimChars cs = inner :=
  h.trimChars_eq_of_bare (bare_of_isBlank hinner)

/-- White space around a text with white space around it is white space around that. -/
theorem Padded.trans {mid : List Char} (h : Padded cs mid) (hmid : Padded mid inner) :
    Padded cs inner := by
  obtain ⟨front, back, rfl, hfront, hback⟩ := h
  obtain ⟨front', back', rfl, hfront', hback'⟩ := hmid
  refine ⟨front ++ front', back' ++ back, by simp only [List.append_assoc], ?_, ?_⟩
  · exact fun c hc => (List.mem_append.mp hc).elim (hfront c) (hfront' c)
  · exact fun c hc => (List.mem_append.mp hc).elim (hback' c) (hback c)

end Padded

end Memcache.Text
