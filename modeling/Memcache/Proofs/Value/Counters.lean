import Mathlib
import Memcache.Value
import Memcache.Proofs.Text.Grammar

/-!
# `Memcache.Proofs.Value.Counters` — counters as a server keeps them

A server counts on the decimal text of a number, and pads the text when the number gets shorter. A
client reads the text back in one of two ways. If the item is flagged as a number,
`Value.parseNumber` reads the text when `Value.ofItem` decodes the item; if the server has made the
item itself, its flags are `Flags.untyped`, it is decoded as a text, and the text is read when
`Value.asU64?` or `Value.asI64?` asks for a number. Both ways cut off white space and read a
numeral, so both find the number that the server holds.

A value can be asked for as an unsigned number and as a signed one. The two views have different
ranges, and where both answer they name the same integer.

## Contents

* `Text.Spelt` — octets that spell out a numeral with white space around it;
* `Value.parseNumber_eq_ok_iff`, `Value.ofItem_u64`, `Value.ofItem_i64`, `Value.ofItem_untyped` — the
  three ways to read octets;
* `Value.toNat_eq_toInt` — **the two views of a value agree**;
* `Value.counters_read_back` — **what a number is read from, and that both ways find it**.
-/

namespace Memcache

/-- The octets `data` spell out a `numeral` with white space around it: they are the encoding of a
    text that is `Padded`. -/
def Text.Spelt (numeral : List Char → Prop) (data : Bytes) : Prop :=
  ∃ s inner, data = Text.encode s ∧ Text.Padded s.toList inner ∧ numeral inner

namespace Text

/-- Neither a sign nor a digit is white space. -/
theorem Digits.isBlank_cons {cs : List Char} {n : Nat} {sign : Char} (h : Digits cs n)
    (hsign : isBlank sign = false) : ∀ c ∈ sign :: cs, isBlank c = false := by
  intro c hc
  rcases List.mem_cons.mp hc with rfl | hc
  · exact hsign
  · exact isBlank_of_isDigit (h.isDigit c hc)

/-- An `Unsigned` numeral has no white space inside. -/
theorem Unsigned.isBlank_eq_false {cs : List Char} {n : Nat} (h : Unsigned cs n) :
    ∀ c ∈ cs, isBlank c = false := by
  cases h with
  | plain hdigits => exact fun c hc => isBlank_of_isDigit (hdigits.isDigit c hc)
  | plus hdigits => exact hdigits.isBlank_cons (by decide)

theorem Signed.isBlank_eq_false {cs : List Char} {i : Int} (h : Signed cs i) :
    ∀ c ∈ cs, isBlank c = false := by
  cases h with
  | unsigned hunsigned => exact hunsigned.isBlank_eq_false
  | minus hdigits => exact hdigits.isBlank_cons (by decide)

/-- The decimal text of a number is an `Unsigned` numeral. -/
theorem unsigned_toString (n : UInt64) : Unsigned (toString n.toNat).toList n.toNat :=
  parseU64?_eq_some_iff.mp (parseU64?_toString n)

end Text

namespace Value

/-! ## Octets -/

/-- **By `parseNumber` a number is read from octets that are `Spelt`**, if nothing that `parse`
    reads has white space inside. -/
theorem parseNumber_eq_ok_iff {α : Type} {parse : List Char → Option α}
    {numeral : α → List Char → Prop}
    (hparse : ∀ cs n, parse cs = some n ↔ numeral n cs)
    (hblank : ∀ cs n, numeral n cs → ∀ c ∈ cs, Text.isBlank c = false) {data : Bytes} {n : α} :
    parseNumber parse data = .ok n ↔ Text.Spelt (numeral n) data := by
  unfold parseNumber Text.Spelt
  constructor
  · intro h
    split at h
    · contradiction
    · next s hs =>
        split at h
        · contradiction
        · next m hm =>
            obtain rfl := Except.ok.inj h
            exact ⟨s, _, Text.decode?_eq_some_iff.mp hs, Text.padded_trimChars _, (hparse _ _).mp hm⟩
  · rintro ⟨s, inner, rfl, hpadded, hnumeral⟩
    rw [Text.decode?_encode]
    dsimp only
    rw [hpadded.trimChars_eq (hblank inner n hnumeral), (hparse inner n).mpr hnumeral]

theorem map_eq_ok_iff {α : Type} {read : Except TranscodeError α} {kind : α → Value} {v : Value} :
    read.map kind = .ok v ↔ ∃ n, v = kind n ∧ read = .ok n := by
  cases read with
  | error e => simp [Except.map]
  | ok n => simp [Except.map, eq_comm]

/-- **What an item flagged `Flags.u64` holds**: an `Unsigned` numeral. -/
theorem ofItem_u64 {data : Bytes} {v : Value} :
    ofItem ⟨Flags.u64, data⟩ = .ok v ↔
      ∃ n : UInt64, v = .u64 n ∧ Text.Spelt (Text.Unsigned · n.toNat) data := by
  have hread : ∀ n : UInt64, parseNumber Text.parseU64? data = .ok n ↔
      Text.Spelt (Text.Unsigned · n.toNat) data := fun n =>
    parseNumber_eq_ok_iff (fun _ _ => Text.parseU64?_eq_some_iff) fun _ _ h => h.isBlank_eq_false
  show (parseNumber Text.parseU64? data).map Value.u64 = .ok v ↔ _
  simp only [map_eq_ok_iff, hread]

/-- **What an item flagged `Flags.i64` holds**: a `Signed` numeral. -/
theorem ofItem_i64 {data : Bytes} {v : Value} :
    ofItem ⟨Flags.i64, data⟩ = .ok v ↔
      ∃ n : Int64, v = .i64 n ∧ Text.Spelt (Text.Signed · n.toInt) data := by
  have hread : ∀ n : Int64, parseNumber Text.parseI64? data = .ok n ↔
      Text.Spelt (Text.Signed · n.toInt) data := fun n =>
    parseNumber_eq_ok_iff (fun _ _ => Text.parseI64?_eq_some_iff) fun _ _ h => h.isBlank_eq_false
  show (parseNumber Text.parseI64? data).map Value.i64 = .ok v ↔ _
  simp only [map_eq_ok_iff, hread]

/-- An item flagged `Flags.untyped` holds a text where it can. -/
theorem ofItem_untyped (s : String) : ofItem ⟨Flags.untyped, Text.encode s⟩ = .ok (.text s) := by
  unfold ofItem
  rw [if_pos rfl, Text.decode?_encode]

/-! ## The two views -/

/-- A text is asked for as an unsigned number by `asU64?`: what is left without white space
    counts. -/
theorem asU64?_text {s : String} {inner : List Char} {n : UInt64}
    (hpadded : Text.Padded s.toList inner) (h : Text.Unsigned inner n.toNat) :
    (text s).asU64? = some n := by
  show Text.parseU64? (Text.trimChars s.toList) = some n
  rw [hpadded.trimChars_eq h.isBlank_eq_false]
  exact Text.parseU64?_eq_some_iff.mpr h

/-- **The two views of a value, `asU64?` and `asI64?`, agree** where both answer. -/
theorem toNat_eq_toInt {v : Value} {n : UInt64} {m : Int64} (hn : v.asU64? = some n)
    (hm : v.asI64? = some m) : m.toInt = n.toNat := by
  cases v with
  | bytes data => contradiction
  | bool b => contradiction
  | text s =>
      -- one numeral is read twice
      exact (Text.parseU64?_eq_some_iff.mp hn).eq_of_signed (Text.parseI64?_eq_some_iff.mp hm)
  | u64 k =>
      obtain rfl : k = n := Option.some.inj hn
      obtain ⟨hlt, rfl⟩ : k.toNat < UInt64.size / 2 ∧ Int64.ofNat k.toNat = m := by
        simpa [asI64?] using hm
      exact Int64.toInt_ofNat_of_lt hlt
  | i64 k =>
      obtain rfl : k = m := Option.some.inj hm
      obtain ⟨hnonneg, rfl⟩ : 0 ≤ k.toInt ∧ UInt64.ofNat k.toInt.toNat = n := by
        simpa [asU64?] using hn
      have hhigh := k.toInt_lt
      rw [UInt64.toNat_ofNat_of_lt' (by simp only [UInt64.size]; omega), Int.toNat_of_nonneg hnonneg]

/-! ## Counters -/

/-- **What a number is read from, and that both ways find it.** An item flagged `Flags.u64` is
    deserialized just if its octets are `Spelt` as an `Unsigned` numeral with white space around it:
    digits that denote a number of 64 bits, perhaps with a plus sign. The value is that number. The
    same goes for `Flags.i64` and `Signed` numerals, where a minus sign is allowed as well.

    Hence the decimal text of a number, `Padded` in any way, is read as that number, be it flagged
    `Flags.u64`, or made by the server without flags and asked for by `asU64?` later. And whenever a
    value can be seen as an unsigned number by `asU64?` and as a signed one by `asI64?`, it is the
    same number. -/
theorem counters_read_back (max : Nat) :
    (∀ (data : Bytes) (v : Value),
      (Transcoder.standard max).deserialize ⟨Flags.u64, data⟩ = .ok v ↔
        ∃ n : UInt64, v = .u64 n ∧ Text.Spelt (Text.Unsigned · n.toNat) data) ∧
    (∀ (data : Bytes) (v : Value),
      (Transcoder.standard max).deserialize ⟨Flags.i64, data⟩ = .ok v ↔
        ∃ n : Int64, v = .i64 n ∧ Text.Spelt (Text.Signed · n.toInt) data) ∧
    (∀ (n : UInt64) (s : String), Text.Padded s.toList (toString n.toNat).toList →
      ∀ flags ∈ [Flags.u64, Flags.untyped],
        ∃ v, (Transcoder.standard max).deserialize ⟨flags, Text.encode s⟩ = .ok v ∧
          v.asU64? = some n) ∧
    ∀ (v : Value) (n : UInt64) (m : Int64), v.asU64? = some n → v.asI64? = some m →
      m.toInt = n.toNat := by
  refine ⟨fun _ _ => ofItem_u64, fun _ _ => ofItem_i64, ?_, fun v n m => toNat_eq_toInt⟩
  intro n s hpadded flags hflags
  have hnumeral := Text.unsigned_toString n
  rcases List.mem_cons.mp hflags with rfl | hflags
  · exact ⟨.u64 n, ofItem_u64.mpr ⟨n, rfl, s, _, rfl, hpadded, hnumeral⟩, rfl⟩
  · obtain rfl := List.mem_singleton.mp hflags
    exact ⟨.text s, ofItem_untyped s, asU64?_text hpadded hnumeral⟩

/-- The text of the largest counter, between a no-break space and the blank that a server pads
    with. -/
def largest : String := "\u00a018446744073709551615 "

/-- The text `largest` is read as the largest counter in both ways; and a padded text with a plus
    sign is the same number in both views. -/
theorem counters_read_back_largest :
    (∃ v, Transcoder.standard.deserialize ⟨Flags.untyped, Text.encode largest⟩ = .ok v ∧
      v.asU64? = some 18446744073709551615) ∧
      Transcoder.standard.deserialize ⟨Flags.u64, Text.encode largest⟩ =
        .ok (.u64 18446744073709551615) ∧
      (text " +7 ").asU64? = some 7 ∧ (text " +7 ").asI64? = some 7 ∧
      (7 : Int64).toInt = (7 : UInt64).toNat := by
  obtain ⟨hunsigned, -, hboth, hviews⟩ := counters_read_back defaultMaxItem
  have hpadded : Text.Padded largest.toList (toString (18446744073709551615 : UInt64).toNat).toList :=
    ⟨['\u00a0'], [' '], by decide, List.forall_mem_singleton.mpr (by decide),
      List.forall_mem_singleton.mpr (by decide)⟩
  have hu : (text " +7 ").asU64? = some 7 := by decide
  have hi : (text " +7 ").asI64? = some 7 := by decide
  refine ⟨?_, ?_, hu, hi, hviews _ _ _ hu hi⟩
  · exact hboth _ largest hpadded _ (List.mem_cons_of_mem _ (List.mem_singleton_self _))
  · exact (hunsigned _ _).mpr ⟨_, rfl, largest, _, rfl, hpadded, Text.unsigned_toString _⟩

end Value

end Memcache
