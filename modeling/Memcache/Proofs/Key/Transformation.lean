import Mathlib
import Memcache.Client
import Memcache.Proofs.Batch.Shares

/-!
# `Memcache.Proofs.Key.Transformation` — what the built-in transformations make of a key

`Key.validate` looks at three rules, one after the other. What it answers is said here without it: a
key is `Key.Valid`, or there is the `Key.FirstFault` that it has. Of the built-in transformations,
`KeyTransform.plain` and `KeyTransform.namespaced` check their result and `KeyTransform.digest` does
not have to, since a digest in hexadecimal is always valid. So all of them refuse a key for the
first fault of what they would make of it, and what they do not refuse passes the check that
`Client.wireKey` makes once more.

## Contents

* `Key.Valid`, `Key.FirstFault`; `Key.validate_eq_ok_iff`, `Key.validate_eq_error_iff` — **a check
  answers the first fault of a key**;
* `KeyTransform.BuiltIn`, `BuiltIn.made` — the built-in transformations, and what each makes of a key
  before any check; `BuiltIn.apply_eq_ok_iff`, `BuiltIn.apply_eq_error_iff`;
* `Client.tabled_callerKeys` — no two callers' keys share their place in the table;
* `Client.builtIn_keys_sound` — **a client with a built-in transformation sends valid keys, refuses
  the others for their first fault, and never merges two keys unless it digests them**.
-/

namespace Memcache

/-! ## Valid keys and first faults -/

namespace Key

/-- What a server takes as a key: a text of up to `Key.maxLength` octets that is not empty, with no
    character that `Key.isForbidden`. -/
structure Valid (wire : String) : Prop where
  nonempty : wire ≠ ""
  fits : wire.utf8ByteSize ≤ maxLength
  clean : ∀ c ∈ wire.toList, isForbidden c = false

/-- **The first fault of the text that is made of a key,** in the order of the rules: the key is
    empty; the text, all of it, has more octets than `Key.maxLength`; it holds a character that
    `Key.isForbidden`, and the first such is named. -/
inductive FirstFault (key wire : String) : KeyError → Prop where
  | empty (hkey : key = "") : FirstFault key wire .empty
  | tooLong (hkey : key ≠ "") (hlong : maxLength < wire.utf8ByteSize) :
      FirstFault key wire (.tooLong wire.utf8ByteSize maxLength)
  | invalidCharacter (hkey : key ≠ "") (hfits : wire.utf8ByteSize ≤ maxLength)
      (front back : List Char) (c : Char) (hsplit : wire.toList = front ++ c :: back)
      (hforbidden : isForbidden c = true) (hfirst : ∀ d ∈ front, isForbidden d = false) :
      FirstFault key wire (.invalidCharacter c)

variable {key key' wire : String} {e : KeyError}

/-- Of the key itself it matters only whether it is empty. -/
theorem FirstFault.of_key (hempty : key = "" ↔ key' = "") (h : FirstFault key wire e) :
    FirstFault key' wire e := by
  cases h with
  | empty hkey => exact .empty (hempty.mp hkey)
  | tooLong hkey hlong => exact .tooLong (fun hkey' => hkey (hempty.mpr hkey')) hlong
  | invalidCharacter hkey hfits front back c hsplit hforbidden hfirst =>
      exact .invalidCharacter (fun hkey' => hkey (hempty.mpr hkey')) hfits front back c hsplit
        hforbidden hfirst

/-- **What `Key.validate` passes are valid keys and nothing else.** -/
theorem validate_eq_ok_iff : validate wire = .ok () ↔ Valid wire := by
  unfold validate
  constructor
  · intro h
    split at h
    · contradiction
    · next hempty =>
        split at h
        · contradiction
        · next hfits =>
            split at h
            · contradiction
            · next hclean =>
                refine ⟨fun heq => hempty (String.isEmpty_iff.mpr heq), Nat.not_lt.mp hfits, ?_⟩
                intro c hc
                exact Bool.eq_false_iff.mpr (List.find?_eq_none.mp hclean c hc)
  · intro hvalid
    have hclean : wire.toList.find? isForbidden = none := by
      rw [List.find?_eq_none]
      intro c hc
      exact Bool.eq_false_iff.mp (hvalid.clean c hc)
    rw [if_neg (fun hempty => hvalid.nonempty (String.isEmpty_iff.mp hempty)),
      if_neg (Nat.not_lt.mpr hvalid.fits), hclean]

/-- **What `Key.validate` answers is the first fault of a key.** -/
theorem validate_eq_error_iff : validate wire = .error e ↔ FirstFault wire wire e := by
  unfold validate
  constructor
  · intro h
    split at h
    · next hempty =>
        obtain rfl := Except.error.inj h
        exact .empty (String.isEmpty_iff.mp hempty)
    · next hempty =>
        have hkey : wire ≠ "" := fun heq => hempty (String.isEmpty_iff.mpr heq)
        split at h
        · next hlong =>
            obtain rfl := Except.error.inj h
            exact .tooLong hkey hlong
        · next hfits =>
            split at h
            · next c hfind =>
                obtain rfl := Except.error.inj h
                obtain ⟨hforbidden, front, back, hsplit, hfirst⟩ :=
                  List.find?_eq_some_iff_append.mp hfind
                refine .invalidCharacter hkey (Nat.not_lt.mp hfits) front back c hsplit hforbidden
                  ?_
                intro d hd
                exact Bool.not_eq_true' _ ▸ hfirst d hd
            · contradiction
  · intro hfault
    cases hfault with
    | empty hkey => rw [if_pos (String.isEmpty_iff.mpr hkey)]
    | tooLong hkey hlong =>
        rw [if_neg (fun hempty => hkey (String.isEmpty_iff.mp hempty)), if_pos hlong]
    | invalidCharacter hkey hfits front back c hsplit hforbidden hfirst =>
        have hfind : wire.toList.find? isForbidden = some c := by
          rw [List.find?_eq_some_iff_append]
          refine ⟨hforbidden, front, back, hsplit, ?_⟩
          intro d hd
          rw [hfirst d hd]
          rfl
        rw [if_neg (fun hempty => hkey (String.isEmpty_iff.mp hempty)),
          if_neg (Nat.not_lt.mpr hfits), hfind]

end Key

/-! ## Digests in hexadecimal -/

/-- The digits of `hexDigit` are allowed in keys, and each is one octet. -/
theorem hexDigit_allowed {n : Nat} (h : n < 16) :
    Key.isForbidden (hexDigit n) = false ∧ (hexDigit n).utf8Size = 1 := by
  have hall : ∀ n < 16, Key.isForbidden (hexDigit n) = false ∧ (hexDigit n).utf8Size = 1 := by
    decide
  exact hall n h

/-- Octets in hexadecimal, `hex`: two characters for each, all of them allowed in keys. -/
theorem hex_allowed (bs : Bytes) :
    (hex bs).utf8ByteSize = 2 * bs.length ∧ ∀ c ∈ (hex bs).toList, Key.isForbidden c = false := by
  unfold hex
  rw [String.utf8ByteSize_ofList, String.toList_ofList]
  induction bs with
  | nil => exact ⟨rfl, fun c hc => absurd hc List.not_mem_nil⟩
  | cons b bs ih =>
      have hb : b.toNat < 256 := UInt8.toNat_lt b
      have hhigh := hexDigit_allowed (n := b.toNat / 16) (by omega)
      have hlow := hexDigit_allowed (n := b.toNat % 16) (by omega)
      obtain ⟨hsize, hclean⟩ := ih
      constructor
      · simp only [List.flatMap_cons, List.cons_append, List.nil_append, String.utf8Len_cons, hsize,
          hhigh.2, hlow.2, List.length_cons]
        omega
      · simp only [List.flatMap_cons, List.cons_append, List.nil_append, List.mem_cons]
        rintro c (rfl | rfl | hc)
        · exact hhigh.1
        · exact hlow.1
        · exact hclean c hc

/-- **A digest in hexadecimal is a `Key.Valid` key,** whatever was digested. -/
theorem Key.valid_hex_md5 (message : Bytes) : Key.Valid (hex (Digest.md5 message)) := by
  obtain ⟨hsize, hclean⟩ := hex_allowed (Digest.md5 message)
  rw [Digest.length_md5] at hsize
  refine ⟨?_, ?_, hclean⟩
  · intro hempty
    rw [hempty] at hsize
    contradiction
  · rw [hsize]
    decide

/-! ## The built-in transformations -/

namespace KeyTransform

/-- The built-in transformations. -/
inductive BuiltIn where
  | plain
  | digest
  | namespaced (lead : String)

namespace BuiltIn

/-- The transformation itself. -/
def transform : BuiltIn → KeyTransform
  | .plain => KeyTransform.plain
  | .digest => KeyTransform.digest
  | .namespaced lead => KeyTransform.namespaced lead

/-- What a transformation makes of a key before any check. -/
def made : BuiltIn → String → String
  | .plain, key => key
  | .digest, key => hex (Digest.md5 (Text.encode key))
  | .namespaced lead, key => lead ++ key

variable {key wire : String} {e : KeyError}

/-- Every built-in transformation refuses the empty key and checks what it makes of another one by
    `Key.validate`; the digest need not, as it is valid. -/
theorem apply_eq (b : BuiltIn) (key : String) :
    b.transform.apply key =
      if key = "" then .error .empty else (Key.validate (b.made key)).map fun _ => b.made key := by
  by_cases hkey : key = ""
  · subst hkey
    cases b <;> rfl
  · have hempty : ¬ key.isEmpty = true := fun h => hkey (String.isEmpty_iff.mp h)
    rw [if_neg hkey]
    cases b with
    | plain => rfl
    | digest =>
        have hvalid : Key.validate (hex (Digest.md5 (Text.encode key))) = .ok () :=
          Key.validate_eq_ok_iff.mpr (Key.valid_hex_md5 _)
        rw [made, hvalid]
        exact if_neg hempty
    | namespaced lead => exact if_neg hempty

/-- **What is not refused is `BuiltIn.made` of the key, and valid.** -/
theorem apply_eq_ok_iff {b : BuiltIn} :
    b.transform.apply key = .ok wire ↔ key ≠ "" ∧ wire = b.made key ∧ Key.Valid wire := by
  rw [apply_eq]
  by_cases hkey : key = ""
  · rw [if_pos hkey]
    exact ⟨fun h => absurd h (by simp), fun h => absurd hkey h.1⟩
  · rw [if_neg hkey]
    constructor
    · intro h
      obtain rfl := eq_of_checked h
      cases hcheck : Key.validate (b.made key) with
      | error e =>
          rw [hcheck] at h
          contradiction
      | ok u => exact ⟨hkey, rfl, Key.validate_eq_ok_iff.mp hcheck⟩
    · rintro ⟨-, rfl, hvalid⟩
      rw [Key.validate_eq_ok_iff.mpr hvalid]
      rfl

/-- **A key is refused for the first fault of what would be made of it** (`Key.FirstFault`). -/
theorem apply_eq_error_iff {b : BuiltIn} :
    b.transform.apply key = .error e ↔ Key.FirstFault key (b.made key) e := by
  rw [apply_eq]
  by_cases hkey : key = ""
  · rw [if_pos hkey]
    constructor
    · intro h
      obtain rfl := Except.error.inj h
      exact .empty hkey
    · intro hfault
      cases hfault with
      | empty _ => rfl
      | tooLong hne _ => exact absurd hkey hne
      | invalidCharacter hne _ _ _ _ _ _ _ => exact absurd hkey hne
  · have hempty : b.made key = "" ↔ key = "" := by
      constructor
      · cases b with
        | plain => exact id
        | digest => exact fun h => absurd h (Key.valid_hex_md5 _).nonempty
        | namespaced lead => exact fun h => (String.append_eq_empty_iff.mp h).2
      · exact fun h => absurd h hkey
    have hchecked : (Key.validate (b.made key)).map (fun _ => b.made key) = .error e ↔
        Key.validate (b.made key) = .error e := by
      cases Key.validate (b.made key) <;> simp [Except.map]
    rw [if_neg hkey, hchecked, Key.validate_eq_error_iff]
    exact ⟨.of_key hempty, .of_key hempty.symm⟩

/-- Only `BuiltIn.digest` can make one text of two keys. -/
theorem injective_transform {b : BuiltIn} (hb : b ≠ .digest) : b.transform.Injective := by
  cases b with
  | plain => exact injective_plain
  | digest => exact absurd rfl hb
  | namespaced lead => exact injective_namespaced lead

end BuiltIn

end KeyTransform

/-! ## Clients with a built-in transformation -/

namespace Client

variable {c : Client}

/-- **No two callers' keys share their place in the table** of a transformation that is
    `KeyTransform.Injective`. -/
theorem tabled_callerKeys {keys : List String} {table : Table String String}
    (hinjective : c.keys.Injective) (htable : c.callerKeys keys [] = .ok table) :
    c.Tabled keys table := by
  obtain ⟨table', htable', htabled⟩ := exists_callerKeys hinjective (keys_callerKeys htable).1
  obtain rfl := Except.ok.inj (htable.symm.trans htable')
  exact htabled

/-- What `Client.wireKey` sends is what the transformation answers, if that is always valid. -/
theorem wireKey_of_valid {key : String}
    (hvalid : ∀ wire, c.keys.apply key = .ok wire → Key.validate wire = .ok ()) :
    c.wireKey key = (c.keys.apply key).mapError .invalidKey := by
  unfold wireKey
  cases happly : c.keys.apply key with
  | error e => rfl
  | ok wire =>
      simp only [hvalid wire happly]
      rfl

/-- **A client with a built-in transformation sends valid keys, refuses the others for their first
    fault, and never merges two keys unless it digests them.**

    What `KeyTransform.apply` makes of a key is always valid, so the check of `Client.wireKey`
    refuses nothing: what is sent is what the transformation answers. A key is refused for the first
    fault of what would be made of it (`Key.FirstFault`), and a digest is refused only for the empty
    key. Unless keys are digested, no two of them are turned into the same one
    (`KeyTransform.Injective`), and a batched read has a table in which each sent key leads back to
    the one key it was made of (`Client.Tabled`). -/
theorem builtIn_keys_sound (b : KeyTransform.BuiltIn) (hkeys : c.keys = b.transform) :
    (∀ key wire, c.keys.apply key = .ok wire →
      wire = b.made key ∧ Key.validate wire = .ok () ∧ c.wireKey key = .ok wire) ∧
    (∀ key, c.wireKey key = (c.keys.apply key).mapError .invalidKey) ∧
    (∀ key e, c.keys.apply key = .error e ↔ Key.FirstFault key (b.made key) e) ∧
    (b = .digest → ∀ key, key ≠ "" → c.keys.apply key = .ok (hex (Digest.md5 (Text.encode key)))) ∧
    (b ≠ .digest →
      c.keys.Injective ∧
      ∀ keys table, c.callerKeys keys [] = .ok table →
        c.Tabled keys table ∧
        ∀ key ∈ keys, ∃ wire, c.wireKey key = .ok wire ∧ table.lookup wire = some key) := by
  have hvalid : ∀ key wire, c.keys.apply key = .ok wire → Key.validate wire = .ok () := by
    intro key wire happly
    rw [hkeys] at happly
    exact Key.validate_eq_ok_iff.mpr (KeyTransform.BuiltIn.apply_eq_ok_iff.mp happly).2.2
  have hwire : ∀ key, c.wireKey key = (c.keys.apply key).mapError .invalidKey :=
    fun key => wireKey_of_valid (hvalid key)
  refine ⟨?_, hwire, ?_, ?_, ?_⟩
  · intro key wire happly
    refine ⟨?_, hvalid key wire happly, ?_⟩
    · rw [hkeys] at happly
      exact (KeyTransform.BuiltIn.apply_eq_ok_iff.mp happly).2.1
    · rw [hwire, happly]
      rfl
  · intro key e
    rw [hkeys]
    exact KeyTransform.BuiltIn.apply_eq_error_iff
  · rintro rfl key hkey
    rw [hkeys]
    exact KeyTransform.BuiltIn.apply_eq_ok_iff.mpr ⟨hkey, rfl, Key.valid_hex_md5 _⟩
  · intro hb
    have hinjective : c.keys.Injective := hkeys ▸ KeyTransform.BuiltIn.injective_transform hb
    refine ⟨hinjective, fun keys table htable => ?_⟩
    have htabled := tabled_callerKeys hinjective htable
    refine ⟨htabled, fun key hkey => ?_⟩
    obtain ⟨wire, hsent⟩ := (keys_callerKeys htable).1 key hkey
    exact ⟨wire, hsent, (htabled.lookup wire key).mpr ⟨hkey, hsent⟩⟩

/-- Two keys of a client with a name in front of its keys are sent with that name, lead back to
    themselves, and a blank in a third is found behind the name. -/
theorem builtIn_keys_sound_namespaced :
    let c : Client := { keys := .namespaced "app:" }
    (∃ table, c.callerKeys ["user:1", "user:2"] [] = .ok table ∧
      ∃ wire, c.wireKey "user:2" = .ok wire ∧ table.lookup wire = some "user:2") ∧
    Key.validate "app:user:1" = .ok () ∧
    Key.FirstFault "a b" "app:a b" (.invalidCharacter ' ') := by
  intro c
  obtain ⟨hsent, -, hfaults, -, hapart⟩ :=
    builtIn_keys_sound (c := c) (.namespaced "app:") rfl
  have htable : c.callerKeys ["user:1", "user:2"] [] =
      .ok [("app:user:1", "user:1"), ("app:user:2", "user:2")] := by decide +kernel
  have hmine := ((hapart (by simp)).2 _ _ htable).2 "user:2" (by simp)
  exact ⟨⟨_, htable, hmine⟩, (hsent "user:1" "app:user:1" (by decide +kernel)).2.1,
    (hfaults "a b" _).mp (by decide +kernel)⟩

end Client

end Memcache
