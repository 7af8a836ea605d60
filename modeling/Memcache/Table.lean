/-!
# `Memcache.Table` — finite maps in order of first insertion

Replies name their entries in any order and may repeat a name; the last one counts. A table is the
list of its entries, one for each key, so that two tables with the same entries in the same order
are equal.

## Contents

* `insert`, `lookup`, `keys`, `erase`, `modify`, `mapValues`, `select`;
* `lookup_insert`, `lookup_erase`, `lookup_modify` — **each changes the entry of its own key and no
  other**;
* `nodup_keys_insert` — **no key is ever listed twice**;
* `filter_keys` — keys asked one by one; `tally`, `tally_split` — **entries counted by what one key
  has and what the others have**.
-/

namespace Memcache

/-- A map from keys to values, as the list of its entries. -/
abbrev Table (κ α : Type) := List (κ × α)

namespace Table

variable {κ α : Type} [DecidableEq κ]

/-- Puts `value` under `key`: in the place of the value that was there, else at the end. -/
def insert (key : κ) (value : α) : Table κ α → Table κ α
  | [] => [(key, value)]
  | (k, v) :: rest => if k = key then (key, value) :: rest else (k, v) :: insert key value rest

/-- The value under `key`. -/
def lookup (key : κ) : Table κ α → Option α
  | [] => none
  | (k, v) :: rest => if k = key then some v else lookup key rest

/-- The keys in the order of their entries. -/
def keys (t : Table κ α) : List κ :=
  t.map Prod.fst

/-- The entries of all keys but `key`. -/
def erase (key : κ) (t : Table κ α) : Table κ α :=
  t.filter fun e => e.1 ≠ key

/-- Changes the value under `key` by `f`, if there is one. -/
def modify (key : κ) (f : α → α) (t : Table κ α) : Table κ α :=
  t.map fun e => if e.1 = key then (e.1, f e.2) else e

/-- Changes all values by `f`. -/
def mapValues (f : α → α) (t : Table κ α) : Table κ α :=
  t.map fun e => (e.1, f e.2)

/-- The keys whose values pass `p`. -/
def select (p : α → Bool) (t : Table κ α) : List κ :=
  (t.filter fun e => p e.2).map Prod.fst

/-- **An `insert` changes the entry of its own key and no other.** -/
theorem lookup_insert (key : κ) (value : α) (t : Table κ α) (k : κ) :
    lookup k (insert key value t) = if k = key then some value else lookup k t := by
  induction t with
  | nil =>
    by_cases h : k = key
    · subst h; simp [insert, lookup]
    · simp [insert, lookup, h, Ne.symm h]
  | cons e rest ih =>
    obtain ⟨k', v⟩ := e
    by_cases he : k' = key
    · subst he
      by_cases h : k = k'
      · subst h; simp [insert, lookup]
      · simp [insert, lookup, h, Ne.symm h]
    · by_cases h : k' = k
      · subst h; simp [insert, lookup, he]
      · simp [insert, lookup, he, h, ih]

/-- **A key that `erase` took out has no entry, and the others keep theirs.** -/
theorem lookup_erase (key : κ) (t : Table κ α) (k : κ) :
    lookup k (erase key t) = if k = key then none else lookup k t := by
  induction t with
  | nil => simp [erase, lookup]
  | cons e rest ih =>
    obtain ⟨k', v⟩ := e
    unfold erase at ih ⊢
    by_cases he : k' = key
    · subst he
      by_cases h : k = k'
      · subst h; simpa using ih
      · simpa [lookup, h, Ne.symm h] using ih
    · by_cases h : k' = k
      · subst h; simp [lookup, he]
      · simpa [lookup, he, h] using ih

/-- **A change by `modify` touches the value of its own key and no other.** -/
theorem lookup_modify (key : κ) (f : α → α) (t : Table κ α) (k : κ) :
    lookup k (modify key f t) = if k = key then (lookup k t).map f else lookup k t := by
  induction t with
  | nil => simp [modify, lookup]
  | cons e rest ih =>
    obtain ⟨k', v⟩ := e
    unfold modify at ih ⊢
    by_cases he : k' = key
    · subst he
      by_cases h : k = k'
      · subst h; simp [lookup]
      · simpa [lookup, h, Ne.symm h] using ih
    · by_cases h : k' = k
      · subst h; simp [lookup, he]
      · simpa [lookup, he, h] using ih

/-- A change of all values by `mapValues` keeps every key. -/
theorem lookup_mapValues (f : α → α) (t : Table κ α) (k : κ) :
    lookup k (mapValues f t) = (lookup k t).map f := by
  induction t with
  | nil => rfl
  | cons e rest ih =>
    obtain ⟨k', v⟩ := e
    unfold mapValues at ih ⊢
    by_cases h : k' = k
    · simp [lookup, h]
    · simpa [lookup, h] using ih

omit [DecidableEq κ] in
theorem keys_mapValues (f : α → α) (t : Table κ α) : keys (mapValues f t) = keys t := by
  unfold keys mapValues
  rw [List.map_map]
  rfl

theorem mem_keys_insert {key : κ} {value : α} {t : Table κ α} {k : κ} :
    k ∈ keys (insert key value t) ↔ k = key ∨ k ∈ keys t := by
  induction t with
  | nil => simp [insert, keys]
  | cons e rest ih =>
    obtain ⟨k', v⟩ := e
    by_cases he : k' = key
    · subst he; simp [insert, keys]
    · simp only [insert, he, if_false, keys, List.map_cons, List.mem_cons] at ih ⊢
      rw [ih]
      constructor
      · rintro (h | h | h) <;> simp [h]
      · rintro (h | h | h) <;> simp [h]

/-- **No key is ever listed twice**, after `insert` as before. -/
theorem nodup_keys_insert {key : κ} {value : α} {t : Table κ α} (h : (keys t).Nodup) :
    (keys (insert key value t)).Nodup := by
  induction t with
  | nil => simp [insert, keys]
  | cons e rest ih =>
    obtain ⟨k', v⟩ := e
    simp only [keys, List.map_cons, List.nodup_cons] at h
    by_cases he : k' = key
    · subst he; simpa [insert, keys] using h
    · have hnot : k' ∉ keys (insert key value rest) := by
        rw [mem_keys_insert]
        rintro (hk | hk)
        · exact he hk
        · exact h.1 hk
      simp only [insert, he, if_false, keys, List.map_cons, List.nodup_cons]
      exact ⟨hnot, ih h.2⟩

theorem lookup_of_not_mem_keys {key : κ} {t : Table κ α} (h : key ∉ t.keys) :
    t.lookup key = none := by
  induction t with
  | nil => rfl
  | cons e rest ih =>
    obtain ⟨k, v⟩ := e
    obtain ⟨hne, hrest⟩ : key ≠ k ∧ key ∉ keys rest := by simpa [keys] using h
    rw [lookup, if_neg hne.symm]
    exact ih hrest

theorem mem_keys_of_lookup {key : κ} {value : α} {t : Table κ α} (h : t.lookup key = some value) :
    key ∈ t.keys := by
  by_cases hmem : key ∈ t.keys
  · exact hmem
  · rw [lookup_of_not_mem_keys hmem] at h
    contradiction

/-- Asking key by key with `lookup` gives the keys that `select` finds. -/
theorem filter_keys (p : α → Bool) {t : Table κ α} (h : t.keys.Nodup) :
    t.keys.filter (fun k => (t.lookup k).any p) = t.select p := by
  induction t with
  | nil => rfl
  | cons e rest ih =>
    obtain ⟨k, v⟩ := e
    obtain ⟨hk, hrest⟩ : k ∉ keys rest ∧ (keys rest).Nodup := by simpa [keys] using h
    have hsame : ∀ k' ∈ keys rest, (lookup k' ((k, v) :: rest)).any p =
        (lookup k' rest).any p := by
      intro k' hk'
      have hne : k ≠ k' := fun heq => hk (heq ▸ hk')
      rw [lookup, if_neg hne]
    have htail := (List.filter_congr hsame).trans (ih hrest)
    show (k :: keys rest).filter _ = _
    by_cases hp : p v
    · rw [List.filter_cons_of_pos (by simpa [lookup] using hp), htail]
      simp [select, hp]
    · rw [List.filter_cons_of_neg (by simpa [lookup] using hp), htail]
      simp [select, hp]

/-! ## One key and the others -/

theorem erase_of_not_mem_keys {key : κ} {t : Table κ α} (h : key ∉ t.keys) :
    t.erase key = t := by
  refine List.filter_eq_self.mpr fun e he => ?_
  have hne : e.1 ≠ key := fun heq => h (heq ▸ List.mem_map_of_mem he)
  exact decide_eq_true hne

@[simp] theorem erase_erase (key : κ) (t : Table κ α) : (t.erase key).erase key = t.erase key := by
  simp [erase]

@[simp] theorem erase_insert (key : κ) (value : α) (t : Table κ α) :
    (t.insert key value).erase key = t.erase key := by
  induction t with
  | nil => simp [insert, erase]
  | cons e rest ih =>
    obtain ⟨k, v⟩ := e
    unfold erase at ih ⊢
    by_cases hk : k = key
    · simp [insert, hk]
    · simpa [insert, hk] using ih

@[simp] theorem erase_modify (key : κ) (f : α → α) (t : Table κ α) :
    (t.modify key f).erase key = t.erase key := by
  induction t with
  | nil => rfl
  | cons e rest ih =>
    obtain ⟨k, v⟩ := e
    unfold erase modify at ih ⊢
    by_cases hk : k = key
    · simpa [hk] using ih
    · simpa [hk] using ih

@[simp] theorem insert_insert (key : κ) (value value' : α) (t : Table κ α) :
    (t.insert key value).insert key value' = t.insert key value' := by
  induction t with
  | nil => simp [insert]
  | cons e rest ih =>
    obtain ⟨k, v⟩ := e
    by_cases hk : k = key
    · simp [insert, hk]
    · simp [insert, hk, ih]

theorem keys_modify (key : κ) (f : α → α) (t : Table κ α) : (t.modify key f).keys = t.keys := by
  unfold keys modify
  rw [List.map_map]
  refine List.map_congr_left fun e _ => ?_
  by_cases he : e.1 = key
  · simp [he]
  · simp [he]

theorem nodup_keys_erase {key : κ} {t : Table κ α} (h : t.keys.Nodup) : (t.erase key).keys.Nodup :=
  h.sublist (List.filter_sublist.map _)

/-- Tables with the same entries beside those of `key` agree on every other key. -/
theorem lookup_eq_of_erase_eq {key k : κ} {t t' : Table κ α} (h : t'.erase key = t.erase key)
    (hk : k ≠ key) : t'.lookup k = t.lookup k := by
  have heq := congrArg (lookup k) h
  rwa [lookup_erase, lookup_erase, if_neg hk, if_neg hk] at heq

/-- How many entries have a value of this `kind`. -/
def tally (kind : α → Bool) (t : Table κ α) : Nat :=
  t.countP fun e => kind e.2

/-- **Entries are counted by what `key` has and what the others have.** -/
theorem tally_split (kind : α → Bool) (key : κ) {t : Table κ α} (h : t.keys.Nodup) :
    t.tally kind = ((t.lookup key).any kind).toNat + (t.erase key).tally kind := by
  induction t with
  | nil => rfl
  | cons e rest ih =>
    obtain ⟨k, v⟩ := e
    obtain ⟨hk, hrest⟩ : k ∉ keys rest ∧ (keys rest).Nodup := by simpa [keys] using h
    by_cases heq : k = key
    · subst heq
      have herase : erase k ((k, v) :: rest) = rest := by
        rw [← erase_of_not_mem_keys hk]
        simp [erase]
      rw [herase]
      cases hv : kind v
      · simp [tally, lookup, hv]
      · simp [tally, lookup, hv, Nat.add_comm]
    · have herase : erase key ((k, v) :: rest) = (k, v) :: erase key rest := by
        simp [erase, heq]
      have ih := ih hrest
      unfold tally at ih ⊢
      rw [herase, lookup, if_neg heq, List.countP_cons, List.countP_cons]
      omega

end Table

end Memcache
