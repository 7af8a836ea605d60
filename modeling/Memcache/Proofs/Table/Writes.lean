import Mathlib.Data.List.Nodup
import Memcache.Table

/-!
# `Memcache.Proofs.Table.Writes` — tables as sets of entries

A table is filled by `Table.insert` of one entry after another, and a later entry replaces an
earlier one under the same key. Where no key is given two values (`Table.Consistent`) the order of
the entries makes no difference to `Table.lookup`: the table then holds just the entries.

## Contents

* `Table.lookup_eq_some_iff` — **a table finds the entries that it has**; `Table.mem_of_mem_insert`,
  `Table.insert_append_cons` — what one write makes of the entries;
* `Table.write` — entry after entry; `Table.nodup_keys_write`;
* `Table.lookup_write_reverse` — **the last entry under a key is the one that counts**;
* `Table.write_of_nodup` — **entries under different keys are a table**;
* `Table.Consistent`, `Table.lookup_write` — **consistent entries are all found, in any order**;
* `Table.perm_of_lookup_eq` — **tables that find the same have the same entries**;
* `Table.project` — one part of every value, kept by insertion;
* `Table.All`, `Table.tally_insert`, `Table.tally_le_one` — what is true of all entries, and how many
  are of a kind.
-/

namespace Memcache.Table

variable {κ α : Type} [DecidableEq κ]

/-- **By `lookup` a table finds the entries that it has**, if no key is listed twice. -/
theorem lookup_eq_some_iff {key : κ} {value : α} {t : Table κ α} (h : t.keys.Nodup) :
    t.lookup key = some value ↔ (key, value) ∈ t := by
  induction t with
  | nil => simp [lookup]
  | cons e rest ih =>
      obtain ⟨k, v⟩ := e
      obtain ⟨hk, hrest⟩ : k ∉ keys rest ∧ (keys rest).Nodup := by simpa [keys] using h
      by_cases heq : k = key
      · subst heq
        have hnot : (k, value) ∉ rest := fun hmem => hk (List.mem_map_of_mem hmem)
        rw [lookup, if_pos rfl, List.mem_cons, Option.some_inj, Prod.mk.injEq]
        constructor
        · rintro rfl
          exact .inl ⟨rfl, rfl⟩
        · rintro (⟨-, rfl⟩ | hmem)
          · rfl
          · exact absurd hmem hnot
      · rw [lookup, if_neg heq, ih hrest, List.mem_cons, Prod.mk.injEq]
        constructor
        · exact .inr
        · rintro (⟨rfl, -⟩ | hmem)
          · exact absurd rfl heq
          · exact hmem

/-- What `lookup` finds is an entry. -/
theorem mem_of_lookup {key : κ} {value : α} {t : Table κ α} (h : t.lookup key = some value) :
    (key, value) ∈ t := by
  induction t with
  | nil => contradiction
  | cons e rest ih =>
      rw [lookup] at h
      split at h
      · next heq =>
          obtain rfl := Option.some.inj h
          rw [← heq]
          exact List.mem_cons_self
      · exact List.mem_cons_of_mem e (ih h)

/-- Under each of the `keys` there is something. -/
theorem exists_of_mem_keys {key : κ} {t : Table κ α} (h : key ∈ t.keys) :
    ∃ value, t.lookup key = some value := by
  induction t with
  | nil => cases h
  | cons e rest ih =>
      rw [lookup]
      split
      · exact ⟨e.2, rfl⟩
      · next hne =>
          rcases List.mem_cons.mp h with heq | hrest
          · exact absurd heq.symm hne
          · exact ih hrest

/-- An entry after an `insert` is the one that was written, or was there before. -/
theorem mem_of_mem_insert {key : κ} {value : α} {t : Table κ α} {entry : κ × α}
    (h : entry ∈ t.insert key value) : entry = (key, value) ∨ entry ∈ t := by
  induction t with
  | nil => exact .inl (List.mem_singleton.mp h)
  | cons first rest ih =>
      unfold insert at h
      split at h
      · rcases List.mem_cons.mp h with heq | hrest
        · exact .inl heq
        · exact .inr (List.mem_cons_of_mem _ hrest)
      · rcases List.mem_cons.mp h with heq | hrest
        · exact .inr (heq ▸ List.mem_cons_self)
        · rcases ih hrest with heq | hmem
          · exact .inl heq
          · exact .inr (List.mem_cons_of_mem _ hmem)

/-- What is left after an `erase` was there before. -/
theorem lookup_of_lookup_erase {key k : κ} {value : α} {t : Table κ α}
    (h : (t.erase key).lookup k = some value) : t.lookup k = some value := by
  rw [lookup_erase] at h
  split at h
  · contradiction
  · exact h

/-- An `insert` of what is there already changes nothing. -/
theorem insert_of_lookup {key : κ} {value : α} {t : Table κ α} (h : t.lookup key = some value) :
    t.insert key value = t := by
  induction t with
  | nil => contradiction
  | cons e rest ih =>
      obtain ⟨k, v⟩ := e
      rw [lookup] at h
      rw [insert]
      split at h
      · next heq =>
          obtain rfl := Option.some.inj h
          rw [if_pos heq, heq]
      · next hne => rw [if_neg hne, ih h]

/-- A value is replaced by `insert` in its place. -/
theorem insert_append_cons {key : κ} {before : Table κ α} (h : key ∉ before.keys)
    (value value' : α) (after : Table κ α) :
    (before ++ (key, value) :: after).insert key value' = before ++ (key, value') :: after := by
  induction before with
  | nil => exact if_pos rfl
  | cons e before ih =>
      obtain ⟨hne, hbefore⟩ : key ≠ e.1 ∧ key ∉ keys before := by simpa [keys] using h
      rw [List.cons_append, insert, if_neg hne.symm]
      exact congrArg _ (ih hbefore)

/-- **Tables that find the same by `lookup` have the same entries**, if not in the same order. -/
theorem perm_of_lookup_eq {t t' : Table κ α} (ht : t.keys.Nodup) (ht' : t'.keys.Nodup)
    (h : ∀ key, t.lookup key = t'.lookup key) : t.Perm t' := by
  refine (List.perm_ext_iff_of_nodup (List.Nodup.of_map Prod.fst ht)
    (List.Nodup.of_map Prod.fst ht')).mpr ?_
  rintro ⟨key, value⟩
  rw [← lookup_eq_some_iff ht, ← lookup_eq_some_iff ht', h]

/-- A key is in `select p` just if the value under it passes `p`. -/
theorem mem_select {p : α → Bool} {t : Table κ α} {key : κ} (h : t.keys.Nodup) :
    key ∈ t.select p ↔ ∃ value, t.lookup key = some value ∧ p value = true := by
  unfold select
  rw [List.mem_map]
  constructor
  · rintro ⟨entry, hmem, rfl⟩
    obtain ⟨hentry, hp⟩ := List.mem_filter.mp hmem
    exact ⟨entry.2, (lookup_eq_some_iff h).mpr hentry, hp⟩
  · rintro ⟨value, hlookup, hp⟩
    have hentry := (lookup_eq_some_iff h).mp hlookup
    exact ⟨(key, value), List.mem_filter.mpr ⟨hentry, hp⟩, rfl⟩

/-! ## Entry after entry -/

/-- Writes entries one after another, by `insert`. -/
def write (entries : List (κ × α)) (t : Table κ α) : Table κ α :=
  entries.foldl (fun t e => t.insert e.1 e.2) t

theorem write_append (entries entries' : List (κ × α)) (t : Table κ α) :
    write (entries ++ entries') t = write entries' (write entries t) :=
  List.foldl_append

theorem nodup_keys_write {entries : List (κ × α)} {t : Table κ α} (h : t.keys.Nodup) :
    (write entries t).keys.Nodup := by
  induction entries generalizing t with
  | nil => exact h
  | cons e entries ih => exact ih (nodup_keys_insert h)

theorem nodup_keys_write_nil (entries : List (κ × α)) : (write entries []).keys.Nodup :=
  nodup_keys_write List.nodup_nil

theorem lookup_append (key : κ) (t t' : Table κ α) :
    Table.lookup key (t ++ t') = (t.lookup key).or (t'.lookup key) := by
  induction t with
  | nil => rfl
  | cons e rest ih =>
      rw [List.cons_append, lookup, lookup, ih]
      split <;> rfl

theorem lookup_append_cons {key : κ} {before : Table κ α} (h : key ∉ before.keys) (value : α)
    (after : Table κ α) : (before ++ (key, value) :: after).lookup key = some value := by
  rw [lookup_append, lookup_of_not_mem_keys h]
  exact if_pos rfl

/-- **The last entry under a key is the one that counts**: what is found after `write` is what is
    found first on the way back. -/
theorem lookup_write_reverse (entries : List (κ × α)) (t : Table κ α) (key : κ) :
    (write entries t).lookup key = (Table.lookup key entries.reverse).or (t.lookup key) := by
  induction entries generalizing t with
  | nil => rfl
  | cons e entries ih =>
      have hone : (t.insert e.1 e.2).lookup key = (Table.lookup key [e]).or (t.lookup key) := by
        rw [lookup_insert, lookup]
        by_cases hkey : key = e.1
        · rw [if_pos hkey, if_pos hkey.symm]
          rfl
        · rw [if_neg hkey, if_neg (Ne.symm hkey)]
          rfl
      show (write entries (t.insert e.1 e.2)).lookup key = _
      rw [ih, hone, List.reverse_cons, lookup_append, Option.or_assoc]

/-- Entries under different keys, none of them there before, go behind what was there. -/
theorem write_eq_append {entries : List (κ × α)} {t : Table κ α}
    (h : (t.keys ++ entries.map Prod.fst).Nodup) : write entries t = t ++ entries := by
  have hinsert : ∀ {t : Table κ α} {e : κ × α}, e.1 ∉ t.keys → t.insert e.1 e.2 = t ++ [e] := by
    intro t e hnew
    induction t with
    | nil => rfl
    | cons first rest ih =>
        obtain ⟨hne, hrest⟩ : e.1 ≠ first.1 ∧ e.1 ∉ keys rest := by simpa [keys] using hnew
        rw [insert, if_neg hne.symm, ih hrest]
        rfl
  induction entries generalizing t with
  | nil => exact (List.append_nil t).symm
  | cons e entries ih =>
      have hnew : e.1 ∉ t.keys := fun hmem =>
        (List.nodup_append.mp h).2.2 e.1 hmem e.1 List.mem_cons_self rfl
      show write entries (t.insert e.1 e.2) = _
      rw [hinsert hnew, ih, List.append_assoc]
      · rfl
      · rw [keys, List.map_append, List.append_assoc]
        exact h

/-- **Entries under different keys are a table**, and `write` leaves them as they are. -/
theorem write_of_nodup {entries : List (κ × α)} (h : (entries.map Prod.fst).Nodup) :
    write entries [] = entries :=
  write_eq_append h

/-- No key is given two values. -/
def Consistent (entries : List (κ × α)) : Prop :=
  ∀ key value value', (key, value) ∈ entries → (key, value') ∈ entries → value = value'

/-- What is found after `Consistent` entries were written is one of them, or it was there and none
    of them is under its key. -/
theorem lookup_write_iff {entries : List (κ × α)} (h : Consistent entries) {t : Table κ α}
    {key : κ} {value : α} :
    (write entries t).lookup key = some value ↔
      (key, value) ∈ entries ∨ t.lookup key = some value ∧ ∀ v, (key, v) ∉ entries := by
  induction entries generalizing t with
  | nil => simp [write]
  | cons e entries ih =>
      obtain ⟨k, v⟩ := e
      have hrest : Consistent entries := fun key value value' hmem hmem' =>
        h key value value' (List.mem_cons_of_mem _ hmem) (List.mem_cons_of_mem _ hmem')
      show (write entries (t.insert k v)).lookup key = some value ↔ _
      rw [ih hrest, lookup_insert]
      by_cases hk : key = k
      · subst hk
        rw [if_pos rfl, Option.some_inj]
        constructor
        · rintro (hmem | ⟨rfl, -⟩)
          · exact .inl (List.mem_cons_of_mem _ hmem)
          · exact .inl List.mem_cons_self
        · rintro (hmem | ⟨-, hnone⟩)
          · obtain rfl : v = value := h key v value List.mem_cons_self hmem
            -- the entry may be written again later, and then it is the same one
            by_cases hagain : ∃ v', (key, v') ∈ entries
            · obtain ⟨v', hv'⟩ := hagain
              obtain rfl := h key v v' List.mem_cons_self (List.mem_cons_of_mem _ hv')
              exact .inl hv'
            · exact .inr ⟨rfl, fun v' hv' => hagain ⟨v', hv'⟩⟩
          · exact absurd List.mem_cons_self (hnone v)
      · rw [if_neg hk]
        have hmem : ∀ v', (key, v') ∈ (k, v) :: entries ↔ (key, v') ∈ entries := by
          intro v'
          rw [List.mem_cons, Prod.mk.injEq]
          exact or_iff_right fun heq => hk heq.1
        simp only [hmem]

/-- **All `Consistent` entries are found, in any order.** -/
theorem lookup_write {entries : List (κ × α)} (h : Consistent entries) {key : κ} {value : α} :
    (write entries []).lookup key = some value ↔ (key, value) ∈ entries := by
  rw [lookup_write_iff h]
  refine or_iff_left ?_
  rintro ⟨hthere, -⟩
  cases hthere

/-! ## One part of every value -/

section Project
variable {β : Type} (f : α → β)

/-- The table of one part of every value. -/
def project (t : Table κ α) : Table κ β :=
  t.map fun e => (e.1, f e.2)

omit [DecidableEq κ] in
theorem keys_project (t : Table κ α) : (t.project f).keys = t.keys := by
  unfold keys project
  rw [List.map_map]
  rfl

theorem lookup_project (t : Table κ α) (key : κ) :
    (t.project f).lookup key = (t.lookup key).map f := by
  induction t with
  | nil => rfl
  | cons e rest ih =>
      show (if e.1 = key then some (f e.2) else lookup key (project f rest)) =
        (if e.1 = key then some e.2 else lookup key rest).map f
      rw [ih]
      split <;> rfl

/-- A part that is inserted into `project` is the part of what is inserted. -/
theorem insert_project (key : κ) (value : α) (t : Table κ α) :
    (t.project f).insert key (f value) = (t.insert key value).project f := by
  induction t with
  | nil => rfl
  | cons e rest ih =>
      show (if e.1 = key then (key, f value) :: project f rest
          else (e.1, f e.2) :: insert key (f value) (project f rest)) =
        project f (if e.1 = key then (key, value) :: rest else e :: insert key value rest)
      rw [ih]
      split <;> rfl

end Project

/-! ## All entries, and how many are of a kind -/

/-- Every value that `lookup` finds passes `p`. -/
def All (p : α → Prop) (t : Table κ α) : Prop :=
  ∀ key value, t.lookup key = some value → p value

section All
variable {p : α → Prop} {t : Table κ α}

theorem all_nil : All p ([] : Table κ α) := by
  intro key value hvalue
  cases hvalue

theorem All.insert (h : t.All p) (key : κ) {value : α} (hvalue : p value) :
    All p (t.insert key value) := by
  intro k v hv
  rw [lookup_insert] at hv
  split at hv
  · obtain rfl := Option.some.inj hv
    exact hvalue
  · exact h k v hv

theorem All.erase (h : t.All p) (key : κ) : (t.erase key).All p := by
  intro k v hv
  rw [lookup_erase] at hv
  split at hv
  · cases hv
  · exact h k v hv

end All

section Tally
variable {kind : α → Bool} {t : Table κ α}

theorem tally_eq_zero (h : t.keys.Nodup) (hnone : t.All (kind · = false)) : t.tally kind = 0 := by
  refine List.countP_eq_zero.mpr ?_
  rintro ⟨key, value⟩ hmem
  rw [hnone key value ((lookup_eq_some_iff h).mpr hmem)]
  exact Bool.false_ne_true

/-- One more value of a `kind`, in the place of what was there: how `tally` changes by `insert`. -/
theorem tally_insert (h : t.keys.Nodup) (key : κ) (value : α) :
    (t.insert key value).tally kind + ((t.lookup key).any kind).toNat =
      t.tally kind + (kind value).toNat := by
  have hlookup : lookup key (t.insert key value) = some value :=
    (lookup_insert ..).trans (if_pos rfl)
  rw [tally_split kind key h, tally_split kind key (nodup_keys_insert h), hlookup, erase_insert,
    Option.any_some]
  omega

/-- **At most one value is of a `kind` if only one key may have such a one.** -/
theorem tally_le_one (h : t.keys.Nodup) (key : κ)
    (hkey : ∀ k v, t.lookup k = some v → kind v = true → k = key) : t.tally kind ≤ 1 := by
  have hothers : (t.erase key).tally kind = 0 := by
    refine tally_eq_zero (nodup_keys_erase h) ?_
    intro k v hv
    rw [lookup_erase] at hv
    split at hv
    · cases hv
    · next hne => exact Bool.eq_false_iff.mpr fun hkind => hne (hkey k v hv hkind)
  rw [tally_split kind key h, hothers]
  exact Bool.toNat_le _

end Tally

end Memcache.Table
