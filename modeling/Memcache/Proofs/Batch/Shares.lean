import Mathlib
import Memcache.Client
import Memcache.Proofs.Table.Writes

/-!
# `Memcache.Proofs.Batch.Shares` — the keys of a batched read and their owners

A batched read turns each of the caller's keys into the key that is sent (`Client.wireKey`), keeps
the caller's key with it in `Client.callerKeys`, and gives every sent key to the server that owns it
(`Batch.assign`). A caller may name a key twice. If no two keys are turned into the same one
(`KeyTransform.Injective`), the table of callers' keys is a bijection, and so nothing is lost or
doubled on the way to the servers.

## Contents

* `KeyTransform.Injective`; `injective_plain`, `injective_namespaced` — transformations that are;
* `Client.Tabled`, `Client.exists_callerKeys` — **each sent key leads back to the one key that it was
  made of**;
* `Batch.share_of` — the share of a server is what it owns;
* `Batch.sendings` — who is sent what; `Batch.mem_sendings`, `Batch.nodup_sendings` — **each sent
  key with a living owner goes to its owner, once**.
-/

namespace Memcache

/-! ## Callers' keys -/

namespace KeyTransform

/-- No two keys are turned into the same one by `KeyTransform.apply`. -/
def Injective (t : KeyTransform) : Prop :=
  ∀ key key' wire, t.apply key = .ok wire → t.apply key' = .ok wire → key = key'

/-- A check that passes gives what was checked. -/
theorem eq_of_checked {key wire : String} {check : Except KeyError Unit}
    (h : (check.map fun _ => key) = .ok wire) : key = wire := by
  cases check with
  | error e => cases h
  | ok u => exact Except.ok.inj h

theorem injective_plain : plain.Injective :=
  fun _ _ _ hkey hkey' => (eq_of_checked hkey).trans (eq_of_checked hkey').symm

theorem injective_namespaced (lead : String) : (namespaced lead).Injective := by
  have hlead : ∀ key wire, (namespaced lead).apply key = .ok wire → lead ++ key = wire := by
    intro key wire happly
    unfold namespaced at happly
    dsimp only at happly
    split at happly
    · cases happly
    · exact eq_of_checked happly
  intro key key' wire hkey hkey'
  exact (String.append_right_inj lead).mp ((hlead key wire hkey).trans (hlead key' wire hkey').symm)

end KeyTransform

namespace Client

variable {c : Client} {keys : List String}

/-- What `Client.wireKey` sends for a key is what the transformation makes of it, and valid. -/
theorem wireKey_eq_ok {key wire : String} (h : c.wireKey key = .ok wire) :
    c.keys.apply key = .ok wire ∧ Key.validate wire = .ok () := by
  unfold wireKey at h
  split at h
  · contradiction
  · next wire' happly =>
      split at h
      · contradiction
      · next hvalidate =>
          obtain rfl := Except.ok.inj h
          exact ⟨happly, hvalidate⟩

/-- The entries of `Client.callerKeys`. -/
theorem callerKeys_eq (haccepts : ∀ key ∈ keys, ∃ wire, c.wireKey key = .ok wire)
    (table : Table String String) :
    ∃ entries, c.callerKeys keys table = .ok (table.write entries) ∧
      ∀ wire key, (wire, key) ∈ entries ↔ key ∈ keys ∧ c.wireKey key = .ok wire := by
  induction keys generalizing table with
  | nil => exact ⟨[], rfl, fun wire key => by simp⟩
  | cons key keys ih =>
      obtain ⟨wire, hwire⟩ := haccepts key List.mem_cons_self
      obtain ⟨entries, hentries, hmem⟩ :=
        ih (fun key hkey => haccepts key (List.mem_cons_of_mem _ hkey)) (table.insert wire key)
      refine ⟨(wire, key) :: entries, ?_, ?_⟩
      · rw [callerKeys, hwire]
        exact hentries
      · intro wire' key'
        rw [List.mem_cons, List.mem_cons, Prod.mk.injEq, hmem]
        constructor
        · rintro (⟨rfl, rfl⟩ | ⟨hkey, hwire'⟩)
          · exact ⟨.inl rfl, hwire⟩
          · exact ⟨.inr hkey, hwire'⟩
        · rintro ⟨rfl | hkey, hwire'⟩
          · rw [hwire] at hwire'
            exact .inl ⟨(Except.ok.inj hwire').symm, rfl⟩
          · exact .inr ⟨hkey, hwire'⟩

/-- **If no key is refused, the keys that are sent are those that the callers' keys are turned
    into** by `Client.wireKey`. -/
theorem keys_callerKeys {known table : Table String String}
    (htable : c.callerKeys keys known = .ok table) :
    (∀ key ∈ keys, ∃ wire, c.wireKey key = .ok wire) ∧
      ∀ wire, wire ∈ table.keys ↔ (∃ key ∈ keys, c.wireKey key = .ok wire) ∨ wire ∈ known.keys := by
  induction keys generalizing known with
  | nil =>
      obtain rfl := Except.ok.inj htable
      exact ⟨nofun, fun wire => by simp⟩
  | cons key keys ih =>
      rw [callerKeys] at htable
      cases hwire : c.wireKey key with
      | error e =>
          rw [hwire] at htable
          cases htable
      | ok wire =>
          rw [hwire] at htable
          obtain ⟨haccepts, hmem⟩ := ih htable
          refine ⟨List.forall_mem_cons.mpr ⟨⟨wire, hwire⟩, haccepts⟩, fun wire' => ?_⟩
          rw [hmem, Table.mem_keys_insert]
          simp only [List.mem_cons, exists_eq_or_imp, hwire, Except.ok.injEq]
          grind

/-- A table that holds the caller's key for every key that `Client.wireKey` sends, and nothing
    else. -/
structure Tabled (c : Client) (keys : List String) (table : Table String String) : Prop where
  nodup : table.keys.Nodup
  lookup : ∀ wire key, table.lookup wire = some key ↔ key ∈ keys ∧ c.wireKey key = .ok wire

/-- **Each sent key leads back to the one key that it was made of**, in `Client.callerKeys`. -/
theorem exists_callerKeys (hinjective : c.keys.Injective)
    (haccepts : ∀ key ∈ keys, ∃ wire, c.wireKey key = .ok wire) :
    ∃ table, c.callerKeys keys [] = .ok table ∧ c.Tabled keys table := by
  obtain ⟨entries, htable, hentries⟩ := callerKeys_eq haccepts []
  have hconsistent : Table.Consistent entries := by
    intro wire key key' hkey hkey'
    have hwire := wireKey_eq_ok ((hentries wire key).mp hkey).2
    have hwire' := wireKey_eq_ok ((hentries wire key').mp hkey').2
    exact hinjective key key' wire hwire.1 hwire'.1
  refine ⟨_, htable, Table.nodup_keys_write_nil _, ?_⟩
  intro wire key
  rw [Table.lookup_write hconsistent, hentries]

theorem Tabled.mem_keys {table : Table String String} (h : c.Tabled keys table) {wire : String} :
    wire ∈ table.keys ↔ ∃ key ∈ keys, c.wireKey key = .ok wire := by
  rw [Table.keys, List.mem_map]
  constructor
  · rintro ⟨⟨wire, key⟩, hmem, rfl⟩
    exact ⟨key, (h.lookup wire key).mp ((Table.lookup_eq_some_iff h.nodup).mpr hmem)⟩
  · rintro ⟨key, hkey⟩
    exact ⟨(wire, key), (Table.lookup_eq_some_iff h.nodup).mp ((h.lookup wire key).mpr hkey), rfl⟩

end Client

/-! ## Shares -/

namespace Batch

variable {locate : String → Option Endpoint}

/-- The keys of a list that a server owns. -/
def owned (locate : String → Option Endpoint) (server : Endpoint) (keys : List String) :
    List String :=
  keys.filter fun key => locate key = some server

theorem lookup_foldl_assign (keys : List String) (b : Batch) (server : Endpoint) :
    ((keys.foldl (fun b key => b.assign locate key) b).shares.lookup server).getD [] =
      (b.shares.lookup server).getD [] ++ owned locate server keys := by
  induction keys generalizing b with
  | nil => simp [owned]
  | cons key keys ih =>
      rw [List.foldl_cons, ih, assign]
      cases howner : locate key with
      | none => simp [owned, howner]
      | some owner =>
          dsimp only
          rw [Table.lookup_insert]
          by_cases heq : server = owner
          · subst heq
            simp [owned, howner]
          · simp [owned, howner, heq, Ne.symm heq]

theorem foldl_assign (keys : List String) (b : Batch) (hb : b.shares.keys.Nodup) :
    (keys.foldl (fun b key => b.assign locate key) b).shares.keys.Nodup ∧
      (keys.foldl (fun b key => b.assign locate key) b).callerKeys = b.callerKeys := by
  induction keys generalizing b with
  | nil => exact ⟨hb, rfl⟩
  | cons key keys ih =>
      rw [List.foldl_cons, assign]
      cases locate key with
      | none => exact ih b hb
      | some owner => exact ih _ (Table.nodup_keys_insert hb)

section Of
variable {table : Table String String} {server : Endpoint} {share : List String} {wire : String}

theorem callerKeys_of : (Batch.of locate table).callerKeys = table :=
  (foldl_assign table.keys { callerKeys := table } List.nodup_nil).2

theorem nodup_keys_shares : (Batch.of locate table).shares.keys.Nodup :=
  (foldl_assign table.keys { callerKeys := table } List.nodup_nil).1

theorem getD_lookup_shares :
    ((Batch.of locate table).shares.lookup server).getD [] = owned locate server table.keys :=
  lookup_foldl_assign table.keys { callerKeys := table } server

/-- The share of a server in `Batch.shares` is what it owns. -/
theorem share_of (h : (server, share) ∈ (Batch.of locate table).shares) :
    share = owned locate server table.keys := by
  rw [← getD_lookup_shares, (Table.lookup_eq_some_iff nodup_keys_shares).mpr h]
  rfl

/-- Nobody has a share without a key. -/
theorem ne_nil_of_mem_shares (h : (server, share) ∈ (Batch.of locate table).shares) :
    share ≠ [] := by
  have hassigned : ∀ (keys : List String) (b : Batch), b.shares.All (· ≠ []) →
      (keys.foldl (fun b key => b.assign locate key) b).shares.All (· ≠ []) := by
    intro keys
    induction keys with
    | nil => exact fun _ hb => hb
    | cons key keys ih =>
        intro b hb
        rw [List.foldl_cons, assign]
        split
        · exact ih b hb
        · exact ih _ (hb.insert _ (List.append_ne_nil_of_right_ne_nil _ (List.cons_ne_nil _ _)))
  exact hassigned table.keys { callerKeys := table } Table.all_nil server share
    ((Table.lookup_eq_some_iff nodup_keys_shares).mpr h)

theorem locate_of_mem_share (h : (server, share) ∈ (Batch.of locate table).shares)
    (hwire : wire ∈ share) : locate wire = some server := by
  obtain rfl := share_of h
  exact of_decide_eq_true (List.mem_filter.mp hwire).2

/-- Each key has its place in the share of its living owner. -/
theorem exists_share (hwire : wire ∈ table.keys) (howner : locate wire = some server) :
    ∃ share, (server, share) ∈ (Batch.of locate table).shares ∧ wire ∈ share := by
  have howned : wire ∈ ((Batch.of locate table).shares.lookup server).getD [] := by
    rw [getD_lookup_shares, owned, List.mem_filter]
    exact ⟨hwire, decide_eq_true howner⟩
  cases hshare : (Batch.of locate table).shares.lookup server with
  | none =>
      rw [hshare] at howned
      cases howned
  | some share =>
      rw [hshare] at howned
      exact ⟨share, (Table.lookup_eq_some_iff nodup_keys_shares).mp hshare, howned⟩

end Of

/-- Which server is sent which key, by `Batch.shares`. -/
def sendings (b : Batch) : List (Endpoint × String) :=
  b.shares.flatMap fun share => share.2.map fun wire => (share.1, wire)

/-- **Each sent key with a living owner goes to its owner**, and nothing else is sent. -/
theorem mem_sendings {table : Table String String} {server : Endpoint} {wire : String} :
    (server, wire) ∈ (Batch.of locate table).sendings ↔
      wire ∈ table.keys ∧ locate wire = some server := by
  rw [sendings, List.mem_flatMap]
  constructor
  · rintro ⟨⟨server', share⟩, hshare, hmem⟩
    obtain ⟨wire', hwire, heq⟩ := List.mem_map.mp hmem
    obtain ⟨rfl, rfl⟩ := Prod.mk.inj heq
    have howner := locate_of_mem_share hshare hwire
    obtain rfl := share_of hshare
    exact ⟨(List.mem_filter.mp hwire).1, howner⟩
  · rintro ⟨hkey, howner⟩
    obtain ⟨share, hshare, hwire⟩ := exists_share hkey howner
    exact ⟨(server, share), hshare, List.mem_map_of_mem hwire⟩

/-- **No key is sent twice.** -/
theorem nodup_sendings {table : Table String String} (htable : table.keys.Nodup) :
    (Batch.of locate table).sendings.Nodup := by
  rw [sendings, List.nodup_flatMap]
  constructor
  · rintro ⟨server, share⟩ hshare
    obtain rfl := share_of hshare
    refine (htable.filter _).map ?_
    intro wire wire' heq
    exact (Prod.mk.inj heq).2
  · -- two shares are of two servers
    have hservers : (Batch.of locate table).shares.Pairwise fun share share' =>
        share.1 ≠ share'.1 := List.pairwise_map.mp nodup_keys_shares
    refine hservers.imp ?_
    rintro ⟨server, share⟩ ⟨server', share'⟩ hne
    rintro ⟨owner, wire⟩ hmem hmem'
    obtain ⟨_, -, heq⟩ := List.mem_map.mp hmem
    obtain ⟨_, -, heq'⟩ := List.mem_map.mp hmem'
    exact hne ((Prod.mk.inj heq).1.trans (Prod.mk.inj heq').1.symm)

end Batch

end Memcache
