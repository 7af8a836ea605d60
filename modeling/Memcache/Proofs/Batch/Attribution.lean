import Mathlib
import Memcache.Command.Reply
import Memcache.Proofs.Table.Writes
import Memcache.Proofs.Text.Lossy

/-!
# `Memcache.Proofs.Batch.Attribution` — which key a reply of a batched read is about

The replies to a `Command.multiGet` come in any order and may repeat a key. Each says which key it
is about in one of two ways, and `Command.resolveKey` reads both: it names the key, or it has no
name and its tag is the place of the key in the batch. What `Reply.found` has for a key is what the
last reply about it said, all three parts of it: flags, octets and version token. A reply that is
refused or that is about no key changes nothing.

The parts may be kept in two tables (`Batch.Columns`), one for the items and one for the tokens,
that are written one after the other and joined when they are handed on, with 0 for a token that is
missing. No token is ever missing: the flags are read before either table is written, and so the two
have the same keys after every packet, also after one that could not be read.

## Contents

* `Packet.Tells` — a packet tells an item; `Command.handle_of_tells`,
  `Command.lookup_found_handle` — **it is found under its key, and nothing else changes**;
* `Packet.Hits`, `Packet.Expected` — the two ways of naming a key, and what a server may send;
* `Batch.Columns` — the two tables; `Columns.hear_split`, `Columns.take_split` — **they are the parts
  of the one**;
* `Batch.Reaches.lookup_found` — **the last packet about a key counts**, in every state that can be
  reached;
* `Batch.replies_attributed` — **every item is handed on under its own key with its own token**.
-/

namespace Memcache

/-! ## Packets about a key -/

namespace Packet

/-- What a packet tells of an item: flags and octets, and the token. -/
def held (p : Packet) : Versioned Item :=
  ⟨⟨UInt32.ofNat (beValue (p.extras.take 4)), p.value⟩, p.cas⟩

/-- A packet tells what a server has under a key, whether the key was asked for or not:
    `Command.resolveKey` gives the key, and the flags can be read. -/
@[mk_iff]
structure Tells (keys : List String) (key : String) (p : Packet) : Prop where
  opcode : p.opcode = Opcode.getKeyQuiet ∨ p.opcode = Opcode.getKey
  status : p.status = 0
  extras : 4 ≤ p.extras.length
  about : Command.resolveKey keys p = some key

/-- A packet is a hit of a key of the batch: its `key` is the name, or is empty and its `tag` is a
    place of the key. -/
@[mk_iff]
structure Hits (keys : List String) (key : String) (p : Packet) : Prop where
  opcode : p.opcode = Opcode.getKeyQuiet ∨ p.opcode = Opcode.getKey
  status : p.status = 0
  extras : 4 ≤ p.extras.length
  mem : key ∈ keys
  about : p.key = Text.encode key ∨ p.key = [] ∧ keys[p.tag.toNat]? = some key

/-- A packet answers one of the reads with an error in its `status`. -/
structure Refuses (p : Packet) : Prop where
  opcode : p.opcode = Opcode.getKeyQuiet ∨ p.opcode = Opcode.getKey
  status : p.status ≠ 0

/-- What a server may send before the no-op: it `Hits` a key or `Refuses` one. -/
def Expected (keys : List String) (p : Packet) : Prop :=
  (∃ key, p.Hits keys key) ∨ p.Refuses

instance (keys : List String) (key : String) (p : Packet) : Decidable (p.Tells keys key) :=
  decidable_of_iff _ (tells_iff keys key p).symm

instance (keys : List String) (key : String) (p : Packet) : Decidable (p.Hits keys key) :=
  decidable_of_iff _ (hits_iff keys key p).symm

variable {keys : List String} {key key' : String} {p : Packet}

theorem Tells.unique (h : p.Tells keys key) (h' : p.Tells keys key') : key = key' :=
  Option.some.inj (h.about.symm.trans h'.about)

/-- Both ways of naming a key are understood by `Command.resolveKey`. -/
theorem Hits.tells (h : p.Hits keys key) (hkey : key ≠ "") : p.Tells keys key := by
  refine ⟨h.opcode, h.status, h.extras, ?_⟩
  unfold Command.resolveKey
  rcases h.about with hname | ⟨hname, hplace⟩
  · rw [hname, if_neg (mt List.isEmpty_iff.mp (Text.encode_ne_nil hkey)), Text.decodeLossy_encode]
  · rw [hname, hplace]
    rfl

/-- Of the packets that a server may send those that `Hits` a key are those that `Tells` an item
    under it. -/
theorem Expected.tells_iff_hits (h : p.Expected keys) (hkeys : ∀ key ∈ keys, key ≠ "") :
    p.Tells keys key ↔ p.Hits keys key := by
  constructor
  · intro htells
    rcases h with ⟨other, hhits⟩ | hrefuses
    · obtain rfl := (hhits.tells (hkeys other hhits.mem)).unique htells
      exact hhits
    · exact absurd htells.status hrefuses.status
  · intro hhits
    exact hhits.tells (hkeys key hhits.mem)

end Packet

/-! ## One packet -/

theorem read32_of_le {bs : Bytes} (h : 4 ≤ bs.length) :
    read32 bs = .ok (UInt32.ofNat (beValue (bs.take 4))) :=
  if_neg (Nat.not_lt.mpr h)

theorem le_of_read32 {bs : Bytes} {n : UInt32} (h : read32 bs = .ok n) : 4 ≤ bs.length := by
  by_contra hshort
  rw [read32, if_pos (Nat.not_le.mp hshort)] at h
  contradiction

namespace Command

variable {keys : List String} {key : String} {p : Packet}

/-- A reply to a read does not end the answer. -/
theorem ne_noop_of_read (h : p.opcode = Opcode.getKeyQuiet ∨ p.opcode = Opcode.getKey) :
    p.opcode ≠ Opcode.noop := by
  rcases h with heq | heq
  · rw [heq]
    decide
  · rw [heq]
    decide

/-- **What is told is found under its key** in `Reply.found`. -/
theorem handle_of_tells (h : p.Tells keys key) (r : Reply) :
    (Command.multiGet keys).handle r p =
      ({ r with found := r.found.insert key p.held }, .ok .more) := by
  unfold handle handleBatch
  dsimp only
  rw [if_neg (ne_noop_of_read h.opcode), if_pos h.opcode, if_pos h.status, h.about]
  dsimp only
  rw [read32_of_le h.extras]
  rfl

theorem handle_of_refuses (h : p.Refuses) (r : Reply) :
    (Command.multiGet keys).handle r p = (r, .ok .more) := by
  unfold handle handleBatch
  dsimp only
  rw [if_neg (ne_noop_of_read h.opcode), if_pos h.opcode, if_neg h.status]

/-- A packet that tells nothing leaves `Reply.found` as it is, whatever is wrong with it. -/
theorem found_handle_of_not_tells (h : ∀ key, ¬ p.Tells keys key) (r : Reply) :
    ((Command.multiGet keys).handle r p).1.found = r.found := by
  unfold handle handleBatch
  dsimp only
  by_cases hnoop : p.opcode = Opcode.noop
  · rw [if_pos hnoop]
    rfl
  rw [if_neg hnoop]
  by_cases hopcode : p.opcode = Opcode.getKeyQuiet ∨ p.opcode = Opcode.getKey
  · rw [if_pos hopcode]
    by_cases hstatus : p.status = 0
    · rw [if_pos hstatus]
      cases hkey : resolveKey keys p with
      | none => rfl
      | some key =>
          cases hread : read32 p.extras with
          | error e => rfl
          | ok flags => exact absurd ⟨hopcode, hstatus, le_of_read32 hread, hkey⟩ (h key)
    · rw [if_neg hstatus]
  · rw [if_neg hopcode]

/-- **A packet changes what `Reply.found` has under the key that it is about, and under no
    other.** -/
theorem lookup_found_handle (keys : List String) (r : Reply) (p : Packet) (key : String) :
    ((Command.multiGet keys).handle r p).1.found.lookup key =
      if p.Tells keys key then some p.held else r.found.lookup key := by
  by_cases htells : ∃ other, p.Tells keys other
  · obtain ⟨other, hother⟩ := htells
    rw [handle_of_tells hother, Table.lookup_insert]
    refine if_congr ?_ rfl rfl
    constructor
    · rintro rfl
      exact hother
    · intro hkey
      exact hkey.unique hother
  · rw [found_handle_of_not_tells (fun other hother => htells ⟨other, hother⟩),
      if_neg fun hkey => htells ⟨key, hkey⟩]

theorem nodup_keys_found_handle {r : Reply} (h : r.found.keys.Nodup) (keys : List String)
    (p : Packet) : ((Command.multiGet keys).handle r p).1.found.keys.Nodup := by
  by_cases htells : ∃ other, p.Tells keys other
  · obtain ⟨other, hother⟩ := htells
    rw [handle_of_tells hother]
    exact Table.nodup_keys_insert h
  · rwa [found_handle_of_not_tells fun other hother => htells ⟨other, hother⟩]

end Command

/-! ## Two tables -/

namespace Batch

/-- What was found, the `items` and the `tokens` apart. -/
structure Columns where
  items : Table String Item := []
  tokens : Table String UInt64 := []
  deriving DecidableEq, Repr

namespace Columns

/-- One packet of a batched read. It is written into `tokens` first, then into `items`, and into
    neither before the flags were read. -/
def hear (keys : List String) (c : Columns) (p : Packet) : Columns × Except ParseError Progress :=
  if p.opcode = Opcode.noop then (c, .ok .done)
  else if p.opcode = Opcode.getKeyQuiet ∨ p.opcode = Opcode.getKey then
    if p.status = 0 then
      match Command.resolveKey keys p with
      | none => (c, .ok .more)
      | some key =>
        match read32 p.extras with
        | .error e => (c, .error e)
        | .ok flags =>
          let c := { c with tokens := c.tokens.insert key p.cas }
          ({ c with items := c.items.insert key ⟨flags, p.value⟩ }, .ok .more)
    else (c, .ok .more)
  else (c, .error (.unexpectedOpcode Opcode.getKeyQuiet p.opcode))

/-- Hands the `items` on, each with the token under its key in `tokens` or with 0 if there is none,
    and starts over. -/
def take (c : Columns) : List (String × Item × UInt64) × Columns :=
  (c.items.map fun e => (e.1, e.2, (c.tokens.lookup e.1).getD 0), {})

/-- The parts of one table, as `Reply.found` is. -/
def split (t : Table String (Versioned Item)) : Columns where
  items := t.project (·.value)
  tokens := t.project (·.cas)

theorem keys_split (t : Table String (Versioned Item)) :
    (split t).items.keys = (split t).tokens.keys :=
  (Table.keys_project _ t).trans (Table.keys_project _ t).symm

/-- **A packet does to the parts what it does to the whole**, and `Columns.hear` judges it as
    `Command.handle` does. -/
theorem hear_split (keys : List String) (r : Reply) (p : Packet) :
    (split r.found).hear keys p =
      (split ((Command.multiGet keys).handle r p).1.found,
        ((Command.multiGet keys).handle r p).2) := by
  unfold hear Command.handle Command.handleBatch
  dsimp only
  by_cases hnoop : p.opcode = Opcode.noop
  · rw [if_pos hnoop, if_pos hnoop]
    rfl
  rw [if_neg hnoop, if_neg hnoop]
  by_cases hopcode : p.opcode = Opcode.getKeyQuiet ∨ p.opcode = Opcode.getKey
  · rw [if_pos hopcode, if_pos hopcode]
    by_cases hstatus : p.status = 0
    · rw [if_pos hstatus, if_pos hstatus]
      cases Command.resolveKey keys p with
      | none => rfl
      | some key =>
          cases read32 p.extras with
          | error e => rfl
          | ok flags =>
              unfold split
              dsimp only
              rw [← Table.insert_project, ← Table.insert_project]
    · rw [if_neg hstatus, if_neg hstatus]
  · rw [if_neg hopcode, if_neg hopcode]

/-- **Each item is joined with its own token** by `Columns.take`. -/
theorem take_split {t : Table String (Versioned Item)} (h : t.keys.Nodup) :
    (split t).take = (t.map fun e => (e.1, e.2.value, e.2.cas), split []) := by
  refine Prod.ext ?_ rfl
  show ((t.project (·.value)).map fun e => (e.1, e.2, ((t.project (·.cas)).lookup e.1).getD 0)) = _
  unfold Table.project
  rw [List.map_map]
  refine List.map_congr_left ?_
  rintro ⟨key, item⟩ hmem
  have htoken : (t.project (·.cas)).lookup key = some item.cas := by
    rw [Table.lookup_project, (Table.lookup_eq_some_iff h).mpr hmem]
    rfl
  show (key, item.value, ((t.project (·.cas)).lookup key).getD 0) = _
  rw [htoken]
  rfl

end Columns

/-! ## Whole answers -/

/-- What `Command.handle` has read after some packets. -/
def heard (keys : List String) (packets : List Packet) : Reply :=
  packets.foldl (fun r p => ((Command.multiGet keys).handle r p).1) {}

/-- **The states of a batched read**, with the one table `Reply.found` and with two in `Columns`:
    what comes of packets, whatever `Command.handle` says of each, and of handing the items on. The
    packets are those since the items were last handed on. -/
inductive Reaches (keys : List String) : List Packet → Reply → Columns → Prop where
  | start : Reaches keys [] {} {}
  | packet {packets : List Packet} {r : Reply} {c : Columns} (p : Packet)
      (before : Reaches keys packets r c) :
      Reaches keys (packets ++ [p]) ((Command.multiGet keys).handle r p).1 (c.hear keys p).1
  | taken {packets : List Packet} {r : Reply} {c : Columns} (before : Reaches keys packets r c) :
      Reaches keys [] r.withoutItems c.take.2

variable {keys : List String} {packets packets' : List Packet} {r : Reply} {c : Columns}

theorem reaches_heard (keys : List String) (packets : List Packet) :
    ∃ c, Reaches keys packets (heard keys packets) c := by
  induction packets using List.reverseRecOn with
  | nil => exact ⟨{}, .start⟩
  | append_singleton packets p ih =>
      obtain ⟨c, hc⟩ := ih
      refine ⟨(c.hear keys p).1, ?_⟩
      rw [heard, List.foldl_append]
      exact .packet p hc

namespace Reaches

theorem nodup_keys (h : Reaches keys packets r c) : r.found.keys.Nodup := by
  induction h with
  | start => exact List.nodup_nil
  | packet p _ ih => exact Command.nodup_keys_found_handle ih keys p
  | taken _ _ => exact List.nodup_nil

/-- The two tables are the parts of `Reply.found`. -/
theorem eq_split (h : Reaches keys packets r c) : c = Columns.split r.found := by
  induction h with
  | start => rfl
  | packet p _ ih => rw [ih, Columns.hear_split]
  | taken _ _ => rfl

/-- **What `Reply.found` has under a key is what the last packet that `Tells` it told.** -/
theorem lookup_found (h : Reaches keys packets r c) (key : String) :
    r.found.lookup key =
      ((packets.filter (·.Tells keys key)).getLast?).map Packet.held := by
  induction h with
  | start => rfl
  | taken _ _ => rfl
  | packet p _ ih =>
      rw [Command.lookup_found_handle, List.filter_append]
      by_cases htells : p.Tells keys key
      · have hlast : [p].filter (·.Tells keys key) = [p] :=
          List.filter_cons_of_pos (decide_eq_true htells)
        rw [if_pos htells, hlast, List.getLast?_concat]
        rfl
      · have hnone : [p].filter (·.Tells keys key) = [] :=
          List.filter_cons_of_neg (mt of_decide_eq_true htells)
        rw [if_neg htells, hnone, List.append_nil, ih]

end Reaches

/-- Of an answer the last packet that `Hits` a key counts. -/
theorem lookup_heard (hkeys : ∀ key ∈ keys, key ≠ "") (h : ∀ p ∈ packets, p.Expected keys)
    (key : String) :
    (heard keys packets).found.lookup key =
      ((packets.filter (·.Hits keys key)).getLast?).map Packet.held := by
  obtain ⟨c, hc⟩ := reaches_heard keys packets
  have hsame : packets.filter (·.Tells keys key) = packets.filter (·.Hits keys key) := by
    refine List.filter_congr ?_
    intro p hp
    exact decide_eq_decide.mpr ((h p hp).tells_iff_hits hkeys)
  rw [hc.lookup_found, hsame]

/-- **Every item is handed on under its own key with its own token.** Let no key of a batch be
    empty.

    Take packets each of which is a hit of a key of the batch, by name or by place, or an error
    (`Packet.Expected`). `Command.handle` takes them all in; no key is found twice; and what
    `Reply.found` has under a key is what its last hit told (`Packet.held`), its flags, octets and
    token, or nothing if it had no hit. In another order, with the hits of each key still in theirs,
    they come to the same entries. And it makes no difference by which of its names a hit goes,
    whatever comes before and after it.

    Take any packets at all, with the items handed on in between (`Reaches`), also after packets
    that could not be read, and keep `Columns.items` and `Columns.tokens` in tables of their own.
    The two tables have the same keys, and packets are judged as with the one table; what
    `Columns.take` hands on is what that has; and that is, for each key, the item and the token of
    one packet, the last one that told an item under the key. -/
theorem replies_attributed (keys : List String) (hkeys : ∀ key ∈ keys, key ≠ "") :
    (∀ packets, (∀ p ∈ packets, p.Expected keys) →
      (∀ p ∈ packets, ∀ r, ((Command.multiGet keys).handle r p).2 = .ok .more) ∧
      (heard keys packets).found.keys.Nodup ∧
      (∀ key, (heard keys packets).found.lookup key =
        ((packets.filter (·.Hits keys key)).getLast?).map Packet.held) ∧
      ∀ packets', packets'.Perm packets →
        (∀ key, packets'.filter (·.Hits keys key) = packets.filter (·.Hits keys key)) →
        (heard keys packets').found.Perm (heard keys packets).found) ∧
    (∀ front p q back key, p.Hits keys key → q.Hits keys key → q.held = p.held →
      heard keys (front ++ q :: back) = heard keys (front ++ p :: back)) ∧
    ∀ packets r c, Reaches keys packets r c →
      c.items.keys = c.tokens.keys ∧
      (∀ p, (c.hear keys p).2 = ((Command.multiGet keys).handle r p).2) ∧
      c.take.1 = r.found.map (fun e => (e.1, e.2.value, e.2.cas)) ∧
      ∀ key item token, (key, item, token) ∈ c.take.1 ↔
        ((packets.filter (·.Tells keys key)).getLast?).map Packet.held = some ⟨item, token⟩ := by
  refine ⟨?_, ?_, ?_⟩
  · intro packets h
    obtain ⟨c, hc⟩ := reaches_heard keys packets
    refine ⟨?_, hc.nodup_keys, lookup_heard hkeys h, ?_⟩
    · intro p hp r
      rcases h p hp with ⟨key, hhits⟩ | hrefuses
      · rw [Command.handle_of_tells (hhits.tells (hkeys key hhits.mem))]
      · rw [Command.handle_of_refuses hrefuses]
    · intro packets' hperm hfilter
      have h' : ∀ p ∈ packets', p.Expected keys := fun p hp => h p (hperm.mem_iff.mp hp)
      obtain ⟨c', hc'⟩ := reaches_heard keys packets'
      refine Table.perm_of_lookup_eq hc'.nodup_keys hc.nodup_keys ?_
      intro key
      rw [lookup_heard hkeys h, lookup_heard hkeys h', hfilter]
  · intro front p q back key hp hq hheld
    have hkey := hkeys key hp.mem
    rw [heard, heard, List.foldl_append, List.foldl_append, List.foldl_cons, List.foldl_cons,
      Command.handle_of_tells (hp.tells hkey), Command.handle_of_tells (hq.tells hkey),
      hheld]
  · intro packets r c h
    obtain rfl := h.eq_split
    refine ⟨Columns.keys_split _, ?_, ?_, ?_⟩
    · intro p
      rw [Columns.hear_split]
    · rw [Columns.take_split h.nodup_keys]
    · intro key item token
      rw [Columns.take_split h.nodup_keys, ← h.lookup_found, Table.lookup_eq_some_iff h.nodup_keys]
      constructor
      · intro hmem
        obtain ⟨⟨key', held⟩, hheld, heq⟩ := List.mem_map.mp hmem
        obtain ⟨rfl, rfl, rfl⟩ : key' = key ∧ held.value = item ∧ held.cas = token := by
          simpa using heq
        exact hheld
      · intro hmem
        exact List.mem_map.mpr ⟨_, hmem, rfl⟩

/-- Replies to a read of two keys: a hit by name, an error, and a hit of each key by its place. -/
def mixed : List Packet :=
  [{ opcode := Opcode.getKeyQuiet, cas := 5, extras := be 4 1, key := Text.encode "k"
     value := [0x61] },
   { opcode := Opcode.getKeyQuiet, status := 1, tag := 1 },
   { opcode := Opcode.getKey, tag := 1, cas := 6, extras := be 4 7, value := [0x62] },
   { opcode := Opcode.getKeyQuiet, tag := 0, cas := 9, extras := be 4 2, value := [0x63] }]

/-- A hit whose flags, in `extras`, are cut off. -/
def cutOff : Packet :=
  { opcode := Opcode.getKeyQuiet, tag := 1, cas := 8, extras := be 3 7, value := [0x64] }

/-- The later hit of the first key counts, with its own token; and `cutOff`, which cannot be read,
    leaves no token behind. -/
theorem replies_attributed_mixed :
    (∀ key ∈ ["k", "l"], key ≠ "") ∧ (∀ p ∈ mixed, p.Expected ["k", "l"]) ∧
    (heard ["k", "l"] mixed).found.lookup "k" = some ⟨⟨2, [0x63]⟩, 9⟩ ∧
    ((Command.multiGet ["k", "l"]).handle (heard ["k", "l"] mixed) cutOff).2 =
      .error (.shortField 4 3) ∧
    ∃ r c, Reaches ["k", "l"] (mixed ++ [cutOff]) r c ∧ c.items.keys = c.tokens.keys ∧
      ("l", ⟨7, [0x62]⟩, 6) ∈ c.take.1 := by
  have hkeys : ∀ key ∈ ["k", "l"], key ≠ "" := by decide
  have hmixed : ∀ p ∈ mixed, p.Expected ["k", "l"] := by
    have hfirst : (mixed[0]).Hits ["k", "l"] "k" := by decide +kernel
    have hthird : (mixed[2]).Hits ["k", "l"] "l" := by decide +kernel
    have hfourth : (mixed[3]).Hits ["k", "l"] "k" := by decide +kernel
    simp only [mixed, List.forall_mem_cons, List.not_mem_nil, false_implies, implies_true, and_true]
    exact ⟨.inl ⟨_, hfirst⟩, .inr ⟨.inl rfl, by decide⟩, .inl ⟨_, hthird⟩, .inl ⟨_, hfourth⟩⟩
  obtain ⟨hheard, -, hreaches⟩ := replies_attributed ["k", "l"] hkeys
  obtain ⟨-, -, hlookup, -⟩ := hheard mixed hmixed
  obtain ⟨c, hc⟩ := reaches_heard ["k", "l"] mixed
  obtain ⟨hsame, -, -, htaken⟩ := hreaches _ _ _ (hc.packet cutOff)
  refine ⟨hkeys, hmixed, ?_, by decide +kernel, _, _, hc.packet cutOff, hsame, ?_⟩
  · rw [hlookup]
    decide +kernel
  · rw [htaken]
    decide +kernel

end Batch

end Memcache
