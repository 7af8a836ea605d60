import Mathlib
import Memcache.Proofs.Connection.Isolation
import Memcache.Proofs.Wire.Chunking
import Memcache.Proofs.Wire.RoundTrip

/-!
# `Memcache.Proofs.Wire.Requests` — what a server reads of a request

`Command.encode` sends a command as a string of octets, and the server cuts packets out of it with
`Decoder.requests`. Here the packets are described a second time, the way the protocol describes
them, as `Instruction`: an operation number, the numbers in the extras with their widths, a key, a
value and a version token. The description knows nothing of how octets are written; it is compared
with what `Decoder.drain` finds.

## Contents

* `Instruction`, `Command.instructions` — what a command asks for, packet by packet;
* `Spells`, `Packet.Carries` — a section holds these numbers, a packet says what is asked for;
* `Command.carries_packets` — the packets of a command say what it asks for, each in its place;
* `Command.encode_inj` — a request tells its first tag;
* `Decoder.drain_flatMap_encode` — packets that are sent together are found one after the other;
* `Command.encoding_exact` — **the server reads exactly the command, whatever its tags are**.
-/

namespace Memcache

/-! ## What is asked for -/

/-- What one packet of a request asks for. -/
structure Instruction where
  opcode : UInt8
  /-- The numbers in the extras, each behind its width in octets. -/
  fields : List (Nat × Nat) := []
  key : Bytes := []
  value : Bytes := []
  /-- The version that the item must have; 0 asks for none. -/
  cas : UInt64 := 0

/-- The length of the body of a packet that asks for this: of the widths of its `fields`, the key
    and the value. -/
def Instruction.bodyLength (i : Instruction) : Nat :=
  (i.fields.map Prod.fst).sum + i.key.length + i.value.length

/-- **What a command asks for, packet by packet.** A `multiGet` asks quietly for each key in its
    place, and closes with a no-op. A flush without a delay has no extras. -/
def Command.instructions : Command → List Instruction
  | .get key => [{ opcode := 0x00, key := Text.encode key }]
  | .multiGet keys =>
    keys.map (fun key => { opcode := 0x0d, key := Text.encode key }) ++ [{ opcode := 0x0a }]
  | .store mode key item expires cas =>
    [{ opcode := match mode with
        | .set => 0x01
        | .add => 0x02
        | .replace => 0x03
       fields := [(4, item.flags.toNat), (4, expires.toNat)]
       key := Text.encode key
       value := item.data
       cas := cas }]
  | .delete key cas => [{ opcode := 0x04, key := Text.encode key, cas := cas }]
  | .mutate mode key initial delta expires cas =>
    [{ opcode := match mode with
        | .increment => 0x05
        | .decrement => 0x06
       fields := [(8, delta.toNat), (8, initial.toNat), (4, expires.toNat)]
       key := Text.encode key
       cas := cas }]
  | .flush delay =>
    [{ opcode := 0x08, fields := if delay = 0 then [] else [(4, delay.toNat)] }]
  | .noop => [{ opcode := 0x0a }]
  | .concat mode key data cas =>
    [{ opcode := match mode with
        | .append => 0x0e
        | .prepend => 0x0f
       key := Text.encode key
       value := data
       cas := cas }]
  | .stats filter => [{ opcode := 0x10, key := Text.encode (filter.getD "") }]

/-- The octets are these numbers, each in its width, most significant octet first. -/
def Spells : Bytes → List (Nat × Nat) → Prop
  | bs, [] => bs = []
  | bs, (width, n) :: fields =>
    width ≤ bs.length ∧ beValue (bs.take width) = n ∧ Spells (bs.drop width) fields

/-- The packet is a request that asks for the instruction `i` under `tag`, and for nothing else. -/
structure Packet.Carries (p : Packet) (i : Instruction) (tag : UInt32) : Prop where
  magic : p.magic = 0x80
  opcode : p.opcode = i.opcode
  dataType : p.dataType = 0
  status : p.status = 0
  tag : p.tag = tag
  key : p.key = i.key
  value : p.value = i.value
  cas : p.cas = i.cas
  extras : Spells p.extras i.fields

/-! ## Sections -/

/-- Octets that `Spells` numbers are as many as the widths say. -/
theorem Spells.length_eq {bs : Bytes} {fields : List (Nat × Nat)} (h : Spells bs fields) :
    bs.length = (fields.map Prod.fst).sum := by
  induction fields generalizing bs with
  | nil =>
      rw [Spells] at h
      simp [h]
  | cons field fields ih =>
      obtain ⟨hwidth, -, hlater⟩ := h
      have hrest := ih hlater
      rw [List.length_drop] at hrest
      rw [List.map_cons, List.sum_cons]
      omega

/-- A number that fits into its width, written by `be`, stands in front of others. -/
theorem Spells.be_append {width n : Nat} {bs : Bytes} {fields : List (Nat × Nat)}
    (hn : n < 2 ^ (8 * width)) (h : Spells bs fields) :
    Spells (be width n ++ bs) ((width, n) :: fields) := by
  have hlength := length_be width n
  have hvalue : beValue (be width n) = n := by
    rw [beValue_be, Nat.shiftLeft_eq, Nat.one_mul, Nat.mod_eq_of_lt hn]
  refine ⟨?_, ?_, ?_⟩
  · rw [List.length_append, hlength]
    exact Nat.le_add_right ..
  · rw [List.take_left' hlength, hvalue]
  · rwa [List.drop_left' hlength]

/-- A number that fits into its width, written by `be`, stands alone. -/
theorem Spells.be_of_lt {width n : Nat} (hn : n < 2 ^ (8 * width)) :
    Spells (be width n) [(width, n)] := by
  have halone := Spells.be_append hn (show Spells [] [] from rfl)
  rwa [List.append_nil] at halone

theorem spells_storeExtras (flags expires : UInt32) :
    Spells (storeExtras flags expires) [(4, flags.toNat), (4, expires.toNat)] :=
  .be_append flags.toNat_lt (.be_of_lt expires.toNat_lt)

theorem spells_mutateExtras (delta initial : UInt64) (expires : UInt32) :
    Spells (mutateExtras delta initial expires)
      [(8, delta.toNat), (8, initial.toNat), (4, expires.toNat)] := by
  rw [mutateExtras, List.append_assoc]
  exact .be_append delta.toNat_lt (.be_append initial.toNat_lt (.be_of_lt expires.toNat_lt))

/-- Only a delay that is not 0 is written in the extras of a flush. -/
theorem spells_flushExtras (delay : UInt32) :
    Spells (if 0 < delay then flushExtras delay else [])
      (if delay = 0 then [] else [(4, delay.toNat)]) := by
  by_cases hzero : delay = 0
  · subst hzero
    rfl
  · have hpos : 0 < delay := UInt32.pos_iff_ne_zero.2 hzero
    rw [if_pos hpos, if_neg hzero]
    exact .be_of_lt delay.toNat_lt

theorem Packet.Carries.bodyLength_eq {p : Packet} {i : Instruction} {tag : UInt32}
    (h : p.Carries i tag) : p.bodyLength = i.bodyLength := by
  rw [Packet.bodyLength, Instruction.bodyLength, h.extras.length_eq, h.key, h.value]

namespace Command

/-! ## Packets -/

/-- The packets of `quietReads` ask for the keys in their order. -/
theorem carries_quietReads {keys : List String} {tag : UInt32} {k : Nat} {key : String}
    (h : keys[k]? = some key) :
    ∃ p, (quietReads keys tag)[k]? = some p ∧
      p.Carries { opcode := 0x0d, key := Text.encode key } (tag + UInt32.ofNat k) := by
  induction keys generalizing tag k with
  | nil => simp at h
  | cons first keys ih =>
      cases k with
      | zero =>
          obtain rfl : first = key := by simpa using h
          exact ⟨_, rfl, rfl, rfl, rfl, rfl, (UInt32.add_zero tag).symm, rfl, rfl, rfl, rfl⟩
      | succ k =>
          obtain ⟨p, hp, hcarries⟩ := @ih (tag + 1) k (by simpa using h)
          have htag : tag + 1 + UInt32.ofNat k = tag + UInt32.ofNat (k + 1) := by
            rw [UInt32.ofNat_add, UInt32.add_comm (UInt32.ofNat k), UInt32.add_assoc]
            rfl
          exact ⟨p, hp, htag ▸ hcarries⟩

/-- A packet alone, under the first tag. -/
theorem carries_singleton {p : Packet} {i j : Instruction} {tag : UInt32} {k : Nat}
    (h : [i][k]? = some j) (hp : p.Carries i tag) :
    ∃ q, [p][k]? = some q ∧ q.Carries j (tag + UInt32.ofNat k) := by
  obtain ⟨rfl, rfl⟩ : k = 0 ∧ i = j := by
    cases k <;> simp_all
  exact ⟨p, rfl, (UInt32.add_zero tag).symm ▸ hp⟩

/-- **The packets of a command say what its `instructions` ask for, each in its place and under its
    own tag.** -/
theorem carries_packets {c : Command} {tag : UInt32} {k : Nat} {i : Instruction}
    (h : c.instructions[k]? = some i) :
    ∃ p, (c.packets tag)[k]? = some p ∧ p.Carries i (tag + UInt32.ofNat k) := by
  cases c with
  | multiGet keys =>
      rw [instructions] at h
      rw [packets]
      rcases Nat.lt_or_ge k keys.length with hlt | hge
      · rw [List.getElem?_append_left (by simpa using hlt), List.getElem?_map] at h
        obtain ⟨key, hkey, rfl⟩ := Option.map_eq_some_iff.1 h
        rw [List.getElem?_append_left (by simpa [length_quietReads] using hlt)]
        exact carries_quietReads hkey
      · -- nothing but the no-op stands behind the quiet reads
        rw [List.getElem?_append_right (by simpa using hge), List.length_map] at h
        rw [List.getElem?_append_right (by simpa [length_quietReads] using hge),
          length_quietReads]
        have hzero : k - keys.length = 0 := by
          have hlast := (List.getElem?_eq_some_iff.1 h).1
          rw [List.length_singleton] at hlast
          omega
        obtain rfl : k = keys.length := by omega
        rw [Nat.sub_self] at h ⊢
        obtain rfl := Option.some.inj h
        exact ⟨_, rfl, rfl, rfl, rfl, rfl, rfl, rfl, rfl, rfl, rfl⟩
  | get key => exact carries_singleton h ⟨rfl, rfl, rfl, rfl, rfl, rfl, rfl, rfl, rfl⟩
  | store mode key item expires cas =>
      refine carries_singleton h ⟨rfl, ?_, rfl, rfl, rfl, rfl, rfl, rfl, ?_⟩
      · cases mode <;> rfl
      · exact spells_storeExtras item.flags expires
  | mutate mode key initial delta expires cas =>
      refine carries_singleton h ⟨rfl, ?_, rfl, rfl, rfl, rfl, rfl, rfl, ?_⟩
      · cases mode <;> rfl
      · exact spells_mutateExtras delta initial expires
  | concat mode key data cas =>
      refine carries_singleton h ⟨rfl, ?_, rfl, rfl, rfl, rfl, rfl, rfl, rfl⟩
      cases mode <;> rfl
  | delete key cas => exact carries_singleton h ⟨rfl, rfl, rfl, rfl, rfl, rfl, rfl, rfl, rfl⟩
  | flush delay =>
      exact carries_singleton h
        ⟨rfl, rfl, rfl, rfl, rfl, rfl, rfl, rfl, spells_flushExtras delay⟩
  | noop => exact carries_singleton h ⟨rfl, rfl, rfl, rfl, rfl, rfl, rfl, rfl, rfl⟩
  | stats filter =>
      refine carries_singleton h ⟨rfl, rfl, rfl, rfl, rfl, ?_, rfl, rfl, rfl⟩
      cases filter <;> rfl

/-- There are as many `instructions` as tags by `tagCount`. -/
theorem length_instructions (c : Command) : c.instructions.length = c.tagCount := by
  cases c <;> simp [instructions, tagCount, packets, length_quietReads]

/-- Every packet of a command `Carries` one of its `instructions`. -/
theorem exists_instruction {c : Command} {tag : UInt32} {p : Packet} (hp : p ∈ c.packets tag) :
    ∃ i ∈ c.instructions, p.Carries i p.tag := by
  obtain ⟨k, hk⟩ := List.mem_iff_getElem?.1 hp
  have hlt : k < c.instructions.length := by
    rw [length_instructions, ← length_packets_eq tag]
    exact (List.getElem?_eq_some_iff.1 hk).1
  obtain ⟨q, hq, hcarries⟩ : ∃ q, (c.packets tag)[k]? = some q ∧ q.Carries _ _ :=
    carries_packets (List.getElem?_eq_getElem hlt)
  obtain rfl : p = q := Option.some.inj (hk.symm.trans hq)
  exact ⟨_, List.getElem_mem hlt, hcarries.tag ▸ hcarries⟩

/-- The longest extras are those of a counter change. -/
theorem sum_fields_le {c : Command} {i : Instruction} (h : i ∈ c.instructions) :
    (i.fields.map Prod.fst).sum ≤ 20 := by
  cases c with
  | multiGet keys =>
      rcases List.mem_append.1 h with hread | hnoop
      · obtain ⟨key, -, rfl⟩ := List.mem_map.1 hread
        simp
      · rw [List.mem_singleton.1 hnoop]
        simp
  | flush delay =>
      rw [List.mem_singleton.1 h]
      dsimp only
      split <;> simp
  | _ =>
      rw [List.mem_singleton.1 h]
      simp

/-! ## The first tag -/

/-- The first packet of `encode` has the first of the tags. -/
theorem exists_first_packet (c : Command) (tag : UInt32) :
    ∃ (p : Packet) (rest : Bytes), c.encode tag = p.encode ++ rest ∧ p.tag = tag := by
  have hfirst : ∃ (p : Packet) (ps : List Packet), c.packets tag = p :: ps ∧ p.tag = tag := by
    cases c with
    | multiGet keys =>
        cases keys with
        | nil => exact ⟨_, [], rfl, UInt32.add_zero tag⟩
        | cons key keys => exact ⟨_, _, rfl, rfl⟩
    | _ => exact ⟨_, [], rfl, rfl⟩
  obtain ⟨p, ps, hpackets, htag⟩ := hfirst
  refine ⟨p, ps.flatMap Packet.encode, ?_, htag⟩
  rw [encode, hpackets, List.flatMap_cons]

/-- **A request tells its first tag**, since `encode` with different ones differs. -/
theorem encode_inj {c : Command} {base base' : UInt32} (h : c.encode base = c.encode base') :
    base = base' := by
  have hread : ∀ tag, Decoder.field (c.encode tag) 12 4 = tag.toNat := by
    intro tag
    obtain ⟨p, rest, hencode, htag⟩ := exists_first_packet c tag
    obtain ⟨-, -, -, -, -, -, -, hfield, -⟩ := Decoder.fields_encode p rest
    rw [hencode, hfield, htag]
  rw [← UInt32.toNat_inj, ← hread base, h, hread base']

theorem base_eq_of_sent {c : Command} {base base' : UInt32} {link link' : Nat}
    (h : [(link, c.encode base)] = [(link', c.encode base')]) : base = base' :=
  encode_inj (Prod.mk.inj (List.cons.inj h).1).2

end Command

/-! ## Octets -/

/-- **Packets that are sent together are found by `drain` one after the other**, and nothing is left
    over. -/
theorem Decoder.drain_flatMap_encode {d : Decoder} {ps : List Packet}
    (h : ∀ p ∈ ps, d.accepts p.magic = true ∧ p.bodyLength ≤ d.maxBody ∧ p.bodyLength < 2 ^ 32 ∧
      p.key.length < 2 ^ 16 ∧ p.extras.length < 2 ^ 8) :
    d.drain (ps.flatMap Packet.encode) = ⟨ps, [], none⟩ := by
  induction ps with
  | nil => exact drain_of_none rfl
  | cons p ps ih =>
      obtain ⟨⟨hmagic, hmax, hsize, hkey, hextras⟩, hlater⟩ := List.forall_mem_cons.1 h
      have hparse := parse_encode_of_lt (ps.flatMap Packet.encode) hmagic hmax hsize hkey hextras
      rw [List.flatMap_cons, drain_of_packet hparse, List.drop_left, ih hlater]

namespace Command

/-- **The server reads exactly the command.** A command whose keys have at most 65535 octets, with
    bodies that a 32-bit length can tell, is read by `Decoder.requests` with a `maxBody` of that
    length as one packet for each of its `instructions`, with nothing left over. The packets are as
    many as the tags that the command uses by `tagCount`, and each `Carries`, under the next tag
    modulo `2 ^ 32`, what is asked for in its place and nothing else. -/
theorem encoding_exact (c : Command) (tag : UInt32) (max : Nat)
    (hkeys : ∀ i ∈ c.instructions, i.key.length ≤ 65535)
    (hsize : ∀ i ∈ c.instructions, i.bodyLength < 2 ^ 32)
    (hmax : ∀ i ∈ c.instructions, i.bodyLength ≤ max) :
    ∃ ps : List Packet,
      { Decoder.requests with maxBody := max }.drain (c.encode tag) = ⟨ps, [], none⟩ ∧
      ps.length = c.instructions.length ∧
      UInt32.ofNat ps.length = c.span ∧ (ps.length < 2 ^ 32 → ps.length = c.span.toNat) ∧
      ∀ (k : Nat) (i : Instruction), c.instructions[k]? = some i →
        ∃ p, ps[k]? = some p ∧ p.Carries i (tag + UInt32.ofNat k) := by
  refine ⟨c.packets tag, ?_, ?_, length_packets tag c, ?_, fun k i hi => carries_packets hi⟩
  · -- a packet has the lengths of what it asks for, so the limits hold of it
    refine Decoder.drain_flatMap_encode fun p hp => ?_
    obtain ⟨i, hi, hcarries⟩ := exists_instruction hp
    have hlength := hcarries.bodyLength_eq
    refine ⟨?_, ?_, ?_, ?_, ?_⟩
    · rw [hcarries.magic]
      rfl
    · exact hlength.trans_le (hmax i hi)
    · exact hlength.trans_lt (hsize i hi)
    · rw [hcarries.key]
      exact Nat.lt_succ_of_le (hkeys i hi)
    · rw [hcarries.extras.length_eq]
      exact (sum_fields_le hi).trans_lt (by decide)
  · rw [length_packets_eq, length_instructions]
  · intro hlt
    rw [length_packets_eq] at hlt ⊢
    exact (toNat_span hlt).symm

/-- A batch of two keys under the last tag there is: the tags come round to 0, and then to 1. -/
theorem encoding_exact_batch :
    (∀ i ∈ (Command.multiGet ["k", "é"]).instructions,
        i.key.length ≤ 65535 ∧ i.bodyLength < 2 ^ 32 ∧ i.bodyLength ≤ 16) ∧
      ∃ reads noop : Packet,
        ({ Decoder.requests with maxBody := 16 }.drain
          ((Command.multiGet ["k", "é"]).encode 0xffffffff)).packets[1]? = some reads ∧
        ({ Decoder.requests with maxBody := 16 }.drain
          ((Command.multiGet ["k", "é"]).encode 0xffffffff)).packets[2]? = some noop ∧
        reads.Carries { opcode := 0x0d, key := [0xc3, 0xa9] } 0 ∧
        noop.Carries { opcode := 0x0a } 1 := by
  have hlimits : ∀ i ∈ (Command.multiGet ["k", "é"]).instructions,
      i.key.length ≤ 65535 ∧ i.bodyLength < 2 ^ 32 ∧ i.bodyLength ≤ 16 := by decide
  obtain ⟨ps, hdrain, -, -, -, hps⟩ := encoding_exact (.multiGet ["k", "é"]) 0xffffffff 16
    (fun i hi => (hlimits i hi).1) (fun i hi => (hlimits i hi).2.1)
    (fun i hi => (hlimits i hi).2.2)
  obtain ⟨reads, hreads, hread⟩ := hps 1 { opcode := 0x0d, key := [0xc3, 0xa9] } rfl
  obtain ⟨noop, hnoop, hclose⟩ := hps 2 { opcode := 0x0a } rfl
  rw [hdrain]
  exact ⟨hlimits, reads, noop, hreads, hnoop, hread, hclose⟩

end Command

end Memcache
