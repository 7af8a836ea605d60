import Mathlib
import Memcache.Wire.Decoder

/-!
# `Memcache.Proofs.Wire.Recovery` — the octets that a packet was read from

`Decoder.parse` throws nothing away. Each number of the header goes into the packet with all its
bits. The lengths of `Packet.extras` and `Packet.key` do not: they are the lengths of the sections,
which are as long as the header says, since the body that `Decoder.assemble` cuts them from was
found to be long enough. So `Packet.encode` writes a packet as the octets that it was read from, and
two streams that begin with the same packet begin with the same octets.

This is the converse of reading back what was written. It needs no bound on the sections, because
the lengths of a packet that was read fit into their fields.

## Contents

* `be_beValue`, `Decoder.be_field` — a field is written as it was read;
* `Decoder.Holds`, `Decoder.holds_of_parse` — **what is known of octets in which a packet was
  found**;
* `Decoder.Holds.header_eq`, `Decoder.Holds.body_eq` — the two parts of the packet;
* `Decoder.parse_recovers` — **a packet is written as the octets that it was read from**.
-/

namespace Memcache

/-! ## Numbers -/

theorem beValue_append_singleton (bs : Bytes) (b : UInt8) :
    beValue (bs ++ [b]) = beValue bs * 256 + b.toNat := by
  simp [beValue]

/-- A number that `beValue` reads has no more bits than its octets. -/
theorem beValue_lt (bs : Bytes) : beValue bs < 256 ^ bs.length := by
  induction bs using List.reverseRecOn with
  | nil => simp [beValue]
  | append_singleton bs b ih =>
      have hoctet := b.toNat_lt
      rw [beValue_append_singleton, List.length_append, List.length_singleton, Nat.pow_succ]
      omega

theorem be_succ (w n : Nat) : be (w + 1) n = be w (n / 256) ++ [UInt8.ofNat n] := by
  induction w with
  | zero => simp [be]
  | succ w ih =>
      have hshift : n >>> (8 * (w + 1)) = (n / 256) >>> (8 * w) := by
        rw [Nat.mul_succ, Nat.add_comm, Nat.shiftRight_add, Nat.shiftRight_eq_div_pow n 8]
      rw [be, ih, hshift]
      rfl

/-- **By `be` octets are written as `beValue` read them.** -/
theorem be_beValue (bs : Bytes) : be bs.length (beValue bs) = bs := by
  induction bs using List.reverseRecOn with
  | nil => rfl
  | append_singleton bs b ih =>
      have hoctet := b.toNat_lt
      have hfront : (beValue bs * 256 + b.toNat) / 256 = beValue bs := by omega
      have hlast : UInt8.ofNat (beValue bs * 256 + b.toNat) = b := by
        apply UInt8.toNat_inj.mp
        rw [UInt8.toNat_ofNat']
        omega
      rw [beValue_append_singleton, List.length_append, List.length_singleton, be_succ, hfront,
        hlast, ih]

namespace Decoder

/-! ## Fields -/

variable {buf : Bytes} {start width : Nat}

theorem length_section (h : start + width ≤ buf.length) :
    ((buf.drop start).take width).length = width := by
  rw [List.length_take, List.length_drop]
  omega

/-- **A `field` is written as it was read.** -/
theorem be_field (h : start + width ≤ buf.length) :
    be width (field buf start width) = (buf.drop start).take width := by
  have hwritten := be_beValue ((buf.drop start).take width)
  rwa [length_section h] at hwritten

theorem field_lt (h : start + width ≤ buf.length) : field buf start width < 256 ^ width := by
  have hbound := beValue_lt ((buf.drop start).take width)
  rwa [length_section h] at hbound

/-! ## What was found -/

/-- **What is known of octets in which a packet was found**: that the lengths in the header agree
    with each other and with the octets, and that `assemble` put the packet together from the
    fields. -/
structure Holds (d : Decoder) (buf : Bytes) (p : Packet) (n : Nat) : Prop where
  header : Packet.headerLength ≤ buf.length
  size : field buf 8 4 ≤ d.maxBody
  sections : field buf 4 1 + field buf 2 2 ≤ field buf 8 4
  length : n = Packet.headerLength + field buf 8 4
  whole : n ≤ buf.length
  packet : p = assemble buf (field buf 4 1) (field buf 2 2) (field buf 8 4)

theorem holds_of_parse {d : Decoder} {p : Packet} {n : Nat}
    (h : d.parse buf = .ok (some (p, n))) : d.Holds buf p n := by
  obtain ⟨hheader, hwhole⟩ := parse_bounds h
  unfold parse at h
  split at h
  · cases h
  · split at h
    · cases h
    · split at h
      · cases h
      · dsimp only at h
        split at h
        · cases h
        · split at h
          · cases h
          · split at h
            · cases h
            · next hsize hsections _ =>
                obtain ⟨rfl, rfl⟩ : _ ∧ _ := by simpa using h
                exact ⟨hheader.trans hwhole, Nat.le_of_not_lt hsize, Nat.le_of_not_lt hsections, rfl,
                  hwhole, rfl⟩

namespace Holds

variable {d : Decoder} {p : Packet} {n : Nat}

/-- The `body` of the packet is what stands behind the header. -/
theorem body_eq (h : d.Holds buf p n) :
    p.body = (buf.drop Packet.headerLength).take (field buf 8 4) := by
  rw [h.packet]
  simp only [assemble, Packet.body, List.append_assoc, List.take_append_drop]

/-- The sections are as long as the header says. -/
theorem lengths (h : d.Holds buf p n) :
    p.extras.length = field buf 4 1 ∧ p.key.length = field buf 2 2 ∧
      p.bodyLength = field buf 8 4 := by
  have hbody : ((buf.drop Packet.headerLength).take (field buf 8 4)).length = field buf 8 4 :=
    length_section (h.length ▸ h.whole)
  have hsections := h.sections
  refine ⟨?_, ?_, ?_⟩
  · rw [h.packet]
    simp only [assemble, List.length_take (i := field buf 4 1), hbody]
    omega
  · rw [h.packet]
    simp only [assemble, List.length_take (i := field buf 2 2), List.length_drop (i := field buf 4 1),
      hbody]
    omega
  · rw [← Packet.length_body, h.body_eq, hbody]

/-- The `header` of the packet is what stands in front. -/
theorem header_eq (h : d.Holds buf p n) : p.header = buf.take Packet.headerLength := by
  have hlength : 24 ≤ buf.length := h.header
  obtain ⟨hextras, hkey, hsize⟩ := h.lengths
  have hstatus : p.status.toNat = field buf 6 2 := by
    rw [h.packet]
    exact UInt16.toNat_ofNat_of_lt' (field_lt (by omega))
  have htag : p.tag.toNat = field buf 12 4 := by
    rw [h.packet]
    exact UInt32.toNat_ofNat_of_lt' (field_lt (by omega))
  have hcas : p.cas.toNat = field buf 16 8 := by
    rw [h.packet]
    exact UInt64.toNat_ofNat_of_lt' (field_lt (by omega))
  -- the fields of one octet are written as they stand in the packet
  have hmagic : [p.magic, p.opcode] = be 1 (field buf 0 1) ++ be 1 (field buf 1 1) := by
    rw [h.packet]
    rfl
  have hdataType : [p.dataType] = be 1 (field buf 5 1) := by
    rw [h.packet]
    rfl
  unfold Packet.header
  rw [hextras, hkey, hsize, hstatus, htag, hcas, hmagic, hdataType, be_field (by omega),
    be_field (by omega), be_field (by omega), be_field (by omega), be_field (by omega),
    be_field (by omega), be_field (by omega), be_field (by omega), be_field (by omega),
    List.drop_zero]
  -- each field begins where the one before it ends
  simp only [← List.take_add, Packet.headerLength]

/-- **The packet is written by `encode` as the octets that it was read from.** -/
theorem encode_eq (h : d.Holds buf p n) : p.encode = buf.take n := by
  rw [Packet.encode, h.header_eq, h.body_eq, ← List.take_add, ← h.length]

/-- The packet has as many octets as were taken. -/
theorem length_eq (h : d.Holds buf p n) : n = p.encode.length := by
  obtain ⟨-, -, hsize⟩ := h.lengths
  rw [Packet.length_encode, hsize, h.length]

end Holds

/-! ## The octets of a packet -/

/-- **A packet is written as the octets that it was read from**, whatever decoder `parse` is of and
    whatever stands behind them: `encode` gives the first `n` octets back. These are at least a
    header, at most a header with `maxBody` octets, and no more than there are. So whenever the same
    packet is found in two streams, by the same decoder or by two of them, as many octets are taken
    from both, and they are the same. -/
theorem parse_recovers (d : Decoder) (buf : Bytes) (p : Packet) (n : Nat)
    (hparse : d.parse buf = .ok (some (p, n))) :
    Packet.headerLength ≤ n ∧ n ≤ Packet.headerLength + d.maxBody ∧ n ≤ buf.length ∧
      p.encode = buf.take n ∧
      ∀ (d' : Decoder) (buf' : Bytes) (n' : Nat), d'.parse buf' = .ok (some (p, n')) →
        n' = n ∧ buf'.take n' = buf.take n := by
  have hholds := holds_of_parse hparse
  have hmax : n ≤ Packet.headerLength + d.maxBody := by
    rw [hholds.length]
    exact Nat.add_le_add_left hholds.size _
  refine ⟨(parse_bounds hparse).1, hmax, hholds.whole, hholds.encode_eq, ?_⟩
  intro d' buf' n' hparse'
  have hholds' := holds_of_parse hparse'
  constructor
  · rw [hholds'.length_eq, hholds.length_eq]
  · rw [← hholds'.encode_eq, hholds.encode_eq]

/-- A server's answer that has all three sections, and numbers that fill their fields. -/
def fullAnswer : Packet :=
  { magic := Magic.response, opcode := Opcode.getKeyQuiet, status := 0xffff, tag := 0x81828384
    cas := 0xfffffffffffffffe, extras := be 4 7, key := [0x6b, 0x6c], value := [0x76, 0, 0x77] }

/-- The packet `fullAnswer` is found in front of another packet and in front of a stray octet, and
    takes the same octets from both streams. -/
theorem parse_recovers_fullAnswer :
    responses.parse (fullAnswer.encode ++ fullAnswer.encode) = .ok (some (fullAnswer, 33)) ∧
      Decoder.parse {} (fullAnswer.encode ++ [0x2b]) = .ok (some (fullAnswer, 33)) ∧
      fullAnswer.encode = (fullAnswer.encode ++ fullAnswer.encode).take 33 ∧
      (fullAnswer.encode ++ [0x2b]).take 33 =
        (fullAnswer.encode ++ fullAnswer.encode).take 33 := by
  have hparse : responses.parse (fullAnswer.encode ++ fullAnswer.encode) =
      .ok (some (fullAnswer, 33)) := by decide
  have hparse' : Decoder.parse {} (fullAnswer.encode ++ [0x2b]) =
      .ok (some (fullAnswer, 33)) := by decide
  obtain ⟨-, -, -, hencode, hsame⟩ := parse_recovers responses _ _ _ hparse
  exact ⟨hparse, hparse', hencode, (hsame {} _ _ hparse').2⟩

end Decoder

end Memcache
