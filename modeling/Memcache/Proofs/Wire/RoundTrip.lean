import Mathlib
import Memcache.Key
import Memcache.Wire.Decoder

/-!
# `Memcache.Proofs.Wire.RoundTrip` — a packet read back from its octets

The header tells the length of the body in 32 bits, but those of `Packet.key` and `Packet.extras` in
16 and 8 bits only. `Packet.encode` writes a packet with a section that is longer than its field can
tell all the same, and what is read back then is another packet, `Packet.recut`: the header fields
and the body are the same, but the body is cut into sections elsewhere. Since the length of the body
is right, whatever follows the packet is found in its place.

## Contents

* `Packet.recut` — the packet that is read back; `Packet.recut_eq_self_iff` — **it is the one that
  was written just if no section is too long**;
* `Key.length_le_of_validate`, `read32_be` — what the sections of a packet hold;
* `Decoder.fields_encode` — what each field of the header reads as;
* `Decoder.parse_encode_append` — what a decoder makes of a packet with anything behind it;
* `Decoder.encoding_read_back` — **no packet desynchronises the stream**.
-/

namespace Memcache

namespace Packet

/-! ## The packet that is read back -/

/-- The packet with its `body` cut into sections at the lengths that its header can tell. -/
def recut (p : Packet) : Packet :=
  { p with
    extras := p.body.take (p.extras.length % 2 ^ 8)
    key := (p.body.drop (p.extras.length % 2 ^ 8)).take (p.key.length % 2 ^ 16)
    value := (p.body.drop (p.extras.length % 2 ^ 8)).drop (p.key.length % 2 ^ 16) }

/-- Cutting elsewhere, as `recut` does, loses nothing of the `body`. -/
@[simp] theorem body_recut (p : Packet) : p.recut.body = p.body := by
  simp only [recut, body, List.append_assoc, List.take_append_drop]

theorem length_extras_recut (p : Packet) :
    p.recut.extras.length = p.extras.length % 2 ^ 8 := by
  have hle := Nat.mod_le p.extras.length (2 ^ 8)
  show (p.body.take _).length = _
  rw [List.length_take, length_body, bodyLength]
  omega

theorem length_key_recut (p : Packet) : p.recut.key.length = p.key.length % 2 ^ 16 := by
  have hextras := Nat.mod_le p.extras.length (2 ^ 8)
  have hkey := Nat.mod_le p.key.length (2 ^ 16)
  show ((p.body.drop _).take _).length = _
  rw [List.length_take, List.length_drop, length_body, bodyLength]
  omega

/-- Sections whose lengths the header can tell are cut where they were joined. -/
theorem recut_of_lt {p : Packet} (hkey : p.key.length < 2 ^ 16)
    (hextras : p.extras.length < 2 ^ 8) : p.recut = p := by
  have hdrop : p.body.drop p.extras.length = p.key ++ p.value := by
    rw [body, List.append_assoc, List.drop_left]
  have htake : p.body.take p.extras.length = p.extras := by
    rw [body, List.append_assoc, List.take_left]
  unfold recut
  rw [Nat.mod_eq_of_lt hkey, Nat.mod_eq_of_lt hextras, hdrop, htake, List.take_left,
    List.drop_left]

/-- **The packet is read back as it was written just if no section is too long**, that is if `recut`
    leaves it as it is. -/
theorem recut_eq_self_iff (p : Packet) :
    p.recut = p ↔ p.key.length < 2 ^ 16 ∧ p.extras.length < 2 ^ 8 := by
  constructor
  · intro heq
    have hkey := length_key_recut p
    have hextras := length_extras_recut p
    rw [heq] at hkey hextras
    omega
  · rintro ⟨hkey, hextras⟩
    exact recut_of_lt hkey hextras

end Packet

/-! ## What sections hold -/

theorem Text.length_encode (s : String) : (Text.encode s).length = s.utf8ByteSize := rfl

/-- A key that `Key.validate` accepts has at most `Key.maxLength` octets. -/
theorem Key.length_le_of_validate {key : String} (h : Key.validate key = .ok ()) :
    (Text.encode key).length ≤ Key.maxLength := by
  rw [Text.length_encode]
  unfold Key.validate at h
  split at h
  · contradiction
  · split at h
    · contradiction
    · next hsize => exact Nat.le_of_not_lt hsize

/-- A key that `Key.validate` accepts has an octet. -/
theorem Key.encode_ne_nil_of_validate {key : String} (h : Key.validate key = .ok ()) :
    Text.encode key ≠ [] := by
  intro hnil
  have hempty : key.isEmpty = true := by
    rw [String.isEmpty_iff_utf8ByteSize_eq_zero, ← Text.length_encode, hnil]
    rfl
  rw [Key.validate, if_pos hempty] at h
  cases h

/-- A 32-bit number that `be` wrote is read back by `read32`, whatever stands behind it. -/
theorem read32_be (n : UInt32) (rest : Bytes) : read32 (be 4 n.toNat ++ rest) = .ok n := by
  have hlength : ¬ (be 4 n.toNat ++ rest).length < 4 := by
    rw [List.length_append, length_be]
    omega
  have hvalue : beValue (be 4 n.toNat) = n.toNat :=
    (beValue_be 4 n.toNat).trans (Nat.mod_eq_of_lt n.toNat_lt)
  rw [read32, if_neg hlength, List.take_left' (length_be 4 n.toNat), hvalue, UInt32.ofNat_toNat]

theorem read32_of_be (n : UInt32) : read32 (be 4 n.toNat) = .ok n := by
  have hread := read32_be n []
  rwa [List.append_nil] at hread

/-- So is a 64-bit number, by `read64`. -/
theorem read64_be (n : UInt64) (rest : Bytes) : read64 (be 8 n.toNat ++ rest) = .ok n := by
  have hlength : ¬ (be 8 n.toNat ++ rest).length < 8 := by
    rw [List.length_append, length_be]
    omega
  have hvalue : beValue (be 8 n.toNat) = n.toNat :=
    (beValue_be 8 n.toNat).trans (Nat.mod_eq_of_lt n.toNat_lt)
  rw [read64, if_neg hlength, List.take_left' (length_be 8 n.toNat), hvalue, UInt64.ofNat_toNat]

theorem read64_of_be (n : UInt64) : read64 (be 8 n.toNat) = .ok n := by
  have hread := read64_be n []
  rwa [List.append_nil] at hread

namespace Decoder

/-! ## Reading -/

/-- **What each `field` of the header reads as.** Of the lengths there is what their fields hold. -/
theorem fields_encode (p : Packet) (rest : Bytes) :
    field (p.encode ++ rest) 0 1 = p.magic.toNat ∧
      field (p.encode ++ rest) 1 1 = p.opcode.toNat ∧
      field (p.encode ++ rest) 2 2 = p.key.length % 2 ^ 16 ∧
      field (p.encode ++ rest) 4 1 = p.extras.length % 2 ^ 8 ∧
      field (p.encode ++ rest) 5 1 = p.dataType.toNat ∧
      field (p.encode ++ rest) 6 2 = p.status.toNat ∧
      field (p.encode ++ rest) 8 4 = p.bodyLength % 2 ^ 32 ∧
      field (p.encode ++ rest) 12 4 = p.tag.toNat ∧
      field (p.encode ++ rest) 16 8 = p.cas.toNat := by
  have hoctet : ∀ b : UInt8, beValue [b] = b.toNat := by
    intro b
    simp [beValue]
  -- the header has 24 octets whatever its numbers are, so each field is found by computation
  refine ⟨hoctet _, hoctet _, beValue_be 2 _, beValue_be 1 _, hoctet _, ?_, beValue_be 4 _, ?_, ?_⟩
  · exact (beValue_be 2 _).trans (Nat.mod_eq_of_lt p.status.toNat_lt)
  · exact (beValue_be 4 _).trans (Nat.mod_eq_of_lt p.tag.toNat_lt)
  · exact (beValue_be 8 _).trans (Nat.mod_eq_of_lt p.cas.toNat_lt)

/-- The packet that `assemble` puts together with the lengths that the header tells is the `recut`
    one. -/
theorem assemble_encode (p : Packet) (rest : Bytes) :
    assemble (p.encode ++ rest) (p.extras.length % 2 ^ 8) (p.key.length % 2 ^ 16) p.bodyLength =
      p.recut := by
  obtain ⟨hmagic, hopcode, -, -, hdataType, hstatus, -, htag, hcas⟩ := fields_encode p rest
  have hbody : ((p.encode ++ rest).drop Packet.headerLength).take p.bodyLength = p.body := by
    have hfront : p.encode ++ rest = p.header ++ (p.body ++ rest) := by
      rw [Packet.encode, List.append_assoc]
    rw [hfront, List.drop_left' (Packet.length_header p), List.take_left' (Packet.length_body p)]
  unfold assemble
  rw [hmagic, hopcode, hdataType, hstatus, htag, hcas, hbody]
  simp only [UInt8.ofNat_toNat, UInt16.ofNat_toNat, UInt32.ofNat_toNat, UInt64.ofNat_toNat]
  rfl

variable {d : Decoder} {p : Packet}

/-- **What `parse` makes of a packet with anything behind it**: the `recut` packet. -/
theorem parse_encode_append (rest : Bytes) (hmagic : d.accepts p.magic = true)
    (hmax : p.bodyLength ≤ d.maxBody) (hsize : p.bodyLength < 2 ^ 32) :
    d.parse (p.encode ++ rest) =
      .ok (some (p.recut, Packet.headerLength + p.bodyLength)) := by
  obtain ⟨-, -, hkey, hextras, -, -, hbody, -, -⟩ := fields_encode p rest
  rw [Nat.mod_eq_of_lt hsize] at hbody
  have hlength : (p.encode ++ rest).length =
      Packet.headerLength + p.bodyLength + rest.length := by
    rw [List.length_append, Packet.length_encode]
  have hheader : ¬ shorterThan (p.encode ++ rest) Packet.headerLength = true := by
    rw [shorterThan_iff]
    omega
  have hwhole : ¬ shorterThan (p.encode ++ rest) (Packet.headerLength + p.bodyLength) = true := by
    rw [shorterThan_iff]
    omega
  -- truncated lengths are no larger than the true ones, which the body holds
  have hfits : ¬ p.bodyLength < p.extras.length % 2 ^ 8 + p.key.length % 2 ^ 16 := by
    have hextras := Nat.mod_le p.extras.length (2 ^ 8)
    have hkey := Nat.mod_le p.key.length (2 ^ 16)
    rw [Packet.bodyLength]
    omega
  have hfirst : p.encode ++ rest = p.magic :: (p.encode ++ rest).tail := rfl
  unfold parse
  rw [hfirst]
  dsimp only
  rw [← hfirst, hkey, hextras, hbody, assemble_encode, hmagic, if_neg (by decide), if_neg hheader,
    if_neg (Nat.not_lt.mpr hmax), if_neg hfits, if_neg hwhole]

/-- A packet with a body that is too long for `maxBody` is refused, whatever stands behind it. -/
theorem parse_encode_of_too_large (rest : Bytes) (hmagic : d.accepts p.magic = true)
    (hmax : d.maxBody < p.bodyLength) (hsize : p.bodyLength < 2 ^ 32) :
    d.parse (p.encode ++ rest) = .error (.messageTooLarge p.bodyLength d.maxBody) := by
  obtain ⟨-, -, -, -, -, -, hbody, -, -⟩ := fields_encode p rest
  rw [Nat.mod_eq_of_lt hsize] at hbody
  have hheader : ¬ shorterThan (p.encode ++ rest) Packet.headerLength = true := by
    rw [shorterThan_iff, List.length_append, Packet.length_encode]
    omega
  have hfirst : p.encode ++ rest = p.magic :: (p.encode ++ rest).tail := rfl
  unfold parse
  rw [hfirst]
  dsimp only
  rw [← hfirst, hbody, hmagic, if_neg (by decide), if_neg hheader, if_pos hmax]

/-- A packet with short sections is read back by `parse` as it was written. -/
theorem parse_encode_of_lt (rest : Bytes) (hmagic : d.accepts p.magic = true)
    (hmax : p.bodyLength ≤ d.maxBody) (hsize : p.bodyLength < 2 ^ 32)
    (hkey : p.key.length < 2 ^ 16) (hextras : p.extras.length < 2 ^ 8) :
    d.parse (p.encode ++ rest) = .ok (some (p, p.encode.length)) := by
  rw [parse_encode_append rest hmagic hmax hsize, Packet.recut_of_lt hkey hextras,
    Packet.length_encode]

/-- **No packet desynchronises the stream.** A packet whose magic the decoder `accepts`, with a body
    of at most `maxBody` octets that the header can tell, is read by `parse` whatever follows it,
    and takes the octets that it has. All that stands in the header is read back but the lengths of
    key and extras, and so is the body as a whole; and the sections are, `q = p`, just if their
    lengths fit into 16 and 8 bits. -/
theorem encoding_read_back (d : Decoder) (p : Packet) (suffix : Bytes)
    (hmagic : d.accepts p.magic = true) (hmax : p.bodyLength ≤ d.maxBody)
    (hsize : p.bodyLength < 2 ^ 32) :
    ∃ q, d.parse (p.encode ++ suffix) = .ok (some (q, Packet.headerLength + p.bodyLength)) ∧
      q.magic = p.magic ∧ q.opcode = p.opcode ∧ q.dataType = p.dataType ∧ q.status = p.status ∧
      q.tag = p.tag ∧ q.cas = p.cas ∧
      q.extras ++ q.key ++ q.value = p.extras ++ p.key ++ p.value ∧
      (q = p ↔ p.key.length < 2 ^ 16 ∧ p.extras.length < 2 ^ 8) := by
  refine ⟨p.recut, parse_encode_append suffix hmagic hmax hsize, rfl, rfl, rfl, rfl, rfl, rfl, ?_,
    Packet.recut_eq_self_iff p⟩
  exact Packet.body_recut p

/-- A packet whose extras are just too long for their field, so that it is read back with none. -/
def overlong : Packet :=
  { opcode := Opcode.set, extras := List.replicate 256 0, key := [0x6b], value := [0x76] }

/-- The packet `overlong` is not read back as it was, but what follows it is found in its place. -/
theorem encoding_read_back_overlong :
    requests.accepts overlong.magic = true ∧ overlong.bodyLength ≤ requests.maxBody ∧
      overlong.bodyLength < 2 ^ 32 ∧
      ∃ q, requests.parse (overlong.encode ++ [0x80]) = .ok (some (q, 282)) ∧ q ≠ overlong ∧
        q.extras ++ q.key ++ q.value = overlong.extras ++ overlong.key ++ overlong.value := by
  have hextras : overlong.extras.length = 256 := List.length_replicate
  have hlength : overlong.bodyLength = 258 := by
    rw [Packet.bodyLength, hextras]
    rfl
  have hmagic : requests.accepts overlong.magic = true := by decide
  have hmax : overlong.bodyLength ≤ requests.maxBody := by
    rw [hlength]
    decide
  have hsize : overlong.bodyLength < 2 ^ 32 := by
    rw [hlength]
    decide
  refine ⟨hmagic, hmax, hsize, ?_⟩
  obtain ⟨q, hparse, -, -, -, -, -, -, hbody, hsame⟩ :=
    encoding_read_back requests overlong [0x80] hmagic hmax hsize
  refine ⟨q, ?_, ?_, hbody⟩
  · rw [hparse, hlength]
    rfl
  · rw [Ne, hsame, hextras]
    decide

end Decoder

end Memcache
