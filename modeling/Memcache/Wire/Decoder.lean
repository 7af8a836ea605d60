import Memcache.Wire.Packet

/-!
# `Memcache.Wire.Decoder` — packets out of a stream of octets

A stream arrives in pieces, so decoding has three answers: a packet and how many octets it took,
nothing yet, or an error after which the stream is of no use. What is wrong is decided as early as
the octets allow: the first octet before the rest of the header, the lengths before the body.

## Contents

* `ParseError` and its `message`;
* `Decoder.parse` — one packet; `Decoder.parse_bounds` — **a packet takes at least a header and at
  most what is there**; `Decoder.parse_of_length_lt` — **until the body is there only the header
  counts**;
* `Decoder.drain` — every packet that is complete, and what stopped the search;
* `read32`, `read64` — a number at the start of a section.
-/

namespace Memcache

/-- Why octets are no packet, or a packet not the one that was due. -/
inductive ParseError where
  | invalidMagic (first : UInt8)
  | invalidBodyLength (extras key body : Nat)
  | messageTooLarge (size max : Nat)
  | unexpectedOpcode (expected actual : UInt8)
  | unexpectedTag (expected actual : UInt32)
  /-- A section too short for the number that must start it. -/
  | shortField (needed present : Nat)
  deriving DecidableEq, Repr

/-- The wording of an error. -/
def ParseError.message : ParseError → String
  | .invalidMagic b => "invalid magic byte: 0x" ++ hexDigits 2 b.toNat
  | .invalidBodyLength e k b => s!"invalid body layout: extras {e} + key {k} > body {b}"
  | .messageTooLarge n m => s!"message too large: {n} bytes (max: {m})"
  | .unexpectedOpcode e a =>
    "unexpected opcode: expected 0x" ++ hexDigits 2 e.toNat ++ ", got 0x" ++ hexDigits 2 a.toNat
  | .unexpectedTag e a => s!"unexpected opaque: expected {e}, got {a}"
  | .shortField n m => s!"protocol error: expected {n} bytes, got {m}"

/-- What one side of a connection accepts. -/
structure Decoder where
  /-- The only direction accepted, if there is only one. -/
  magic? : Option UInt8 := none
  /-- The longest body accepted: the server's item limit and room for key and extras. -/
  maxBody : Nat := 2097152

namespace Decoder

/-- Accepts replies only, by `Magic.response`. -/
def responses : Decoder := { magic? := some Magic.response }

/-- Accepts requests only, by `Magic.request`. -/
def requests : Decoder := { magic? := some Magic.request }

/-- True for a first octet that may start a packet: any of the two, or the one of `magic?`. -/
def accepts (d : Decoder) (first : UInt8) : Bool :=
  match d.magic? with
  | some m => first == m
  | none => first == Magic.request || first == Magic.response

/-- The number in `width` octets from position `start`. -/
def field (buf : Bytes) (start width : Nat) : Nat :=
  beValue ((buf.drop start).take width)

/-- The packet in the first `24 + size` octets, with the section lengths `extras` and `key` that its
    header gives. -/
def assemble (buf : Bytes) (extras key size : Nat) : Packet :=
  let body := (buf.drop Packet.headerLength).take size
  { magic := UInt8.ofNat (field buf 0 1)
    opcode := UInt8.ofNat (field buf 1 1)
    dataType := UInt8.ofNat (field buf 5 1)
    status := UInt16.ofNat (field buf 6 2)
    tag := UInt32.ofNat (field buf 12 4)
    cas := UInt64.ofNat (field buf 16 8)
    extras := body.take extras
    key := (body.drop extras).take key
    value := (body.drop extras).drop key }

/-- The packet at the start of the octets and its length, put together by `assemble`, or nothing
    while it is incomplete. -/
def parse (d : Decoder) (buf : Bytes) : Except ParseError (Option (Packet × Nat)) :=
  match buf with
  | [] => .ok none
  | first :: _ =>
    if !d.accepts first then .error (.invalidMagic first)
    else if shorterThan buf Packet.headerLength then .ok none
    else
      let key := field buf 2 2
      let extras := field buf 4 1
      let size := field buf 8 4
      if d.maxBody < size then .error (.messageTooLarge size d.maxBody)
      else if size < extras + key then .error (.invalidBodyLength extras key size)
      else if shorterThan buf (Packet.headerLength + size) then .ok none
      else .ok (some (assemble buf extras key size, Packet.headerLength + size))

/-- **A packet that `parse` finds takes at least a header and at most what is there.** -/
theorem parse_bounds {d : Decoder} {buf : Bytes} {p : Packet} {n : Nat}
    (h : d.parse buf = .ok (some (p, n))) : Packet.headerLength ≤ n ∧ n ≤ buf.length := by
  unfold parse at h
  split at h
  · simp at h
  · split at h
    · simp at h
    · split at h
      · simp at h
      · simp only at h
        split at h
        · simp at h
        · split at h
          · simp at h
          · split at h
            · simp at h
            · next hlen =>
              simp only [Except.ok.injEq, Option.some.injEq, Prod.mk.injEq] at h
              have hle := Nat.le_of_not_lt (mt (shorterThan_iff ..).2 hlen)
              exact ⟨h.2 ▸ Nat.le_add_right .., h.2 ▸ hle⟩

theorem field_take {n start width : Nat} (buf : Bytes) (h : start + width ≤ n) :
    field (buf.take n) start width = field buf start width := by
  simp only [field, List.drop_take, List.take_take]
  congr 2
  omega

/-- While octets of the body are missing, `parse` of the header alone decides whether there is an
    error. -/
theorem parse_of_length_lt {d : Decoder} {buf : Bytes} (h : Packet.headerLength ≤ buf.length)
    (hlt : buf.length < Packet.headerLength + field buf 8 4) :
    d.parse buf = (d.parse (buf.take Packet.headerLength)).map fun _ => none := by
  have hlen : (buf.take Packet.headerLength).length = Packet.headerLength := by
    simp only [List.length_take]
    omega
  have hkey : field (buf.take Packet.headerLength) 2 2 = field buf 2 2 :=
    field_take buf (by decide)
  have hextras : field (buf.take Packet.headerLength) 4 1 = field buf 4 1 :=
    field_take buf (by decide)
  have hsize : field (buf.take Packet.headerLength) 8 4 = field buf 8 4 :=
    field_take buf (by decide)
  obtain ⟨first, rest, rfl⟩ : ∃ first rest, buf = first :: rest := by
    cases buf with
    | nil => simp [Packet.headerLength] at h
    | cons first rest => exact ⟨first, rest, rfl⟩
  have hcons : (first :: rest).take Packet.headerLength = first :: rest.take 23 := rfl
  rw [hcons] at hlen hkey hextras hsize ⊢
  have hs : shorterThan (first :: rest) Packet.headerLength = false := by
    rw [Bool.eq_false_iff, ne_eq, shorterThan_iff]
    omega
  have hs' : shorterThan (first :: rest.take 23) Packet.headerLength = false := by
    rw [Bool.eq_false_iff, ne_eq, shorterThan_iff]
    omega
  have hp : shorterThan (first :: rest) (Packet.headerLength + field (first :: rest) 8 4) = true :=
    (shorterThan_iff ..).2 hlt
  simp only [parse, hs, hs', hkey, hextras, hsize, hp]
  split
  · rfl
  · simp only [Bool.false_eq_true, if_false, if_true]
    split
    · rfl
    · split
      · rfl
      · split <;> rfl

theorem length_drop_lt {d : Decoder} {buf : Bytes} {p : Packet} {n : Nat}
    (h : d.parse buf = .ok (some (p, n))) : (buf.drop n).length < buf.length := by
  have hb := parse_bounds h
  have : 0 < Packet.headerLength := by decide
  simp only [List.length_drop]
  omega

/-- What a search for packets found: the complete packets, the octets left over, and the error that
    ended the search if it was not for lack of octets. -/
structure Drained where
  packets : List Packet
  rest : Bytes
  error? : Option ParseError

/-- Takes packets off the front by `parse` until an attempt yields none. -/
def drain (d : Decoder) (buf : Bytes) : Drained :=
  match _h : d.parse buf with
  | .error e => ⟨[], buf, some e⟩
  | .ok none => ⟨[], buf, none⟩
  | .ok (some (p, n)) =>
    let later := d.drain (buf.drop n)
    ⟨p :: later.packets, later.rest, later.error?⟩
termination_by buf.length
decreasing_by exact length_drop_lt _h

end Decoder

/-! ## Numbers in sections -/

/-- The 32-bit number at the start of a section. -/
def read32 (bs : Bytes) : Except ParseError UInt32 :=
  if bs.length < 4 then .error (.shortField 4 bs.length)
  else .ok (UInt32.ofNat (beValue (bs.take 4)))

/-- The 64-bit number at the start of a section. -/
def read64 (bs : Bytes) : Except ParseError UInt64 :=
  if bs.length < 8 then .error (.shortField 8 bs.length)
  else .ok (UInt64.ofNat (beValue (bs.take 8)))

end Memcache
