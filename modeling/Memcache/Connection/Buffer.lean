import Memcache.Wire.Decoder

/-!
# `Memcache.Connection.Buffer` — received octets and the room for more

A large body arrives in many pieces. The pieces are only put together when there may be a packet in
them: until then the header, which is looked at as soon as it is complete, says how many octets are
still missing.

## Contents

* `ReceiveBuffer` — octets in a block of memory; `ReceiveBuffer.contents` — **the octets in order,
  which is all that reading depends on**;
* `makeRoom`, `push`, `use` — the changes, each with its effect on the contents;
* `front` — what stands at the front; `front_eq` — **it is what a decoder reads from the contents**.
-/

namespace Memcache

/-- Octets that were received and not used yet, in a block of memory whose front was used before.
    The used front, before `start`, is room again only once the octets move to the front of the
    block. -/
structure ReceiveBuffer where
  /-- The octets up to some point, at least the first header if it is there. -/
  unread : Bytes := []
  /-- The pieces behind them, the latest first. -/
  pieces : List Bytes := []
  /-- Where the octets begin in the block. -/
  start : Nat := 0
  /-- Where they end. -/
  stop : Nat := 0
  capacity : Nat := 4096
  /-- The block holds the octets without a gap. -/
  stop_eq : stop = start + (unread ++ pieces.reverse.flatten).length := by rfl
  deriving DecidableEq, Repr

namespace ReceiveBuffer

/-- A block that nothing was received in. -/
def empty : ReceiveBuffer := {}

/-- The octets in order: `unread`, and then the pieces. -/
def contents (b : ReceiveBuffer) : Bytes :=
  b.unread ++ b.pieces.reverse.flatten

/-- The number of octets, from `start` to `stop`. -/
def held (b : ReceiveBuffer) : Nat :=
  b.stop - b.start

theorem held_eq (b : ReceiveBuffer) : b.held = b.contents.length := by
  have := b.stop_eq
  simp only [held, contents]
  omega

/-- The octets that fit behind. -/
def room (b : ReceiveBuffer) : Nat :=
  b.capacity - b.stop

/-! ## Changes -/

/-- Makes room for a read where less than 1024 octets are left: by moving the octets to the front if
    they fit into what lies before them, else by a block of at least twice the size. -/
def makeRoom (b : ReceiveBuffer) : ReceiveBuffer :=
  if 1024 ≤ b.room then b
  else if b.held ≤ b.start ∧ b.held + 4096 ≤ b.capacity then
    { b with start := 0, stop := b.held, stop_eq := (held_eq b).trans (Nat.zero_add _).symm }
  else { b with capacity := max (2 * b.capacity) (b.stop + 4096) }

/-- **Making room by `makeRoom` loses nothing.** -/
@[simp] theorem contents_makeRoom (b : ReceiveBuffer) : b.makeRoom.contents = b.contents := by
  simp only [makeRoom]
  split
  · rfl
  · split <;> rfl

/-- Adds octets behind. They are put together with the others only while there is no header. -/
def push (b : ReceiveBuffer) (bs : Bytes) : ReceiveBuffer :=
  if shorterThan b.unread Packet.headerLength then
    { b with
      unread := b.contents ++ bs
      pieces := []
      stop := b.stop + bs.length
      stop_eq := by
        have := b.stop_eq
        simp only [contents, List.reverse_nil, List.flatten_nil, List.append_nil,
          List.length_append] at this ⊢
        omega }
  else
    { b with
      pieces := bs :: b.pieces
      stop := b.stop + bs.length
      stop_eq := by
        have := b.stop_eq
        simp only [List.reverse_cons, List.flatten_append, List.flatten_cons, List.flatten_nil,
          List.append_nil, List.length_append] at this ⊢
        omega }

@[simp] theorem contents_push (b : ReceiveBuffer) (bs : Bytes) :
    (b.push bs).contents = b.contents ++ bs := by
  simp only [push]
  split <;> simp [contents]

/-- Uses the first `n` octets. -/
def use (b : ReceiveBuffer) (n : Nat) : ReceiveBuffer :=
  let rest := b.contents.drop n
  { b with
    unread := rest
    pieces := []
    start := b.stop - rest.length
    stop_eq := by
      have := b.stop_eq
      simp only [rest, contents, List.reverse_nil, List.flatten_nil, List.append_nil,
        List.length_append, List.length_drop] at this ⊢
      omega }

@[simp] theorem contents_use (b : ReceiveBuffer) (n : Nat) :
    (b.use n).contents = b.contents.drop n := by
  simp [use, contents]

/-! ## Reading -/

/-- True if there is a header and it asks for more octets than there are. -/
def isPartial (b : ReceiveBuffer) : Bool :=
  !shorterThan b.unread Packet.headerLength &&
    b.held < Packet.headerLength + Decoder.field b.unread 8 4

/-- What stands at the front: a packet with its length, nothing while it is incomplete, or an error.
    Where octets are known to be missing, by `isPartial`, only the header is read. -/
def front (d : Decoder) (b : ReceiveBuffer) : Except ParseError (Option (Packet × Nat)) :=
  if b.isPartial then (d.parse (b.unread.take Packet.headerLength)).map fun _ => none
  else d.parse b.contents

/-- **What stands at the front is what `Decoder.parse` reads from the `contents`.** -/
theorem front_eq (d : Decoder) (b : ReceiveBuffer) : b.front d = d.parse b.contents := by
  simp only [front]
  split
  · next h =>
    simp only [isPartial, Bool.and_eq_true, Bool.not_eq_true', decide_eq_true_eq] at h
    obtain ⟨hshort, hheld⟩ := h
    have hunread : Packet.headerLength ≤ b.unread.length := by
      rw [Bool.eq_false_iff, ne_eq, shorterThan_iff] at hshort
      omega
    have htake : b.contents.take Packet.headerLength = b.unread.take Packet.headerLength :=
      List.take_append_of_le_length hunread
    have hfield : Decoder.field b.contents 8 4 = Decoder.field b.unread 8 4 := by
      rw [← Decoder.field_take b.contents (by decide : 8 + 4 ≤ Packet.headerLength), htake,
        Decoder.field_take b.unread (by decide)]
    have hlength : b.unread.length ≤ b.contents.length := by simp [contents]
    rw [held_eq] at hheld
    have hparse : d.parse b.contents = _ := Decoder.parse_of_length_lt (by omega) (by omega)
    rw [hparse, htake]
  · rfl

end ReceiveBuffer

end Memcache
