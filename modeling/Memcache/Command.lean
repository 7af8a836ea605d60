import Memcache.Wire.Decoder

/-!
# `Memcache.Command` — requests to one server

A command is what a caller asks of one server, already in the terms of the wire: keys as they are
sent, expirations as 32-bit numbers. It is encoded as one packet, except for the batched read, which
is a quiet read for each key and a no-op that forces the end of the answer.

## Contents

* `Item`, `Command` and the modes;
* `Command.packets tag` — the packets of a request, tagged from `tag` upwards;
* `Command.span` — how many tags a request uses; `length_packets` — **one for each packet**.
-/

namespace Memcache

/-- A stored value: its flags and its octets. -/
structure Item where
  flags : UInt32
  data : Bytes
  deriving DecidableEq, Repr

/-- The condition of a store: only absent keys, only present keys, or any key. -/
inductive StoreMode where
  | add
  | replace
  | set
  deriving DecidableEq, Repr

/-- The direction of a counter change. -/
inductive MutateMode where
  | increment
  | decrement
  deriving DecidableEq, Repr

/-- The end of the stored value at which octets are added. -/
inductive ConcatMode where
  | append
  | prepend
  deriving DecidableEq, Repr

/-- The operation number of a store. -/
def StoreMode.opcode : StoreMode → UInt8
  | .add => Opcode.add
  | .replace => Opcode.replace
  | .set => Opcode.set

/-- The operation number of a counter change. -/
def MutateMode.opcode : MutateMode → UInt8
  | .increment => Opcode.increment
  | .decrement => Opcode.decrement

/-- The operation number of a concatenation. -/
def ConcatMode.opcode : ConcatMode → UInt8
  | .append => Opcode.append
  | .prepend => Opcode.prepend

/-- What is asked of one server. A `cas` of 0 sets no condition. -/
inductive Command where
  | get (key : String)
  /-- A batched read. -/
  | multiGet (keys : List String)
  | store (mode : StoreMode) (key : String) (item : Item) (expires : UInt32) (cas : UInt64)
  /-- A counter change; an absent counter starts at `initial`. -/
  | mutate (mode : MutateMode) (key : String) (initial delta : UInt64) (expires : UInt32)
      (cas : UInt64)
  | concat (mode : ConcatMode) (key : String) (data : Bytes) (cas : UInt64)
  | delete (key : String) (cas : UInt64)
  /-- Invalidates every item, after a delay if that is not 0. -/
  | flush (delay : UInt32)
  | noop
  | stats (filter : Option String)
  deriving DecidableEq, Repr

namespace Command

/-- A short name for the command. -/
def name : Command → String
  | .get _ => "get"
  | .multiGet _ => "multi_get"
  | .store .add .. => "add"
  | .store .replace .. => "replace"
  | .store .set .. => "set"
  | .mutate .increment .. => "increment"
  | .mutate .decrement .. => "decrement"
  | .concat .append .. => "append"
  | .concat .prepend .. => "prepend"
  | .delete .. => "delete"
  | .flush _ => "flush"
  | .noop => "noop"
  | .stats _ => "stats"

/-- One quiet read for each key, tagged from `tag` upwards. -/
def quietReads : List String → UInt32 → List Packet
  | [], _ => []
  | key :: keys, tag =>
    { opcode := Opcode.getKeyQuiet, key := Text.encode key, tag := tag }
      :: quietReads keys (tag + 1)

/-- The packets of a request, tagged from `tag` upwards. -/
def packets (tag : UInt32) : Command → List Packet
  | .get key => [{ opcode := Opcode.get, key := Text.encode key, tag := tag }]
  | .multiGet keys =>
    quietReads keys tag ++ [{ opcode := Opcode.noop, tag := tag + UInt32.ofNat keys.length }]
  | .store mode key item expires cas =>
    [{ opcode := mode.opcode, extras := storeExtras item.flags expires, key := Text.encode key
       value := item.data, cas := cas, tag := tag }]
  | .mutate mode key initial delta expires cas =>
    [{ opcode := mode.opcode, extras := mutateExtras delta initial expires, key := Text.encode key
       cas := cas, tag := tag }]
  | .concat mode key data cas =>
    [{ opcode := mode.opcode, key := Text.encode key, value := data, cas := cas, tag := tag }]
  | .delete key cas => [{ opcode := Opcode.delete, key := Text.encode key, cas := cas, tag := tag }]
  | .flush delay =>
    [{ opcode := Opcode.flush, extras := if 0 < delay then flushExtras delay else [], tag := tag }]
  | .noop => [{ opcode := Opcode.noop, tag := tag }]
  | .stats filter =>
    [{ opcode := Opcode.stat, key := (filter.map Text.encode).getD [], tag := tag }]

/-- The octets of a request, those of its `packets`. -/
def encode (tag : UInt32) (c : Command) : Bytes :=
  (c.packets tag).flatMap Packet.encode

/-- How many consecutive tags a request uses. -/
def span : Command → UInt32
  | .multiGet keys => UInt32.ofNat keys.length + 1
  | _ => 1

theorem length_quietReads (keys : List String) (tag : UInt32) :
    (quietReads keys tag).length = keys.length := by
  induction keys generalizing tag with
  | nil => rfl
  | cons key keys ih => simp [quietReads, ih]

/-- **A request uses one tag of its `span` for each of its packets.** -/
theorem length_packets (tag : UInt32) (c : Command) :
    UInt32.ofNat (c.packets tag).length = c.span := by
  cases c <;> simp [packets, span, length_quietReads]

end Command

end Memcache
