import Memcache.Bytes
import Memcache.Text.Quoted
import Memcache.Text.Utf8

/-!
# `Memcache.Wire.Packet` — packets and their octets

Requests and replies share one frame: a header of 24 octets, then extras, key and value. All
numbers are big-endian.

    0 magic | 1 operation | 2 key length | 4 extras length | 5 data type | 6 status
    8 body length | 12 tag | 16 CAS | 24 extras, key, value

The length fields have 16, 8 and 32 bits. A section longer than its field is written in full and
its length truncated; the body length counts what is really there.

## Contents

* `Opcode`, `Magic` — the numbers of the protocol; `Packet` and its constructors;
* `Packet.encode` — the octets of a packet;
* `storeExtras`, `mutateExtras`, `flushExtras` — the extras that commands carry.
-/

namespace Memcache

/-! ## Direction marks and operation numbers -/

namespace Magic

def request : UInt8 := 0x80

def response : UInt8 := 0x81

end Magic

namespace Opcode

def get : UInt8 := 0x00

def set : UInt8 := 0x01

def add : UInt8 := 0x02

def replace : UInt8 := 0x03

def delete : UInt8 := 0x04

def increment : UInt8 := 0x05

def decrement : UInt8 := 0x06

def flush : UInt8 := 0x08

def getQuiet : UInt8 := 0x09

def noop : UInt8 := 0x0a

def version : UInt8 := 0x0b

def getKey : UInt8 := 0x0c

def getKeyQuiet : UInt8 := 0x0d

def append : UInt8 := 0x0e

def prepend : UInt8 := 0x0f

def stat : UInt8 := 0x10

/-- The operations that are answered only when there is something to say, so that their packets do
    not end a request. -/
def isQuiet (op : UInt8) : Bool :=
  op == getQuiet || op == getKeyQuiet

end Opcode

/-! ## Packets -/

/-- One packet in either direction. -/
structure Packet where
  magic : UInt8 := Magic.request
  opcode : UInt8
  dataType : UInt8 := 0
  /-- The status of a reply; requests leave it 0. -/
  status : UInt16 := 0
  /-- A number that the server repeats in its reply (the protocol's opaque field). -/
  tag : UInt32 := 0
  /-- The version token of an item; 0 where there is none. -/
  cas : UInt64 := 0
  extras : Bytes := []
  key : Bytes := []
  value : Bytes := []
  deriving DecidableEq, Repr

namespace Packet

/-- The length of the header. -/
def headerLength : Nat := 24

/-- The sections `extras`, `key` and `value` in their order. -/
def body (p : Packet) : Bytes :=
  p.extras ++ p.key ++ p.value

/-- The length of the `body`. -/
def bodyLength (p : Packet) : Nat :=
  p.extras.length + p.key.length + p.value.length

/-- True for packets that a server sends, by their `magic`. -/
def isResponse (p : Packet) : Bool :=
  p.magic == Magic.response

/-- The 24 octets in front of the `body`. -/
def header (p : Packet) : Bytes :=
  [p.magic, p.opcode] ++ be 2 p.key.length ++ be 1 p.extras.length ++ [p.dataType] ++
    be 2 p.status.toNat ++ be 4 p.bodyLength ++ be 4 p.tag.toNat ++ be 8 p.cas.toNat

/-- The octets of a packet: `header` and `body`. -/
def encode (p : Packet) : Bytes :=
  p.header ++ p.body

@[simp] theorem length_header (p : Packet) : p.header.length = headerLength := by
  simp [header, headerLength]

@[simp] theorem length_body (p : Packet) : p.body.length = p.bodyLength := by
  simp [body, bodyLength, Nat.add_assoc]

@[simp] theorem length_encode (p : Packet) : p.encode.length = headerLength + p.bodyLength := by
  simp [encode]

/-- One line that names a packet. -/
def text (p : Packet) : String :=
  (if p.isResponse then "response" else "request") ++
    " opcode=0x" ++ hexDigits 2 p.opcode.toNat ++
    " status=0x" ++ hexDigits 4 p.status.toNat ++
    " key=" ++ Text.quoted (Text.decodeLossy p.key) ++
    s!" extras={p.extras.length}B value={p.value.length}B cas={p.cas}"

end Packet

/-! ## Extras -/

/-- The extras of a store: `flags`, then expiration. -/
def storeExtras (flags expires : UInt32) : Bytes :=
  be 4 flags.toNat ++ be 4 expires.toNat

/-- The extras of a counter change: the amount `delta`, the first value `initial`, then
    expiration. -/
def mutateExtras (delta initial : UInt64) (expires : UInt32) : Bytes :=
  be 8 delta.toNat ++ be 8 initial.toNat ++ be 4 expires.toNat

/-- The extras of a delayed flush. -/
def flushExtras (delay : UInt32) : Bytes :=
  be 4 delay.toNat

end Memcache
