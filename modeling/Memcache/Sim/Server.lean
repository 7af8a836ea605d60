import Memcache.Status
import Memcache.Table
import Memcache.Text.Blank
import Memcache.Text.Numeral
import Memcache.Text.Utf8
import Memcache.Wire.Decoder

/-!
# `Memcache.Sim.Server` — a server in memory

The server side of the protocol, as far as clients can tell: a table of items, each with a version
token, and for every request packet the reply packets. Every change of an item takes the next token.

## Contents

* `Server`, `StoredItem`;
* `Server.respond` — one request packet and its reply packets.
-/

namespace Memcache.Sim

/-- An item with its version token. -/
structure StoredItem where
  flags : UInt32
  data : Bytes
  cas : UInt64
  deriving DecidableEq, Repr

/-- A server. -/
structure Server where
  items : Table Bytes StoredItem := []
  /-- The token that was given out last. -/
  lastCas : UInt64 := 0
  deriving DecidableEq, Repr

namespace Server

/-- An expiration with which a counter change does not create the counter. -/
def noCreation : UInt32 := 0xffffffff

/-- A reply without sections. -/
def success (request : Packet) : Packet :=
  { magic := Magic.response, opcode := request.opcode, tag := request.tag }

/-- A failure and its explanation. -/
def failure (request : Packet) (status : Status) (message : String) : List Packet :=
  [{ success request with status := status.code, value := Text.encode message }]

/-- True for a condition on the token that the item does not meet: a `cas` of the request that is
    not 0 and not the item's. -/
def conflicts (s : Server) (request : Packet) : Bool :=
  match s.items.lookup request.key with
  | some item => request.cas != 0 && item.cas != request.cas
  | none => false

/-- Puts an item under the request's key and reports its token, the next one after `lastCas`. -/
def put (s : Server) (request : Packet) (flags : UInt32) (data : Bytes) : Server × UInt64 :=
  let cas := s.lastCas + 1
  ({ items := s.items.insert request.key ⟨flags, data, cas⟩, lastCas := cas }, cas)

/-- The 32-bit number at the start of a section; 0 if it is too short. -/
def number32 (bs : Bytes) : UInt32 :=
  match read32 bs with
  | .ok n => n
  | .error _ => 0

/-- The 64-bit number at the start of a section; 0 if it is too short. -/
def number64 (bs : Bytes) : UInt64 :=
  match read64 bs with
  | .ok n => n
  | .error _ => 0

/-- A read. Quiet reads say nothing of a miss, and reads that ask for it get the key back. -/
def read (s : Server) (request : Packet) : List Packet :=
  match s.items.lookup request.key with
  | some item =>
    let withKey := request.opcode = Opcode.getKey ∨ request.opcode = Opcode.getKeyQuiet
    [{ success request with
      extras := be 4 item.flags.toNat
      key := if withKey then request.key else []
      value := item.data
      cas := item.cas }]
  | none =>
    if Opcode.isQuiet request.opcode then [] else failure request .keyNotFound "Not found"

/-- A store. -/
def store (s : Server) (request : Packet) : Server × List Packet :=
  let present := (s.items.lookup request.key).isSome
  let refusal? : Option Status :=
    if request.opcode = Opcode.add ∧ present then some .keyExists
    else if request.opcode = Opcode.replace ∧ ¬ present then some .keyNotFound
    else if request.cas ≠ 0 ∧ ¬ present then some .keyNotFound
    else if s.conflicts request then some .keyExists
    else none
  match refusal? with
  | some status => (s, failure request status "Not stored")
  | none =>
    let (s, cas) := s.put request (number32 request.extras) request.value
    (s, [{ success request with cas := cas }])

/-- An addition at the end or at the front. -/
def concat (s : Server) (request : Packet) : Server × List Packet :=
  match s.items.lookup request.key with
  | none => (s, failure request .itemNotStored "Not stored")
  | some item =>
    if s.conflicts request then (s, failure request .keyExists "Data exists for key")
    else
      let data :=
        if request.opcode = Opcode.append then item.data ++ request.value
        else request.value ++ item.data
      let (s, cas) := s.put request item.flags data
      (s, [{ success request with cas := cas }])

/-- The number that an item holds as text. -/
def counter? (data : Bytes) : Option UInt64 :=
  match Text.decode? data with
  | some text => Text.parseU64? (Text.trimChars text.toList)
  | none => none

/-- A counter change. Upwards the counter wraps; downwards it stops at 0. -/
def mutate (s : Server) (request : Packet) : Server × List Packet :=
  let delta := number64 request.extras
  let change (n : UInt64) : UInt64 :=
    if request.opcode = Opcode.increment then n + delta else if n < delta then 0 else n - delta
  let next : Except (List Packet) (UInt32 × UInt64) :=
    match s.items.lookup request.key with
    | none =>
      if number32 (request.extras.drop 16) = noCreation then
        .error (failure request .keyNotFound "Not found")
      else .ok (0, number64 (request.extras.drop 8))
    | some item =>
      if s.conflicts request then .error (failure request .keyExists "Data exists for key")
      else
        match counter? item.data with
        | none => .error (failure request .nonNumeric "Non-numeric value")
        | some n => .ok (item.flags, change n)
  match next with
  | .error replies => (s, replies)
  | .ok (flags, n) =>
    let (s, cas) := s.put request flags (Text.encode (toString n))
    (s, [{ success request with value := be 8 n.toNat, cas := cas }])

/-- A removal. -/
def delete (s : Server) (request : Packet) : Server × List Packet :=
  if (s.items.lookup request.key).isNone then (s, failure request .keyNotFound "Not found")
  else if s.conflicts request then (s, failure request .keyExists "Data exists for key")
  else ({ s with items := s.items.erase request.key }, [success request])

/-- The figures of a group, or the general ones, and the empty packet behind them. -/
def figures (s : Server) (request : Packet) : List Packet :=
  let count := toString s.items.length
  let entries : List (Bytes × String) :=
    if request.key.isEmpty then
      [(Text.encode "pid", "1"), (Text.encode "version", "1.6.0-mock"),
        (Text.encode "curr_items", count)]
    else [(request.key ++ Text.encode ":count", count)]
  entries.map (fun entry =>
    { success request with key := entry.1, value := Text.encode entry.2 }) ++
    [success request]

/-- **The replies to one packet,** by its `opcode`, and the server after it. -/
def respond (s : Server) (request : Packet) : Server × List Packet :=
  let op := request.opcode
  if op = Opcode.get ∨ op = Opcode.getQuiet ∨ op = Opcode.getKey ∨ op = Opcode.getKeyQuiet then
    (s, s.read request)
  else if op = Opcode.set ∨ op = Opcode.add ∨ op = Opcode.replace then s.store request
  else if op = Opcode.append ∨ op = Opcode.prepend then s.concat request
  else if op = Opcode.increment ∨ op = Opcode.decrement then s.mutate request
  else if op = Opcode.delete then s.delete request
  else if op = Opcode.flush then ({ s with items := [] }, [success request])
  else if op = Opcode.noop then (s, [success request])
  else if op = Opcode.version then
    (s, [{ success request with value := Text.encode "1.6.0-mock" }])
  else if op = Opcode.stat then (s, s.figures request)
  else (s, failure request .unknownCommand "Unknown command")

/-- The replies to several packets in turn, by `respond`. -/
def respondAll (s : Server) : List Packet → Server × List Packet
  | [] => (s, [])
  | request :: rest =>
    let (s, replies) := s.respond request
    let (s, more) := s.respondAll rest
    (s, replies ++ more)

end Server

end Memcache.Sim
