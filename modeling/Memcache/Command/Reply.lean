import Memcache.Command
import Memcache.Outcome
import Memcache.Table

/-!
# `Memcache.Command.Reply` — what a server has answered so far

A command reads its answer packet by packet. The reply record starts empty and collects the status,
the version token and message of the server, and what the command asked for. A packet of another
operation is refused; a section too short for its number is refused after the status was recorded.

## Contents

* `Reply`, and `Reply.status`, which is a transport error until something was heard;
* `Reply.absorb` — the status part of one packet;
* `Command.handle` — one packet, the reply after it, and whether more packets are due.
-/

namespace Memcache

/-- What has been read of the answer to one command. -/
structure Reply where
  status? : Option Status := none
  /-- The version token of the last success. -/
  cas : UInt64 := 0
  /-- The server's own words on a failure. -/
  message? : Option String := none
  /-- The item of a single read. -/
  item? : Option Item := none
  /-- The items of a batched read, each with the version token it came with. -/
  found : Table String (Versioned Item) := []
  /-- The counter after a change. -/
  counter? : Option UInt64 := none
  /-- The statistics by name. -/
  stats : Table String String := []
  deriving DecidableEq, Repr

/-- Whether a command is waiting for more packets. -/
inductive Progress where
  | done
  | more
  deriving DecidableEq, Repr

namespace Reply

/-- The reported status; a `transportError` while there is none. -/
def status (r : Reply) : Status :=
  r.status?.getD .transportError

/-- True once `status?` is known. -/
def isComplete (r : Reply) : Bool :=
  r.status?.isSome

/-- Records the status of a packet. A success brings its `cas` and clears `message?`; a failure
    resets `cas` to 0, and replaces `message?` if it brings one. -/
def absorb (r : Reply) (p : Packet) : Reply :=
  let status := Status.ofWire p.status
  if status.isOk then { r with status? := some status, cas := p.cas, message? := none }
  else
    { r with
      status? := some status
      cas := 0
      message? := if p.value.isEmpty then r.message? else some (Text.decodeLossy p.value) }

/-- The reply after its items and statistics were handed on. The `counter?` can be read again. -/
def withoutItems (r : Reply) : Reply :=
  { r with item? := none, found := [], stats := [] }

/-- Records a success that came without a status of its own. -/
def complete (r : Reply) : Reply :=
  { r with status? := some .ok }

end Reply

namespace Command

/-- The reply after a packet, and whether more packets are due or the packet was refused. -/
abbrev Handled := Reply × Except ParseError Progress

/-- Refuses packets whose `opcode` is another one, and is `body` otherwise. -/
def expecting (opcode : UInt8) (p : Packet) (r : Reply) (body : Handled) : Handled :=
  if p.opcode = opcode then body else (r, .error (.unexpectedOpcode opcode p.opcode))

/-- A reply of one packet that carries nothing but its status, recorded by `absorb`. -/
def handleStatus (opcode : UInt8) (p : Packet) (r : Reply) : Handled :=
  expecting opcode p r (r.absorb p, .ok .done)

/-- The key that a packet of a batched read is about: the one it names, else the one at the place in
    `keys` that its tag gives. -/
def resolveKey (keys : List String) (p : Packet) : Option String :=
  if p.key.isEmpty then keys[p.tag.toNat]? else some (Text.decodeLossy p.key)

/-- One packet of a batched read. Hits are collected in `found`, misses that are reported are passed
    over, and the no-op ends the answer. -/
def handleBatch (keys : List String) (p : Packet) (r : Reply) : Handled :=
  if p.opcode = Opcode.noop then (r.complete, .ok .done)
  else if p.opcode = Opcode.getKeyQuiet ∨ p.opcode = Opcode.getKey then
    if p.status = 0 then
      match resolveKey keys p with
      | none => (r, .ok .more)
      | some key =>
        match read32 p.extras with
        | .error e => (r, .error e)
        | .ok flags =>
          ({ r with found := r.found.insert key ⟨⟨flags, p.value⟩, p.cas⟩ }, .ok .more)
    else (r, .ok .more)
  else (r, .error (.unexpectedOpcode Opcode.getKeyQuiet p.opcode))

/-- One packet of the statistics, added to `stats`. A packet without a name ends them. -/
def handleStat (p : Packet) (r : Reply) : Handled :=
  if p.status ≠ 0 then (r.absorb p, .ok .done)
  else if p.key.isEmpty then (r.complete, .ok .done)
  else
    ({ r with stats := r.stats.insert (Text.decodeLossy p.key) (Text.decodeLossy p.value) },
      .ok .more)

/-- Reads one packet of the answer. Its `tag` counts from the first tag of the request. -/
def handle (c : Command) (r : Reply) (p : Packet) : Handled :=
  match c with
  | .get _ =>
    expecting Opcode.get p r <|
      let r := r.absorb p
      if r.status.isOk then
        match read32 p.extras with
        | .error e => (r, .error e)
        | .ok flags => ({ r with item? := some ⟨flags, p.value⟩ }, .ok .done)
      else (r, .ok .done)
  | .multiGet keys => handleBatch keys p r
  | .store mode .. => handleStatus mode.opcode p r
  | .mutate mode .. =>
    expecting mode.opcode p r <|
      let r := r.absorb p
      if r.status.isOk then
        match read64 p.value with
        | .error e => (r, .error e)
        | .ok counter => ({ r with counter? := some counter }, .ok .done)
      else (r, .ok .done)
  | .concat mode .. => handleStatus mode.opcode p r
  | .delete .. => handleStatus Opcode.delete p r
  | .flush _ => handleStatus Opcode.flush p r
  | .noop => handleStatus Opcode.noop p r
  | .stats _ => expecting Opcode.stat p r (handleStat p r)

end Command

end Memcache
