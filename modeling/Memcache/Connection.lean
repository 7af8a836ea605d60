import Memcache.Command.Reply
import Memcache.Connection.Buffer
import Memcache.Duration
import Memcache.Endpoint

/-!
# `Memcache.Connection` — one command at a time on one connection

A connection numbers the packets of its commands consecutively and without end, so that an answer
can only be taken for the command whose tags it repeats. A command is sent as a whole; then octets
are collected, and every complete packet goes to the command, until the command is done or something
is wrong. A command that is done must have used up everything that was received.

Nothing here touches a network. What the network delivers is an `Arrival`, and what is to be sent is
a result, so statements about a connection range over all arrivals.

## Contents

* `ConnectionError` and its wording;
* `Exchange` — a command under way; `Exchange.digest` — the packets that are complete;
* `Connection.begin`, `Exchange.receive` — the start of a command and the arrival of octets.
-/

namespace Memcache

/-! ## Errors -/

/-- What the operating system reports. -/
inductive IoFault where
  | refused
  | reset
  deriving DecidableEq, Repr

/-- The wording of the operating system. -/
def IoFault.message : IoFault → String
  | .refused => "Connection refused (os error 111)"
  | .reset => "Connection reset by peer (os error 104)"

/-- Why a command did not complete on a connection. Each leaves the connection unusable. -/
inductive ConnectionError where
  | io (fault : IoFault)
  | parse (e : ParseError)
  | connectTimeout (endpoint : Endpoint)
  | receiveTimeout (limit : Duration)
  /-- The server ended the stream. -/
  | closed
  /-- Octets were left over when the command was done. -/
  | trailingData (length : Nat)
  deriving DecidableEq, Repr

/-- The wording of an error. -/
def ConnectionError.message : ConnectionError → String
  | .io fault => "I/O error: " ++ fault.message
  | .parse e => "Parse error: " ++ e.message
  | .connectTimeout endpoint => "connect to " ++ endpoint.address ++ " timed out"
  | .receiveTimeout limit => "no response within " ++ limit.text
  | .closed => "Connection closed by server"
  | .trailingData n => s!"{n} unexpected bytes after response"

/-! ## Commands under way -/

/-- A connection between two commands. -/
structure Connection where
  /-- The network's name for the connection. -/
  link : Nat
  /-- The first tag of the next command. -/
  nextTag : UInt32 := 0
  buffer : ReceiveBuffer := .empty
  deriving DecidableEq, Repr

/-- A command that has been sent, and what has been read of its answer. -/
structure Exchange where
  command : Command
  reply : Reply := {}
  /-- The first tag of the request. -/
  base : UInt32
  deriving DecidableEq, Repr

/-- Where a command stands: it needs more octets, or it has ended. -/
inductive Verdict where
  | waiting
  | ended (result : Except ConnectionError Unit)

/-- The bare fact of how a command ended: `true` if without an error. -/
def Verdict.succeeded : Except ConnectionError Unit → Bool
  | .ok _ => true
  | .error _ => false

namespace Exchange

/-- Gives the command every packet that is complete at the front of the buffer, by `Command.handle`.
    A packet whose tag is not one of the command's own ends the exchange and is not given to it. -/
def digest (x : Exchange) (b : ReceiveBuffer) : Exchange × ReceiveBuffer × Verdict :=
  match _h : b.front Decoder.responses with
  | .error e => (x, b, .ended (.error (.parse e)))
  | .ok none => (x, b, .waiting)
  | .ok (some (p, n)) =>
    let place := p.tag - x.base
    if x.command.span ≤ place then
      (x, b.use n, .ended (.error (.parse (.unexpectedTag x.base p.tag))))
    else
      let handled := x.command.handle x.reply { p with tag := place }
      let x' := { x with reply := handled.1 }
      match handled.2 with
      | .error e => (x', b.use n, .ended (.error (.parse e)))
      | .ok .more => x'.digest (b.use n)
      | .ok .done =>
        let left := (b.use n).held
        (x', b.use n, .ended (if left = 0 then .ok () else .error (.trailingData left)))
termination_by b.contents.length
decreasing_by
  rw [ReceiveBuffer.contents_use]
  exact Decoder.length_drop_lt ((ReceiveBuffer.front_eq ..).symm.trans _h)

/-- Takes in octets that have arrived: they are pushed into the buffer, and digested by `digest`. -/
def receive (x : Exchange) (c : Connection) (bs : Bytes) : Exchange × Connection × Verdict :=
  let (x, b, v) := x.digest (c.buffer.makeRoom.push bs)
  (x, { c with buffer := b }, v)

end Exchange

namespace Connection

/-- The largest number of octets that the next read takes. -/
def window (c : Connection) : Nat :=
  c.buffer.makeRoom.room

/-- Starts a command: the octets to send, tagged from `nextTag`, and where the command stands with
    what was left unread by the command before it. -/
def begin (c : Connection) (command : Command) : Connection × Exchange × Verdict × Bytes :=
  let x : Exchange := { command := command, base := c.nextTag }
  let (x, b, v) := x.digest c.buffer
  ({ c with nextTag := c.nextTag + command.span, buffer := b }, x, v, command.encode c.nextTag)

end Connection

end Memcache
