import Memcache.Bytes

/-!
# `Memcache.Status` — how a command ended

A status is either a number from a server or one of four client-side endings, which have numbers of
their own above `0xff00` so that one code can report both.

## Contents

* `Status` with `ofWire`, `code` and `text`;
* `Status.code_ofWire` — **a server's number survives the trip**.
-/

namespace Memcache

/-- The ending of a command. -/
inductive Status where
  | ok
  | keyNotFound
  | keyExists
  | valueTooLarge
  | invalidArguments
  | itemNotStored
  | nonNumeric
  | unknownCommand
  | outOfMemory
  /-- A number from the server that has no name here. -/
  | server (code : UInt16)
  /-- No reply: no connection, a broken one, or octets that are no reply. -/
  | transportError
  /-- Every server that could own the key is dead. -/
  | noAvailableNode
  /-- The command failed before or after its trip to the server. -/
  | localFailure
  /-- The owning server is marked dead and was not asked. -/
  | nodeDead
  deriving DecidableEq, Repr

namespace Status

/-- The status that a server's number stands for; `server` for one that has no name here. -/
def ofWire (code : UInt16) : Status :=
  if code = 0x0000 then .ok
  else if code = 0x0001 then .keyNotFound
  else if code = 0x0002 then .keyExists
  else if code = 0x0003 then .valueTooLarge
  else if code = 0x0004 then .invalidArguments
  else if code = 0x0005 then .itemNotStored
  else if code = 0x0006 then .nonNumeric
  else if code = 0x0081 then .unknownCommand
  else if code = 0x0082 then .outOfMemory
  else .server code

/-- The number of a status; 0 is success. -/
def code : Status → UInt16
  | .ok => 0x0000
  | .keyNotFound => 0x0001
  | .keyExists => 0x0002
  | .valueTooLarge => 0x0003
  | .invalidArguments => 0x0004
  | .itemNotStored => 0x0005
  | .nonNumeric => 0x0006
  | .unknownCommand => 0x0081
  | .outOfMemory => 0x0082
  | .server code => code
  | .transportError => 0xff01
  | .noAvailableNode => 0xff02
  | .localFailure => 0xff03
  | .nodeDead => 0xff04

/-- Success is the number 0, be it spelled `ok` or `server`. -/
def isOk (s : Status) : Bool :=
  s.code == 0

/-- True for the four endings that no server reports. -/
def isClientSide : Status → Bool
  | .transportError | .noAvailableNode | .localFailure | .nodeDead => true
  | _ => false

/-- The wording of a status. -/
def text : Status → String
  | .ok => "ok"
  | .keyNotFound => "not found"
  | .keyExists => "exists"
  | .valueTooLarge => "value too large"
  | .invalidArguments => "invalid arguments"
  | .itemNotStored => "not stored"
  | .nonNumeric => "non-numeric value"
  | .unknownCommand => "unknown command"
  | .outOfMemory => "out of memory"
  | .server code => "server status 0x" ++ hexDigits 4 code.toNat
  | .transportError => "transport error"
  | .noAvailableNode => "no available node"
  | .localFailure => "local failure"
  | .nodeDead => "node dead"

/-- **A server's number survives the trip through its name**: `code` undoes `ofWire`. -/
theorem code_ofWire (code : UInt16) : (ofWire code).code = code := by
  unfold ofWire
  repeat' split
  all_goals simp_all [Status.code]

end Status

end Memcache
