import Memcache.Text.Blank
import Memcache.Text.Numeral

/-!
# `Memcache.Endpoint` — addresses of servers

An address is written `host:port`. The text itself, without blanks around it, is the identity of the
server: two spellings are two servers.

## Contents

* `splitLast` — a list around the last place of an element;
* `Endpoint.parse` — the check of an address, with the three ways in which it can fail.
-/

namespace Memcache

/-- The address of a server. -/
structure Endpoint where
  address : String
  deriving DecidableEq, Repr

/-- Why a text is no address. Each holds the text without the blanks around it. -/
inductive EndpointError where
  | missingPort (text : String)
  | invalidPort (text : String)
  | emptyHost (text : String)
  deriving DecidableEq, Repr

/-- The wording of an error. -/
def EndpointError.message : EndpointError → String
  | .missingPort s => "endpoint '" ++ s ++ "' must be host:port"
  | .invalidPort s => "endpoint '" ++ s ++ "' has an invalid port"
  | .emptyHost s => "endpoint '" ++ s ++ "' has an empty host"

/-- What stands before and after the last `a`, if there is one. -/
def splitLast {α : Type} [DecidableEq α] (a : α) : List α → Option (List α × List α)
  | [] => none
  | x :: xs =>
    match splitLast a xs with
    | some (front, back) => some (x :: front, back)
    | none => if x = a then some ([], xs) else none

namespace Endpoint

/-- Reads an address. The host is what stands before the last colon, as `splitLast` finds it. -/
def parse (text : String) : Except EndpointError Endpoint :=
  let cs := Text.trimChars text.toList
  let s := String.ofList cs
  match splitLast ':' cs with
  | none => .error (.missingPort s)
  | some (host, port) =>
    if host.isEmpty then .error (.emptyHost s)
    else
      match Text.parseNat? UInt16.size port with
      | none => .error (.invalidPort s)
      | some _ => .ok ⟨s⟩

/-- The order of addresses: by their characters. -/
def le (a b : Endpoint) : Bool :=
  a.address ≤ b.address

end Endpoint

end Memcache
