import Memcache.Outcome
import Memcache.Pool

/-!
# `Memcache.Node` — one server and whether it is in use

A node is alive or dead. Failures that its policy finds too many take it out of use; only a probe or
an explicit call brings it back. Each change is announced exactly once, by whichever call made it,
to a listener that can be registered once.

## Contents

* `Node`, `NodeEvent`;
* `Node.markDead`, `Node.markAlive` — the two changes, each with its announcement;
* `Node.record` — the end of one attempt; `Node.outcome` — what a completed command amounts to.
-/

namespace Memcache

/-- A change of a node's state. -/
inductive NodeEvent where
  | failed (endpoint : Endpoint)
  | revived (endpoint : Endpoint)
  deriving DecidableEq, Repr

/-- The wording of a change. -/
def NodeEvent.text : NodeEvent → String
  | .failed endpoint => "failed " ++ endpoint.address
  | .revived endpoint => "revived " ++ endpoint.address

/-- One server. -/
structure Node where
  pool : Pool
  policy : FailurePolicy
  alive : Bool := true
  /-- When the server died, or when it last failed to answer a probe since. -/
  deadSince? : Option Time := none
  /-- True once changes are announced. -/
  listening : Bool := false
  deriving DecidableEq, Repr

namespace Node

/-- A server that nothing is known against, with an empty pool and a policy at its start. -/
def new (endpoint : Endpoint) (settings : PoolSettings) (policy : PolicyChoice) : Node :=
  { pool := .new endpoint settings, policy := policy.start }

/-- The address of the server, which its `pool` has. -/
def endpoint (n : Node) : Endpoint :=
  n.pool.endpoint

/-- An announcement, if anybody is `listening`. -/
def announce (n : Node) (e : Endpoint → NodeEvent) : Option NodeEvent :=
  if n.listening then some (e n.endpoint) else none

/-- Takes a node that is `alive` out of use and closes its idle connections. Nothing happens to a
    dead one. -/
def markDead (now : Time) (n : Node) : Node × Option NodeEvent :=
  if n.alive then
    ({ n with alive := false, deadSince? := some now, pool := n.pool.clearIdle },
      n.announce .failed)
  else (n, none)

/-- Puts a dead node back into use, with no `deadSince?`. Nothing happens to one that is `alive`. -/
def markAlive (n : Node) : Node × Option NodeEvent :=
  if n.alive then (n, none)
  else ({ n with alive := true, deadSince? := none }, n.announce .revived)

/-- Lets a dead node's waiting time begin again, by setting `deadSince?` to `now`. -/
def touch (now : Time) (n : Node) : Node :=
  { n with deadSince? := n.deadSince?.map fun _ => now }

/-- Records in `policy` how an attempt ended. A failure after which `shouldMarkDead` is true takes
    the node out of use by `markDead`, and the policy starts afresh. -/
def record (now : Time) (success : Bool) (n : Node) : Node × Option NodeEvent :=
  let policy := n.policy.record now success
  if !success && policy.shouldMarkDead then { n with policy := policy.reset }.markDead now
  else ({ n with policy := policy }, none)

/-- The outcome of a command whose answer is complete: what the server reported, with the `cas` of
    the reply if its status is a success. -/
def outcome (reply : Reply) : Outcome Unit :=
  if reply.status.isOk then .pass reply.cas
  else .fail reply.status (reply.message?.getD reply.status.text)

/-- The outcome of a command that a dead node was not asked, of status `nodeDead`. -/
def deadOutcome (n : Node) : Outcome Unit :=
  .fail .nodeDead ("node " ++ n.endpoint.address ++ " is dead")

/-- How a node is listed. -/
def listing (n : Node) : String :=
  "MemcachedNode \x7b endpoint: Endpoint(" ++ Text.quoted n.endpoint.address ++ "), alive: " ++
    toString n.alive ++ ", pool: " ++ n.pool.listing ++ " \x7d"

end Node

end Memcache
