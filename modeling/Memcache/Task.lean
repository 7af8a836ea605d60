import Memcache.Node

/-!
# `Memcache.Task` — one activity on one node, from wait to wait

A task acquires a connection, runs a command, probes a server or opens connections ahead of need. It
is a value: what it waits for is its stage, and a step takes it from one wait to the next. A step
reads the time and what the network delivered, and yields what is to be sent; nothing else passes
between a task and the world, so a statement about all runs quantifies over the sequences of steps.

What the network delivers comes before a deadline that falls on the same moment.

## Contents

* `Arrival`, `Effect` — what the network delivers and what it is asked to do;
* `Purpose`, `Stage`, `TaskResult`, `Task`;
* `Task.step` — **the next wait, or nothing while the task has to go on waiting**;
* `Task.withdraw` — what a task that is given up leaves behind on its node.
-/

namespace Memcache

/-! ## The boundary to the network -/

/-- What the network delivers to a task. -/
inductive Arrival where
  /-- A connection is there; the network calls it `link`. -/
  | connected (link : Nat)
  /-- A connection was refused. -/
  | refused
  /-- Octets of the server. -/
  | octets (bs : Bytes)
  /-- The server has ended the stream. -/
  | endOfStream
  /-- The server has torn down the connection. -/
  | reset
  deriving DecidableEq, Repr

/-- What a task asks of the network. -/
inductive Effect where
  | dial (endpoint : Endpoint)
  | send (link : Nat) (bs : Bytes)
  deriving DecidableEq, Repr

/-- What a task waits for on the network. -/
inductive Awaited where
  | nothing
  | connection
  /-- Octets on a connection, at most `window` of them at a time. -/
  | octets (link window : Nat)
  deriving DecidableEq, Repr

/-! ## Tasks -/

/-- What a task is for. -/
inductive Purpose where
  /-- Get a connection and keep it. -/
  | borrow
  /-- Run a command on the connection that another ticket holds. -/
  | use (holder : Ticket) (command : Command)
  /-- Run a command on the node. -/
  | execute (command : Command)
  /-- Ask the server over a fresh connection whether it answers. -/
  | probe
  /-- Probe the server, and put the node back into use if it answers. -/
  | revive
  /-- Open connections ahead of need. A `counted` failure is one in the eyes of the policy. -/
  | warmUp (counted : Bool)
  deriving DecidableEq, Repr

/-- How a task ended. -/
inductive TaskResult where
  | borrowed (result : Except PoolError Unit)
  | ran (result : Except ConnectionError Unit) (reply : Reply)
  | executed (outcome : Outcome Unit) (reply : Reply)
  | probed (result : Except ConnectionError Unit)
  /-- The number of connections that were opened. -/
  | warmed (result : Except ConnectionError Nat)
  deriving Repr

/-- Where a task stands. -/
inductive Stage where
  | fresh
  /-- Waiting for a permit of the pool. -/
  | queued (deadline : Time)
  /-- Waiting for a connection of the network. -/
  | dialling (deadline : Time)
  /-- Waiting for an answer on a connection that is lent. -/
  | talking (exchange : Exchange) (deadline : Time)
  /-- Waiting for an answer on a connection of the task's own. -/
  | probing (connection : Connection) (exchange : Exchange) (deadline : Time)
  | finished (result : TaskResult)
  deriving Repr

/-- One activity on one node. -/
structure Task where
  purpose : Purpose
  stage : Stage := .fresh
  /-- The number of connections opened ahead of need so far. -/
  opened : Nat := 0
  deriving Repr

/-- A node and a task after a step. -/
structure Turn where
  node : Node
  task : Task
  effects : List Effect := []
  event? : Option NodeEvent := none
  deriving Repr

namespace Task

/-! ## Ends -/

/-- The task with its `result`, in its last stage. -/
def finish (t : Task) (result : TaskResult) : Task :=
  { t with stage := .finished result }

/-- The result, once the task is `finished`. -/
def result? (t : Task) : Option TaskResult :=
  match t.stage with
  | .finished result => some result
  | _ => none

/-- Ends an attempt and lets the node's policy hear how it went, by `Node.record`. -/
def account (now : Time) (node : Node) (t : Task) (success : Bool) (result : TaskResult) : Turn :=
  let (node, event?) := node.record now success
  { node := node, task := t.finish result, event? := event? }

/-- Ends a task that got no connection from the pool. For an `execute` this is a failed attempt. -/
def denied (now : Time) (node : Node) (t : Task) (e : PoolError) : Turn :=
  match t.purpose with
  | .execute _ => t.account now node false (.executed (.fail .transportError e.message) {})
  | _ => { node := node, task := t.finish (.borrowed (.error e)) }

/-- Ends a command on a lent connection, by `Pool.settle`: the lease is `sound` again only if the
    command succeeded. An `execute` gives the connection back by `Pool.release`, and then accounts
    for the attempt. -/
def ended (now : Time) (ticket : Ticket) (node : Node) (t : Task) (reply : Reply)
    (result : Except ConnectionError Unit) : Turn :=
  let success := Verdict.succeeded result
  match t.purpose with
  | .use holder _ =>
    { node := { node with pool := node.pool.settle holder success }
      task := t.finish (.ran result reply) }
  | _ =>
    let node := { node with pool := (node.pool.settle ticket success).release ticket }
    match result with
    | .ok _ => t.account now node true (.executed (Node.outcome reply) reply)
    | .error e => t.account now node false (.executed (.fail .transportError e.message) reply)

/-- Ends a probe. A `revive` puts the node back into use by `markAlive`, or lets its waiting time
    begin again by `touch`. -/
def probed (now : Time) (node : Node) (t : Task) (result : Except ConnectionError Unit) : Turn :=
  let (node, event?) := match t.purpose, result with
    | .revive, .ok _ => node.markAlive
    | .revive, .error _ => (node.touch now, none)
    | _, _ => (node, none)
  { node := node, task := t.finish (.probed result), event? := event? }

/-! ## Talking -/

/-- Goes on after an exchange on a lent connection has taken in what there was: it waits for
    `receiveTimeout` again, or has `ended`. -/
def heard (now : Time) (ticket : Ticket) (node : Node) (t : Task) (x : Exchange) :
    Verdict → Turn
  | .waiting =>
    { node := node
      task := { t with stage := .talking x (now + node.pool.settings.receiveTimeout) } }
  | .ended result => t.ended now ticket node x.reply result

/-- Starts a command on the connection that `holder` has. Until the command has succeeded the lease
    is not `sound`. -/
def engage (now : Time) (ticket holder : Ticket) (node : Node) (t : Task) (command : Command) :
    Turn :=
  match node.pool.lease? holder with
  | none => t.ended now ticket node {} (.error .closed)
  | some lease =>
    let (connection, x, verdict, request) := lease.connection.begin command
    let pool := node.pool.putLease holder { connection := connection, sound := false }
    let turn := t.heard now ticket { node with pool := pool } x verdict
    { turn with effects := .send connection.link request :: turn.effects }

/-- Goes on after a probe has taken in what there was: it waits for `receiveTimeout` again, or has
    `probed`. -/
def sounded (now : Time) (node : Node) (t : Task) (connection : Connection) (x : Exchange) :
    Verdict → Turn
  | .waiting =>
    { node := node
      task :=
        { t with stage := .probing connection x (now + node.pool.settings.receiveTimeout) } }
  | .ended result => t.probed now node result

/-! ## Connecting -/

/-- Asks the network for a connection, and waits for it for `connectTimeout`. -/
def dial (now : Time) (node : Node) (t : Task) : Turn :=
  { node := node
    task := { t with stage := .dialling (now + node.pool.settings.connectTimeout) }
    effects := [.dial node.endpoint] }

/-- Opens the next connection ahead of need, until `warmTarget` of the pool are idle. -/
def stockUp (now : Time) (node : Node) (t : Task) : Turn :=
  if node.pool.idle.length < node.pool.warmTarget then t.dial now node
  else { node := node, task := t.finish (.warmed (.ok t.opened)) }

/-- Goes on with a lent connection: an `execute` runs its command by `engage`, anybody else has
    ended. -/
def equipped (now : Time) (ticket : Ticket) (node : Node) (t : Task) : Turn :=
  match t.purpose with
  | .execute command => t.engage now ticket ticket node command
  | _ => { node := node, task := t.finish (.borrowed (.ok ())) }

/-- Goes on with the pool's answer to a request for a connection, which is `queued` for
    `queueTimeout` at most. -/
def admitted (now : Time) (ticket : Ticket) (node : Node) (t : Task) : Admission → Turn
  | .queued =>
    { node := node, task := { t with stage := .queued (now + node.pool.settings.queueTimeout) } }
  | .lent => t.equipped now ticket node
  | .opening => t.dial now node
  | .refused => t.denied now node .closed

/-- Asks the pool for a connection, by `Pool.enter`. -/
def acquire (now : Time) (ticket : Ticket) (node : Node) (t : Task) : Turn :=
  let (pool, admission) := node.pool.enter ticket
  t.admitted now ticket { node with pool := pool } admission

/-- Goes on with a new connection: a probe sends its no-op on it, a warm-up puts it into the pool by
    `Pool.stock`, and anybody else has it lent by `Pool.opened`. -/
def connected (now : Time) (ticket : Ticket) (node : Node) (t : Task) (link : Nat) : Turn :=
  match t.purpose with
  | .probe | .revive =>
    let (connection, x, verdict, request) := { link := link : Connection }.begin .noop
    let turn := t.sounded now node connection x verdict
    { turn with effects := .send link request :: turn.effects }
  | .warmUp _ =>
    let pool := node.pool.stock { link := link }
    { t with opened := t.opened + 1 }.stockUp now { node with pool := pool }
  | _ => t.equipped now ticket { node with pool := node.pool.opened ticket link }

/-- Ends a task that got no connection from the network. Its permit is taken back by
    `Pool.withdraw`. -/
def unreachable (now : Time) (ticket : Ticket) (node : Node) (t : Task) (e : ConnectionError) :
    Turn :=
  match t.purpose with
  | .probe | .revive => t.probed now node (.error e)
  | .warmUp true => t.account now node false (.warmed (.error e))
  | .warmUp false => { node := node, task := t.finish (.warmed (.error e)) }
  | _ => t.denied now { node with pool := node.pool.withdraw ticket } (.connect e)

/-! ## Steps -/

/-- Begins a task. An `execute` on a dead node ends at once and touches nothing. -/
def start (now : Time) (ticket : Ticket) (node : Node) (t : Task) : Turn :=
  match t.purpose with
  | .borrow => t.acquire now ticket node
  | .use holder command => t.engage now ticket holder node command
  | .execute _ =>
    if node.alive then t.acquire now ticket node
    else { node := node, task := t.finish (.executed node.deadOutcome {}) }
  | .probe | .revive => t.dial now node
  | .warmUp _ => t.stockUp now node

/-- The ticket that holds the connection of a task that is `talking`: its own one, but that of the
    lender for a `use`. -/
def holder (ticket : Ticket) (t : Task) : Ticket :=
  match t.purpose with
  | .use holder _ => holder
  | _ => ticket

/-- How a wait for an answer ends badly, if it does: by what arrived, or else by its `deadline`. -/
def interruption? (now deadline : Time) (node : Node) :
    Option Arrival → Option ConnectionError
  | some .endOfStream => some .closed
  | some .reset => some (.io .reset)
  | _ =>
    if deadline ≤ now then some (.receiveTimeout node.pool.settings.receiveTimeout) else none

/-- Goes on with a task on a lent connection, if octets have come or the wait ends badly by
    `interruption?`. -/
def listen (now : Time) (ticket : Ticket) (arrival? : Option Arrival) (node : Node) (t : Task)
    (x : Exchange) (deadline : Time) : Option Turn :=
  match arrival?, node.pool.lease? (t.holder ticket) with
  | some (.octets bs), some lease =>
    let (x, connection, verdict) := x.receive lease.connection bs
    let pool := node.pool.putLease (t.holder ticket) { lease with connection := connection }
    some (t.heard now ticket { node with pool := pool } x verdict)
  | arrival?, _ =>
    (interruption? now deadline node arrival?).map fun e =>
      t.ended now ticket node x.reply (.error e)

/-- **One step**, by the `stage` of the task. Nothing happens while it has to go on waiting, or has
    ended. -/
def step (now : Time) (ticket : Ticket) (arrival? : Option Arrival) (node : Node) (t : Task) :
    Option Turn :=
  match t.stage with
  | .fresh => some (t.start now ticket node)
  | .queued deadline =>
    match node.pool.resume ticket with
    | some (pool, admission) => some (t.admitted now ticket { node with pool := pool } admission)
    | none =>
      if deadline ≤ now then
        some (t.denied now { node with pool := node.pool.withdraw ticket }
          (.queueTimeout node.pool.settings.queueTimeout))
      else none
  | .dialling deadline =>
    match arrival? with
    | some (.connected link) => some (t.connected now ticket node link)
    | some .refused => some (t.unreachable now ticket node (.io .refused))
    | _ =>
      if deadline ≤ now then
        some (t.unreachable now ticket node (.connectTimeout node.endpoint))
      else none
  | .talking x deadline => t.listen now ticket arrival? node x deadline
  | .probing connection x deadline =>
    match arrival? with
    | some (.octets bs) =>
      let (x, connection, verdict) := x.receive connection bs
      some (t.sounded now node connection x verdict)
    | arrival? =>
      (interruption? now deadline node arrival?).map fun e => t.probed now node (.error e)
  | .finished _ => none

/-- What the node keeps of a task that is given up before its end: a connection that was lent for a
    `borrow` or an `execute`, or was being opened for it, is no longer claimed. -/
def withdraw (ticket : Ticket) (node : Node) (t : Task) : Node :=
  match t.purpose with
  | .borrow | .execute _ => { node with pool := node.pool.withdraw ticket }
  | _ => node

/-- What the task waits for on the network, by its `stage`. -/
def awaits (ticket : Ticket) (node : Node) (t : Task) : Awaited :=
  match t.stage with
  | .dialling _ => .connection
  | .talking _ _ =>
    match node.pool.lease? (t.holder ticket) with
    | some lease => .octets lease.connection.link lease.connection.window
    | none => .nothing
  | .probing connection _ _ => .octets connection.link connection.window
  | _ => .nothing

/-- When the task stops waiting, by its `stage`. -/
def deadline? (t : Task) : Option Time :=
  match t.stage with
  | .queued deadline | .dialling deadline | .talking _ deadline | .probing _ _ deadline =>
    some deadline
  | _ => none

/-- What has been read of an answer so far, in the `reply` of the exchange. -/
def replySoFar (t : Task) : Reply :=
  match t.stage with
  | .talking x _ => x.reply
  | .finished (.ran _ reply) | .finished (.executed _ reply) => reply
  | _ => {}

end Task

end Memcache
