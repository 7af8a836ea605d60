import Memcache.Ring
import Memcache.Task

/-!
# `Memcache.Fleet` — all servers of one client

A fleet holds its nodes, the ring of those that are alive, and the tasks under way on them. Whenever
a node announces that it died or came back, the ring is rebuilt and the change is published. A
sweeper wakes up from time to time and probes the nodes that have been dead for long enough. After
disposal no pool gives out connections, the ring stands still and nothing is published.

## Contents

* `Fleet`, `Fleet.ofServers`; `Fleet.locate` — the node that owns a key;
* `Fleet.spawn`, `Fleet.step`, `Fleet.collect`, `Fleet.cancel` — the life of a task;
* `Fleet.notify` — **the only place where an announcement is published**;
* `Fleet.launch`, `Fleet.settled` — the start; `Fleet.sweep` — one turn of the sweeper;
* `Fleet.dispose`; `Fleet.drain` — what a subscriber reads.
-/

namespace Memcache

/-- The background task that brings dead nodes back. -/
inductive Sweeper where
  | absent
  | asleep (wake : Time)
  /-- Waiting for its probes. -/
  | probing (tickets : List Ticket)
  deriving DecidableEq, Repr

/-- A task and the server that it is about. -/
structure Job where
  server : Endpoint
  task : Task
  deriving Repr

/-- All servers of one client. -/
structure Fleet where
  settings : PoolSettings
  /-- The nodes, each under its address, in the order of the configuration. -/
  nodes : Table Endpoint Node
  /-- The ring of the nodes that were alive when it was built. -/
  ring : Ring
  disposed : Bool := false
  /-- What was published and not read yet. -/
  events : List NodeEvent := []
  sweeper : Sweeper := .absent
  jobs : Table Ticket Job := []
  /-- The tickets of ended tasks in the order in which they ended. -/
  ended : List Ticket := []
  nextTicket : Ticket := 0

namespace Fleet

/-! ## Nodes and ring -/

/-- The servers whose nodes are `alive`. -/
def working (f : Fleet) : List Endpoint :=
  f.nodes.select (·.alive)

/-- The fleet with the ring of its `working` servers. -/
def rebuild (f : Fleet) : Fleet :=
  { f with ring := .ofEndpoints f.working }

/-- A fleet of the listed servers, each counted once, with the ring of all. -/
def ofServers (servers : List Endpoint) (settings : PoolSettings) (policy : PolicyChoice) : Fleet :=
  let servers := servers.eraseDups
  { settings := settings
    nodes := servers.map fun server => (server, .new server settings policy)
    ring := .ofEndpoints servers }

/-- The server that owns a key on the `ring`. -/
def locate (f : Fleet) (key : String) : Option Endpoint :=
  f.ring.locate key

/-- Publishes an announcement: the ring follows by `rebuild`, then the subscribers hear of it in
    `events`. A `disposed` fleet does neither. -/
def notify (f : Fleet) : Option NodeEvent → Fleet
  | none => f
  | some event =>
    if f.disposed then f else { f.rebuild with events := f.events ++ [event] }

/-- Changes a node by `change` and publishes what it announces, by `notify`. -/
def update (f : Fleet) (server : Endpoint) (change : Node → Node × Option NodeEvent) : Fleet :=
  match f.nodes.lookup server with
  | none => f
  | some node =>
    let (node, event?) := change node
    { f with nodes := f.nodes.insert server node }.notify event?

/-- Takes a node out of use, by `Node.markDead`. -/
def markDead (now : Time) (server : Endpoint) (f : Fleet) : Fleet :=
  f.update server (·.markDead now)

/-- Puts a node back into use, by `Node.markAlive`. -/
def markAlive (server : Endpoint) (f : Fleet) : Fleet :=
  f.update server (·.markAlive)

/-- Whether a node is `alive`, if the fleet has it. -/
def isAlive? (f : Fleet) (server : Endpoint) : Option Bool :=
  (f.nodes.lookup server).map (·.alive)

/-! ## Tasks -/

/-- Adds a task for this `purpose`, under `nextTicket`. -/
def spawn (f : Fleet) (server : Endpoint) (purpose : Purpose) : Fleet × Ticket :=
  ({ f with
      jobs := f.jobs.insert f.nextTicket { server := server, task := { purpose := purpose } }
      nextTicket := f.nextTicket + 1 }, f.nextTicket)

/-- Adds tasks, each by `spawn`. -/
def spawnAll (f : Fleet) : List (Endpoint × Purpose) → Fleet × List Ticket
  | [] => (f, [])
  | (server, purpose) :: rest =>
    let (f, ticket) := f.spawn server purpose
    let (f, tickets) := f.spawnAll rest
    (f, ticket :: tickets)

/-- The task under `ticket`, with its node. -/
def job? (f : Fleet) (ticket : Ticket) : Option (Job × Node) :=
  match f.jobs.lookup ticket with
  | none => none
  | some job => (f.nodes.lookup job.server).map fun node => (job, node)

/-- **One step of one task**, by `Task.step`, unless it has to go on waiting: its node and the task
    change, the announcement is published by `notify`, and the effects are for the network. -/
def step (now : Time) (ticket : Ticket) (arrival? : Option Arrival) (f : Fleet) :
    Option (Fleet × List Effect) :=
  match f.job? ticket with
  | none => none
  | some (job, node) =>
    (job.task.step now ticket arrival? node).map fun turn =>
      let f := { f with
        nodes := f.nodes.insert job.server turn.node
        jobs := f.jobs.insert ticket { job with task := turn.task }
        ended := if turn.task.result?.isSome then f.ended ++ [ticket] else f.ended }
      (f.notify turn.event?, turn.effects)

/-- The result of a task, once it has ended. -/
def result? (f : Fleet) (ticket : Ticket) : Option TaskResult :=
  match f.jobs.lookup ticket with
  | none => none
  | some job => job.task.result?

/-- Drops the record of a task from `jobs` and `ended`. -/
def forget (f : Fleet) (ticket : Ticket) : Fleet :=
  { f with jobs := f.jobs.erase ticket, ended := f.ended.filter (· ≠ ticket) }

/-- Gives up a task: its node keeps what `Task.withdraw` leaves, and its record is dropped. -/
def cancel (f : Fleet) (ticket : Ticket) : Fleet :=
  match f.job? ticket with
  | some (job, node) =>
    { f with nodes := f.nodes.insert job.server (job.task.withdraw ticket node) }.forget ticket
  | none => f.forget ticket

/-- The results of the given tasks, if all have ended, in the order of `ended`; their records are
    dropped by `forget`. -/
def collect (f : Fleet) (tickets : List Ticket) : Option (Fleet × List (Ticket × TaskResult)) :=
  if tickets.all fun ticket => (f.result? ticket).isSome then
    let results := (f.ended.filter (tickets.contains ·)).filterMap fun ticket =>
      (f.result? ticket).map fun result => (ticket, result)
    some (tickets.foldl forget f, results)
  else none

/-- Gives back the connection that a ticket holds on a server, by `Pool.release`. -/
def release (f : Fleet) (server : Endpoint) (ticket : Ticket) : Fleet :=
  f.update server fun node => ({ node with pool := node.pool.release ticket }, none)

/-! ## Start, sweeper, end -/

/-- Begins the start: from now on the nodes are `listening`, and announce their changes, and each
    has a `warmUp` spawned. -/
def launch (f : Fleet) : Fleet × List Ticket :=
  let f := { f with nodes := f.nodes.mapValues fun node => { node with listening := true } }
  f.spawnAll (f.nodes.keys.map fun server => (server, .warmUp true))

/-- How long the sweeper sleeps: as long as a dead node is left alone, `deadTimeout`, but no more
    than a second. -/
def sweepInterval (f : Fleet) : Duration :=
  min f.settings.deadTimeout (Duration.seconds 1)

/-- Puts the sweeper to sleep, for `sweepInterval`. -/
def rest (now : Time) (f : Fleet) : Fleet :=
  { f with sweeper := .asleep (now + f.sweepInterval) }

/-- Completes the start: the ring is rebuilt and the sweeper set up, unless there is one. -/
def settled (now : Time) (f : Fleet) : Fleet :=
  if f.sweeper = .absent then f.rebuild.rest now else f.rebuild

/-- The servers whose nodes have been dead, since `deadSince?`, for `deadTimeout` at least, and are
    to be probed. -/
def due (now : Time) (f : Fleet) : List Endpoint :=
  f.nodes.select fun node =>
    match node.deadSince? with
    | some since => f.settings.deadTimeout ≤ now - since
    | none => false

/-- **One turn of the sweeper**, unless it has to go on waiting. Awake, it spawns a `revive` for
    every server in `due` and waits for all of these before it sleeps again. -/
def sweep (now : Time) (f : Fleet) : Option Fleet :=
  match f.sweeper with
  | .absent => none
  | .asleep wake =>
    if now < wake then none
    else
      match f.due now with
      | [] => some (f.rest now)
      | due =>
        let (f, tickets) := f.spawnAll (due.map fun server => (server, .revive))
        some { f with sweeper := .probing tickets }
  | .probing tickets => (f.collect tickets).map fun (f, _) => f.rest now

/-- Closes every pool and ends the sweeper. A second disposal changes nothing.

    The sweeper ends at once. On a thread of its own, one whose sleep is over may still take the
    turn that it woke for, and spawn a probe (`Purpose.revive`) of each node in `Fleet.due`; what is
    said of everything that may follow a disposal allows for tasks that are spawned later. -/
def dispose (f : Fleet) : Fleet :=
  if f.disposed then f
  else
    { f with
      disposed := true
      sweeper := .absent
      nodes := f.nodes.mapValues fun node => { node with pool := node.pool.close } }

/-! ## What is shown -/

/-- The number of announcements that are kept for a subscriber. -/
def backlog : Nat := 64

/-- What a subscriber reads of `events`: how many announcements were lost, and the latest ones in
    order, `backlog` at most. -/
def drain (f : Fleet) : Fleet × Nat × List NodeEvent :=
  let lost := f.events.length - backlog
  ({ f with events := [] }, lost, f.events.drop lost)

/-- How a fleet is listed. -/
def listing (f : Fleet) : String :=
  "ServerPool \x7b nodes: [" ++ ", ".intercalate (f.nodes.map fun entry => entry.2.listing) ++
    "] \x7d"

end Fleet

end Memcache
