import Memcache.Client
import Memcache.Sim.Network

/-!
# `Memcache.Sim.World` — a client, its network and the clock

In a world time passes only while everything waits, and then it jumps to the next moment at which
something can happen. Calls take turns in the order in which they were made. A call about one key
goes on whenever its turn comes; the tasks of a start, of a fan-out and of the sweeper run between
the turns.

A call may also be made apart from its caller, as a background activity of its own. If the caller
stops waiting for such calls, they are given up, but not before the next turn of the background.

## Contents

* `Errand`, `Call`, `Outturn` — what is to be done, for how long at most, and how it ended;
* `World.settle` — the turns of the background tasks;
* `World.run` — **one call, from its begin to its end**;
* `World.runApart` — **calls that are made apart from their caller**, who waits for all of them, or
  for as long as a time limit allows.
-/

namespace Memcache.Sim

/-! ## Worlds -/

/-- A client, its network and the clock. -/
structure World where
  client : Client := {}
  fleet : Fleet
  network : Network
  now : Time := 0
  /-- The time of day, for expirations. -/
  clock : WallTime
  /-- Tasks that go on only in the turns of their calls. -/
  foreground : List Ticket := []
  /-- Tasks that were given up and will be swept away in the next background turn. -/
  doomed : List Ticket := []

namespace World

/-- The number of steps after which a turn is broken off. No turn of a task that can end takes so
    many. -/
def patience : Nat := 1000000

/-- The number of turns after which a run is broken off. A sweeper that wakes up in every
    millisecond takes more than a hundred years for so many. -/
def lifetime : Nat := 10000000000000

/-- One step of a task, by `Fleet.step`, if it can go on. -/
def stepTask (w : World) (ticket : Ticket) : Option World :=
  match w.fleet.job? ticket with
  | none => none
  | some (job, node) =>
    let (arrival?, network) := w.network.poll w.now ticket (job.task.awaits ticket node)
    (w.fleet.step w.now ticket arrival?).map fun (fleet, effects) =>
      { w with
        fleet := fleet
        network := effects.foldl (fun n effect => n.perform w.now ticket effect) network }

/-- Takes a task to its next wait by `stepTask`; also says whether it went on at all. -/
def runTask (ticket : Ticket) : Nat → World → World × Bool
  | 0, w => (w, false)
  | fuel + 1, w =>
    match w.stepTask ticket with
    | none => (w, false)
    | some w => ((runTask ticket fuel w).1, true)

/-- One round of the background: `Fleet.sweep`, then every task that is not in `foreground`, in the
    order in which they were added. -/
def round (w : World) : World × Bool :=
  let (w, moved) := match w.fleet.sweep w.now with
    | some fleet => ({ w with fleet := fleet }, true)
    | none => (w, false)
  let tickets := w.fleet.jobs.keys.filter fun ticket => ¬ w.foreground.contains ticket
  tickets.foldl (fun (w, moved) ticket =>
    let (w, went) := w.runTask ticket patience
    (w, moved || went)) (w, moved)

/-- Rounds of the background by `round` until nothing goes on any more. -/
def rounds : Nat → World → World × Bool
  | 0, w => (w, false)
  | fuel + 1, w =>
    match w.round with
    | (w, true) => ((rounds fuel w).1, true)
    | (w, false) => (w, false)

/-- The turn of the background. Tasks in `doomed` go first. -/
def settle (w : World) : World × Bool :=
  let swept := { w with fleet := w.doomed.foldl Fleet.cancel w.fleet, doomed := [] }
  let (w', moved) := swept.rounds patience
  (w', moved || ¬ w.doomed.isEmpty)

/-- When the network or a deadline next lets a task go on. -/
def wakes (w : World) : List Time :=
  w.fleet.jobs.flatMap fun entry =>
    match w.fleet.job? entry.1 with
    | none => []
    | some (job, node) =>
      job.task.deadline?.toList ++
        (w.network.due? entry.1 (job.task.awaits entry.1 node)).toList

/-- When the sweeper wakes up. -/
def sweeperWake? (w : World) : Option Time :=
  match w.fleet.sweeper with
  | .asleep wake => some wake
  | _ => none

end World

/-! ## Calls -/

/-- What is to be done. -/
inductive Errand (α : Type) where
  /-- Let time pass. -/
  | sleep (d : Duration)
  /-- Something that takes no time. -/
  | act (change : World → World × α)
  /-- A task on one node. -/
  | task (server : Endpoint) (purpose : Purpose)
  /-- The start of the fleet. -/
  | start
  /-- A request to the client. -/
  | request (r : Request)

/-- How an errand ended. -/
inductive Outturn (α : Type) where
  | slept
  | acted (value : α)
  | ran (result : TaskResult)
  | started
  | answered (answer : Except ClientError Answer)
  /-- Time was up; a command had read this much of its answer. -/
  | cutOff (reply : Reply)

/-- Where a call stands. -/
inductive Phase (α : Type) where
  | fresh
  | sleeping (wake : Time)
  /-- Waiting for a task of its own. -/
  | working (ticket : Ticket)
  /-- Waiting for the servers of a plan, one of which may be asked in the foreground. -/
  | asking (r : Request) (plan : Plan) (servers : Table Ticket Endpoint)
  | starting (tickets : List Ticket)
  | over (outturn : Outturn α)

/-- An errand under way. -/
structure Call (α : Type) where
  errand : Errand α
  /-- The longest time that the errand may take. -/
  limit? : Option Duration := none
  /-- When that time is up. -/
  deadline? : Option Time := none
  phase : Phase α := .fresh

/-- The longest sleep: thirty years of 365 days. -/
def longestSleep : Duration := Duration.seconds (30 * 365 * 24 * 60 * 60)

namespace Call

variable {α : Type}

/-- How the call ended, once its `phase` is `over`. -/
def outturn? (c : Call α) : Option (Outturn α) :=
  match c.phase with
  | .over outturn => some outturn
  | _ => none

/-- The call with its end, `outturn`. -/
def finish (c : Call α) (outturn : Outturn α) : Call α :=
  { c with phase := .over outturn }

/-- The tasks that the call waits for in its `phase`. -/
def tickets (c : Call α) : List Ticket :=
  match c.phase with
  | .working ticket => [ticket]
  | .asking _ _ servers => servers.keys
  | .starting tickets => tickets
  | _ => []

/-- Begins to ask the servers of a plan, each for its part of `Plan.shares`. The one server of a
    single plan is asked in the foreground. -/
def ask (w : World) (c : Call α) (r : Request) (plan : Plan) : World × Call α :=
  let shares := plan.shares
  let (fleet, tickets) := w.fleet.spawnAll (shares.map fun share => (share.1, .execute share.2))
  let foreground := match plan with
    | .single .. => tickets
    | _ => []
  ({ w with fleet := fleet, foreground := foreground ++ w.foreground },
    { c with phase := .asking r plan (tickets.zip (shares.map Prod.fst)) })

/-- Begins an errand, and sets `deadline?` from `limit?`. -/
def begin (w : World) (c : Call α) : World × Call α :=
  let c := { c with deadline? := c.limit?.map fun limit => w.now + limit }
  match c.errand with
  | .sleep d => (w, { c with phase := .sleeping (w.now + min d longestSleep) })
  | .act change =>
    let (w, value) := change w
    (w, c.finish (.acted value))
  | .task server purpose =>
    let (fleet, ticket) := w.fleet.spawn server purpose
    ({ w with fleet := fleet, foreground := ticket :: w.foreground },
      { c with phase := .working ticket })
  | .start =>
    let (fleet, tickets) := w.fleet.launch
    ({ w with fleet := fleet }, { c with phase := .starting tickets })
  | .request r =>
    match w.client.plan w.clock w.fleet r with
    | .error e => (w, c.finish (.answered (.error e)))
    | .ok plan => ask w c r plan

/-- The response of a task that ran for a plan. -/
def response (servers : Table Ticket Endpoint) (entry : Ticket × TaskResult) : Option Response :=
  match servers.lookup entry.1, entry.2 with
  | some server, .executed outcome reply => some ⟨server, outcome, reply⟩
  | _, _ => none

/-- Goes on with a call whose tasks have gone as far as they can, once `Fleet.collect` has the
    results of all. -/
def proceed (w : World) (c : Call α) : World × Call α :=
  match c.phase with
  | .fresh | .over _ => (w, c)
  | .sleeping wake => if wake ≤ w.now then (w, c.finish .slept) else (w, c)
  | .working ticket =>
    match w.fleet.collect [ticket] with
    | some (fleet, (_, result) :: _) => ({ w with fleet := fleet }, c.finish (.ran result))
    | _ => (w, c)
  | .asking r plan servers =>
    match w.fleet.collect servers.keys with
    | some (fleet, results) =>
      let responses := results.filterMap (response servers)
      ({ w with fleet := fleet },
        c.finish (.answered (.ok (w.client.conclude r plan responses))))
    | none => (w, c)
  | .starting tickets =>
    match w.fleet.collect tickets with
    | some (fleet, _) => ({ w with fleet := fleet.settled w.now }, c.finish .started)
    | none => (w, c)

/-- Gives up a call. A task in the foreground is given up at once, by `Fleet.cancel`, one in the
    background in the next background turn. -/
def cutOff (w : World) (c : Call α) : World × Call α :=
  let (inner, outer) := c.tickets.partition (w.foreground.contains ·)
  let reply := match inner with
    | ticket :: _ => ((w.fleet.jobs.lookup ticket).map (·.task.replySoFar)).getD {}
    | [] => {}
  ({ w with fleet := inner.foldl Fleet.cancel w.fleet, doomed := w.doomed ++ outer },
    c.finish (.cutOff reply))

/-- The turn of a call, and whether anything happened in it. An end that falls on `deadline?` counts
    as an end. -/
def poll (w : World) (c : Call α) : World × Call α × Bool :=
  match c.phase with
  | .over _ => (w, c, false)
  | phase =>
    let (w, c, moved) := match phase with
      | .fresh => let (w, c) := begin w c; (w, c, true)
      | _ => (w, c, false)
    let (w, moved) := (c.tickets.filter (w.foreground.contains ·)).foldl
      (fun (w, moved) ticket =>
        let (w, went) := w.runTask ticket World.patience
        (w, moved || went)) (w, moved)
    let (w, c) := proceed w c
    let (w, c) := match c.outturn?, c.deadline? with
      | none, some deadline => if deadline ≤ w.now then cutOff w c else (w, c)
      | _, _ => (w, c)
    (w, c, moved || c.outturn?.isSome)

/-- When the call itself can go on. -/
def wakes (c : Call α) : List Time :=
  match c.phase with
  | .over _ => []
  | .sleeping wake => wake :: c.deadline?.toList
  | _ => c.deadline?.toList

end Call

/-! ## Runs -/

namespace World

variable {α : Type}

/-- The turns of all calls by `Call.poll`, in order, and whether anything happened in them. -/
def pollAll : World → List (Call α) → World × List (Call α) × Bool
  | w, [] => (w, [], false)
  | w, c :: rest =>
    let (w, c, moved) := c.poll w
    let (w, rest, movedLater) := w.pollAll rest
    (w, c :: rest, moved || movedLater)

/-- The next moment at which something can happen. -/
def nextMoment? (w : World) (deadline? : Option Time) (calls : List (Call α)) : Option Time :=
  ((w.wakes ++ w.sweeperWake?.toList ++ deadline?.toList ++ calls.flatMap Call.wakes).filter
    (w.now < ·)).min?

/-- Turns of the calls by `pollAll` and of the background by `settle` until all calls have ended,
    the deadline has come, or nothing can happen any more. -/
def drive (deadline? : Option Time) : Nat → World → List (Call α) → World × List (Call α)
  | 0, w, calls => (w, calls)
  | fuel + 1, w, calls =>
    if deadline?.any (· ≤ w.now) then (w, calls)
    else
      let (w, calls, polled) := w.pollAll calls
      if calls.all fun c => c.outturn?.isSome then (w, calls)
      else
        let (w, settled) := w.settle
        if polled || settled then drive deadline? fuel w calls
        else
          match w.nextMoment? deadline? calls with
          | none => (w, calls)
          | some time => drive deadline? fuel { w with now := time } calls

/-- **Makes a call** and lets the world go on until it has ended. A call that cannot end has no
    outturn. -/
def run (w : World) (c : Call α) : World × Option (Outturn α) :=
  let (w, calls) := drive none lifetime w [c]
  ({ w with foreground := [] }, calls.head?.bind Call.outturn?)

/-- Gives up calls that were made apart from their caller. Whatever they hold is swept away in the
    next background turn, with `doomed`. -/
def abandon (w : World) (calls : List (Call α)) : World :=
  { w with foreground := [], doomed := w.doomed ++ calls.flatMap Call.tickets }

/-- **Makes calls apart from their caller** and lets the world go on until all have ended. The
    background has its turn before the first of them and after the last. A caller whose time is up
    before they have all ended has no outturns, and the calls are given up. -/
def runApart (limit? : Option Duration) (w : World) (calls : List (Call α)) :
    World × Option (List (Option (Outturn α))) :=
  if calls.isEmpty then (w, some [])
  else
    let deadline? := limit?.map (w.now + ·)
    let w := if deadline?.any (· ≤ w.now) then w else w.settle.1
    let (w, calls) := drive deadline? lifetime w calls
    if deadline?.isSome && calls.any fun c => c.outturn?.isNone then (w.abandon calls, none)
    else ({ w.settle.1 with foreground := [] }, some (calls.map Call.outturn?))

end World

end Memcache.Sim
