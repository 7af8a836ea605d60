import Mathlib
import Memcache.Proofs.Fleet.Deeds

/-!
# `Memcache.Proofs.Fleet.Interleaving` — what comes between a check and what it was made for

`Fleet.act` does a deed in one go. Threads do not: `Pool.release` looks whether the pool is closed
and makes the connection idle later; `Fleet.notify` looks whether the fleet is disposed of, and
rebuilds the ring and publishes later; `Fleet.dispose` sets the flag first and closes one pool after
the other. An `Interleaving` is a fleet with the threads that are in the middle of something, each as
the list of the moves that it has still to make. Any thread may make the next move.

Nothing holds a thread back that has looked, so a flag may be set between its check and what it does
then. The steps with `orderly = true` are those in which this does not happen: whoever sets a flag
finds no thread past a check of it, and no start is completed once the fleet is disposed of.

## Contents

* `Pool.keep`, `Pool.vacate`, `Fleet.change` — the parts of `Pool.release` and `Fleet.update`;
* `Move`, `Move.make` — **one move, and what it makes its thread do next**;
* `Interleaving`, `Interleaving.NonePast`, `Interleaving.Step` — threads, and their moves;
* `Interleaving.act_steps` — **every deed that is done in one go is one of the runs**.
-/

namespace Memcache

/-! ## The parts of a return and of a change -/

namespace Pool

variable {p : Pool} {t : Ticket}

/-- Makes a connection idle, unless `Pool.idle` holds enough. -/
def keep (p : Pool) (c : Connection) : Pool :=
  if p.settings.maxConnections ≤ p.idle.length then p else { p with idle := p.idle ++ [c] }

/-- Takes back the permit of a ticket whose connection has come back, by `Pool.surrender`. -/
def vacate (p : Pool) (t : Ticket) : Pool :=
  match p.lease? t with
  | none => p
  | some _ => p.surrender t

/-- **Only an open pool keeps connections** that `Pool.stock` gives it. -/
theorem stock_eq_keep (p : Pool) (c : Connection) :
    p.stock c = if p.closed then p else p.keep c := by
  unfold stock keep
  by_cases hclosed : p.closed = true
  · rw [if_pos (.inl hclosed), if_pos hclosed]
  · rw [if_neg hclosed]
    simp [hclosed]

/-- Nobody's claim is concerned by `Pool.keep`. -/
theorem claims_keep (p : Pool) (c : Connection) : (p.keep c).claims = p.claims := by
  unfold keep
  split <;> rfl

theorem closed_keep (p : Pool) (c : Connection) : (p.keep c).closed = p.closed := by
  unfold keep
  split <;> rfl

theorem lease?_keep (p : Pool) (c : Connection) (t : Ticket) : (p.keep c).lease? t = p.lease? t := by
  unfold lease?
  rw [claims_keep]

theorem vacate_of_lease {lease : Lease} (h : p.lease? t = some lease) :
    p.vacate t = p.surrender t := by
  unfold vacate
  rw [h]

theorem vacate_of_none (h : p.lease? t = none) : p.vacate t = p := by
  unfold vacate
  rw [h]

/-- A return, `Pool.release`, is a connection that becomes idle, unless its lease is not sound, and
    then a permit. -/
theorem release_eq_vacate {lease : Lease} (h : p.lease? t = some lease) :
    p.release t = (if lease.sound then p.stock lease.connection else p).vacate t := by
  have hstock : (p.stock lease.connection).lease? t = some lease := by
    rw [stock_eq_keep]
    split
    · exact h
    · exact (p.lease?_keep lease.connection t).trans h
  unfold release
  rw [h]
  dsimp only
  split
  · exact (vacate_of_lease hstock).symm
  · exact (vacate_of_lease h).symm

/-- Whoever gives back a connection is not in the queue, and so `Pool.vacate` takes no place
    there. -/
theorem stays_vacate (p : Pool) (t : Ticket) {spared : Ticket → Prop} :
    p.Stays spared (p.vacate t) := by
  cases hlease : p.lease? t with
  | none =>
      rw [vacate_of_none hlease]
      exact .refl ..
  | some lease =>
      rw [vacate_of_lease hlease]
      have hback := p.stays_surrender t
      exact { hback with waits := fun k _ hwaits => hback.waits k (hwaits.ne_of_lease hlease) hwaits }

end Pool

namespace Fleet

variable {f : Fleet} {server : Endpoint}

/-- Changes a node as `Fleet.update` does; what it announces is not published yet. -/
def change (f : Fleet) (server : Endpoint) (change : Node → Node × Option NodeEvent) :
    Fleet × Option NodeEvent :=
  match f.nodes.lookup server with
  | none => (f, none)
  | some node =>
    ({ f with nodes := f.nodes.insert server (change node).1 }, (change node).2)

theorem update_eq_notify (f : Fleet) (server : Endpoint)
    (change : Node → Node × Option NodeEvent) :
    f.update server change = (f.change server change).1.notify (f.change server change).2 := by
  unfold update Fleet.change
  cases f.nodes.lookup server with
  | none => rfl
  | some node => rfl

/-- A `Fleet.change` that is not published yet concerns nodes only. -/
theorem change_eq (f : Fleet) (server : Endpoint) (change : Node → Node × Option NodeEvent) :
    (f.change server change).1.disposed = f.disposed ∧ (f.change server change).1.ring = f.ring ∧
      (f.change server change).1.events = f.events := by
  unfold Fleet.change
  split <;> exact ⟨rfl, rfl, rfl⟩

theorem jobs_change (f : Fleet) (server : Endpoint) (change : Node → Node × Option NodeEvent) :
    (f.change server change).1.jobs = f.jobs := by
  unfold Fleet.change
  split <;> rfl

theorem each_change {R : Node → Node → Prop} {change : Node → Node × Option NodeEvent}
    (hrefl : ∀ n, R n n) (hR : ∀ n, R n (change n).1) : f.Each R (f.change server change).1 := by
  unfold Fleet.change
  cases hnode : f.nodes.lookup server with
  | none => exact .of_eq hrefl rfl
  | some n => exact .of_insert hrefl hnode (hR n) rfl

/-- Changes the pool of one node. -/
def withPool (f : Fleet) (server : Endpoint) (change : Pool → Pool) : Fleet :=
  f.update server fun node => ({ node with pool := change node.pool }, none)

theorem withPool_of_lookup {node : Node} (hnode : f.nodes.lookup server = some node)
    (change : Pool → Pool) :
    f.withPool server change =
      { f with nodes := f.nodes.insert server { node with pool := change node.pool } } := by
  unfold withPool update
  rw [hnode]
  rfl

theorem withPool_of_none (hnode : f.nodes.lookup server = none) (change : Pool → Pool) :
    f.withPool server change = f := by
  unfold withPool update
  rw [hnode]

theorem lookup_withPool {node' : Node} {change : Pool → Pool}
    (hnode' : (f.withPool server change).nodes.lookup server = some node') :
    ∃ node, f.nodes.lookup server = some node ∧ node'.pool = change node.pool := by
  cases hnode : f.nodes.lookup server with
  | none =>
      rw [withPool_of_none hnode, hnode] at hnode'
      contradiction
  | some node =>
      rw [withPool_of_lookup hnode] at hnode'
      have hin : (f.nodes.insert server { node with pool := change node.pool }).lookup server =
          some { node with pool := change node.pool } := (Table.lookup_insert ..).trans (if_pos rfl)
      obtain rfl := Option.some.inj (hin.symm.trans hnode')
      exact ⟨node, rfl, rfl⟩

theorem lookup_withPool_of_ne {other : Endpoint} (h : server ≠ other) (change : Pool → Pool) :
    (f.withPool other change).nodes.lookup server = f.nodes.lookup server := by
  cases hnode : f.nodes.lookup other with
  | none => rw [withPool_of_none hnode]
  | some node =>
      rw [withPool_of_lookup hnode]
      exact (Table.lookup_insert ..).trans (if_neg h)

theorem withPool_congr {node : Node} {change change' : Pool → Pool}
    (hnode : f.nodes.lookup server = some node) (hchange : change node.pool = change' node.pool) :
    f.withPool server change = f.withPool server change' := by
  rw [withPool_of_lookup hnode, withPool_of_lookup hnode, hchange]

/-- Two changes of a pool are one. -/
theorem withPool_withPool (f : Fleet) (server : Endpoint) (change change' : Pool → Pool) :
    (f.withPool server change).withPool server change' =
      f.withPool server fun p => change' (change p) := by
  cases hnode : f.nodes.lookup server with
  | none => rw [withPool_of_none hnode, withPool_of_none hnode, withPool_of_none hnode]
  | some node =>
      rw [withPool_of_lookup hnode, withPool_of_lookup hnode]
      have hchanged : (f.nodes.insert server { node with pool := change node.pool }).lookup server =
          some { node with pool := change node.pool } :=
        (Table.lookup_insert ..).trans (if_pos rfl)
      rw [withPool_of_lookup hchanged, Table.insert_insert]

/-- A change of one pool after the other is a change of all. -/
theorem foldl_withPool (f : Fleet) (change : Pool → Pool) (before after : Table Endpoint Node)
    (hkeys : (Table.keys (before ++ after)).Nodup) :
    (Table.keys after).foldl (fun f server => f.withPool server change)
        { f with nodes := before ++ after } =
      { f with
        nodes :=
          before ++ Table.mapValues (fun node => { node with pool := change node.pool }) after } := by
  induction after generalizing before with
  | nil => rfl
  | cons entry after ih =>
      obtain ⟨server, node⟩ := entry
      have hnew : server ∉ Table.keys before := by
        unfold Table.keys at hkeys ⊢
        rw [List.map_append, List.nodup_append] at hkeys
        intro hmem
        exact hkeys.2.2 server hmem server List.mem_cons_self rfl
      have hchanged : Fleet.withPool { f with nodes := before ++ (server, node) :: after } server
            change =
          { f with
            nodes := (before ++ [(server, { node with pool := change node.pool })]) ++ after } := by
        rw [withPool_of_lookup (Table.lookup_append_cons hnew node after),
          Table.insert_append_cons hnew, List.append_assoc]
        rfl
      have hrest := ih (before ++ [(server, { node with pool := change node.pool })]) <| by
        simpa [Table.keys] using hkeys
      show (Table.keys after).foldl _ (Fleet.withPool _ server change) = _
      rw [hchanged, hrest, List.append_assoc]
      rfl

/-- Whether a server's pool is there, with `Pool.closed` not set. -/
def isOpen (f : Fleet) (server : Endpoint) : Bool :=
  (f.nodes.lookup server).any fun node => !node.pool.closed

theorem isOpen_of_lookup {node : Node} (hnode : f.nodes.lookup server = some node) :
    f.isOpen server = !node.pool.closed := by
  unfold isOpen
  rw [hnode]
  rfl

/-- What was done to the node before `Fleet.turned` is part of the turn. -/
theorem turned_insert (f : Fleet) (ticket : Ticket) (job : Job) (n : Node) (turn : Turn) :
    Fleet.turned { f with nodes := f.nodes.insert job.server n } ticket job turn =
      f.turned ticket job turn := by
  unfold turned
  rw [Table.insert_insert]

end Fleet

/-! ## Moves -/

/-- The deeds that are one move; the others are made of several. -/
def Deed.isOneMove : Deed → Bool
  | .step .. | .tend _ (.release _) | .tend _ .close | .markDead _ | .markAlive _ | .settled
  | .dispose => false
  | _ => true

/-- One move of a thread. -/
inductive Move where
  /-- A connection has come back: is `Pool.closed` set? -/
  | inspect (server : Endpoint) (c : Connection)
  /-- It was not, and the connection becomes idle, by `Pool.keep`. -/
  | keep (server : Endpoint) (c : Connection)
  /-- The permit that went with a connection is free, by `Pool.vacate`. -/
  | vacate (server : Endpoint) (holder : Ticket)
  /-- The node's policy hears how an attempt ended, by `Node.record`. -/
  | record (now : Time) (server : Endpoint) (success : Bool)
  /-- A task has its result, and is in `Fleet.ended`. -/
  | finish (ticket : Ticket) (job : Job) (result : TaskResult)
  /-- A warm-up has one connection more, and looks at the pool again. -/
  | again (ticket : Ticket) (job : Job)
  /-- A node calls its listener: is `Fleet.disposed` set? -/
  | notify (event : NodeEvent)
  /-- The ring follows, by `Fleet.rebuild`. -/
  | rebuild
  /-- The subscribers hear of it: it is in `Fleet.events`. -/
  | publish (event : NodeEvent)
  /-- A start sets up the sweeper, `Fleet.rest`, unless there is one. -/
  | setUp (now : Time)
  /-- The fleet is disposed of, unless `Fleet.disposed` is set. -/
  | dispose
  /-- The sweeper is stopped, and is `Sweeper.absent`. -/
  | halt
  /-- A pool refuses all callers from now on: `Pool.closed` is set. -/
  | close (server : Endpoint)
  /-- Its idle connections are closed, by `Pool.clearIdle`. -/
  | clearIdle (server : Endpoint)

/-- The call of a listener, `Move.notify`, if there is anything to announce. -/
def callback (event? : Option NodeEvent) : List Move :=
  event?.toList.map .notify

/-- What the holder of a connection does when it drops it: a sound one is looked at by
    `Move.inspect`, and the permit is free afterwards. -/
def giveBack (server : Endpoint) (holder : Ticket) (lease : Lease) : List Move :=
  if lease.sound then [.inspect server lease.connection, .vacate server holder]
  else [.vacate server holder]

/-- A warm-up that has one connection more, and begins again in `Stage.fresh`. -/
def Task.again (t : Task) : Task :=
  { t with stage := .fresh, opened := t.opened + 1 }

/-- **One move**: the fleet after it, and what the thread does next, before anything else that it had
    to do. -/
def Move.make (f : Fleet) : Move → Fleet × List Move
  | .inspect server c => (f, if f.isOpen server then [.keep server c] else [])
  | .keep server c => (f.withPool server (·.keep c), [])
  | .vacate server holder => (f.withPool server (·.vacate holder), [])
  | .record now server success =>
    let changed := f.change server (·.record now success)
    (changed.1, callback changed.2)
  | .finish ticket job result =>
    ({ f with
        jobs := f.jobs.insert ticket { job with task := job.task.finish result }
        ended := f.ended ++ [ticket] }, [])
  | .again ticket job =>
    ({ f with jobs := f.jobs.insert ticket { job with task := job.task.again } }, [])
  | .notify event => (f, if f.disposed then [] else [.rebuild, .publish event])
  | .rebuild => (f.rebuild, [])
  | .publish event => ({ f with events := f.events ++ [event] }, [])
  | .setUp now => (if f.sweeper = .absent then f.rest now else f, [])
  | .dispose =>
    if f.disposed then (f, [])
    else ({ f with disposed := true }, .halt :: f.nodes.keys.map .close)
  | .halt => ({ f with sweeper := .absent }, [])
  | .close server => (f.withPool server fun p => { p with closed := true }, [.clearIdle server])
  | .clearIdle server => (f.withPool server (·.clearIdle), [])

/-! ## Threads -/

/-- **The command of a task is over**: its node as the command leaves it, the `Reply` that was read
    of the answer, and how it ended. -/
inductive Task.Concluded (now : Time) (ticket : Ticket) (arrival? : Option Arrival) (n : Node)
    (t : Task) : Node → Reply → Except ConnectionError Unit → Prop where
  | heard {x : Exchange} {deadline : Time} {bs : Bytes} {lease : Lease}
      {result : Except ConnectionError Unit} (hstage : t.stage = .talking x deadline)
      (harrival : arrival? = some (.octets bs)) (hlease : n.pool.lease? ticket = some lease)
      (hverdict : (x.receive lease.connection bs).2.2 = .ended result) :
      Concluded now ticket arrival? n t
        { n with
          pool := n.pool.putLease ticket
            { lease with connection := (x.receive lease.connection bs).2.1 } }
        (x.receive lease.connection bs).1.reply result
  | interrupted {x : Exchange} {deadline : Time} {e : ConnectionError}
      (hstage : t.stage = .talking x deadline)
      (hunheard : ∀ bs lease, arrival? = some (.octets bs) → n.pool.lease? ticket ≠ some lease)
      (hbroken : interruption? now deadline n arrival? = some e) :
      Concluded now ticket arrival? n t n x.reply (.error e)

theorem Task.Concluded.step {now : Time} {ticket : Ticket} {arrival? : Option Arrival}
    {n n' : Node} {t : Task} {reply : Reply} {result : Except ConnectionError Unit}
    {command : Command} (h : t.Concluded now ticket arrival? n n' reply result)
    (hpurpose : t.purpose = .execute command) :
    t.step now ticket arrival? n = some (t.ended now ticket n' reply result) := by
  have hholder : t.holder ticket = ticket := by
    unfold holder
    rw [hpurpose]
  rw [step_eq_some_iff]
  cases h with
  | @heard x deadline bs lease result hstage harrival hlease hverdict =>
      have hheard : t.Listened now ticket arrival? n x deadline _ :=
        .heard harrival (hholder.symm ▸ hlease)
      rw [hverdict, hholder] at hheard
      exact .listened hstage hheard
  | interrupted hstage hunheard hbroken =>
      exact .listened hstage (.interrupted (hholder.symm ▸ hunheard) hbroken)

/-- The result of a task of `Purpose.execute` whose command is over, by `Node.outcome`. -/
def TaskResult.ofCommand (reply : Reply) : Except ConnectionError Unit → TaskResult
  | .ok _ => .executed (Node.outcome reply) reply
  | .error e => .executed (.fail .transportError e.message) reply

theorem Task.ended_of_execute {now : Time} {ticket : Ticket} {n : Node} {t : Task}
    {command : Command} (hpurpose : t.purpose = .execute command) (reply : Reply)
    (result : Except ConnectionError Unit) :
    t.ended now ticket n reply result =
      t.account now
        { n with pool := (n.pool.settle ticket (Verdict.succeeded result)).release ticket }
        (Verdict.succeeded result) (.ofCommand reply result) := by
  unfold ended
  rw [hpurpose]
  cases result with
  | ok _ | error e => rfl

/-- A warm-up that has a connection begins again (`Task.again`), with one more in the pool. -/
theorem Task.connected_of_warmUp (now : Time) (ticket : Ticket) (n : Node) (link : Nat) {t : Task}
    {counted : Bool} (hpurpose : t.purpose = .warmUp counted) :
    t.connected now ticket n link =
        t.again.start now ticket { n with pool := n.pool.stock { link := link } } ∧
      (t.connected now ticket n link).event? = none := by
  obtain ⟨purpose, stage, opened⟩ := t
  obtain rfl : purpose = .warmUp counted := hpurpose
  unfold again connected start stockUp
  dsimp only
  split <;> exact ⟨rfl, rfl⟩

/-- A fleet with the `threads` that are in the middle of something. -/
structure Interleaving where
  fleet : Fleet
  /-- What each thread has still to do. -/
  threads : List (List Move) := []

namespace Interleaving

/-- All that any of the `threads` has still to do. -/
def ahead (s : Interleaving) : List Move :=
  s.threads.flatten

/-- One thread more. -/
def begin (s : Interleaving) (thread : List Move) : Interleaving :=
  { s with threads := s.threads ++ [thread] }

/-- **No thread is past a check of the flag that the move sets**: none is about to do `Move.rebuild`
    or `Move.publish` while a fleet is being disposed of, and none `Move.keep` while its pool is
    being closed. -/
def NonePast (s : Interleaving) : Move → Prop
  | .dispose => .rebuild ∉ s.ahead ∧ ∀ event, .publish event ∉ s.ahead
  | .close server => ∀ c, .keep server c ∉ s.ahead
  | _ => True

theorem nonePast_nil (f : Fleet) (m : Move) : NonePast ⟨f, []⟩ m := by
  cases m with
  | dispose => exact ⟨List.not_mem_nil, fun _ => List.not_mem_nil⟩
  | close server => exact fun _ => List.not_mem_nil
  | _ => trivial

/-- **One step.** With `orderly`, a move that sets a flag is made only if `NonePast` says so, and no
    start is completed on a fleet that is disposed of. -/
inductive Step (orderly : Bool) (s : Interleaving) : Interleaving → Prop where
  | deed (now : Time) {deed : Deed} {f : Fleet} (hone : deed.isOneMove = true)
      (hact : s.fleet.act now deed = some f) : Step orderly s { s with fleet := f }
  /-- A task has its turn, `Task.step`, and calls the listener of its node later. -/
  | turn (now : Time) (ticket : Ticket) (arrival? : Option Arrival) {job : Job} {node : Node}
      {turn : Turn} (hjob : s.fleet.job? ticket = some (job, node))
      (hturn : job.task.step now ticket arrival? node = some turn) :
      Step orderly s
        (begin { s with fleet := s.fleet.turned ticket job { turn with event? := none } }
          (callback turn.event?))
  /-- The command of an executing task is over, and its connection and its result are still in the
      hands of the thread. -/
  | conclude (now : Time) (ticket : Ticket) (arrival? : Option Arrival) {job : Job}
      {node node' : Node} {command : Command} {reply : Reply} {lease : Lease}
      {result : Except ConnectionError Unit} (hjob : s.fleet.job? ticket = some (job, node))
      (hpurpose : job.task.purpose = .execute command)
      (hconcluded : job.task.Concluded now ticket arrival? node node' reply result)
      (hlease : (node'.pool.settle ticket (Verdict.succeeded result)).lease? ticket = some lease) :
      Step orderly s
        (begin
          { s with
            fleet := { s.fleet with
              nodes := s.fleet.nodes.insert job.server
                { node' with pool := node'.pool.settle ticket (Verdict.succeeded result) }
              jobs := s.fleet.jobs.erase ticket } }
          (giveBack job.server ticket lease ++
            [.record now job.server (Verdict.succeeded result),
              .finish ticket job (.ofCommand reply result)]))
  /-- A warm-up has its connection in hand. -/
  | connect (ticket : Ticket) (link : Nat) {job : Job} {node : Node} {counted : Bool}
      {deadline : Time} (hjob : s.fleet.job? ticket = some (job, node))
      (hpurpose : job.task.purpose = .warmUp counted)
      (hstage : job.task.stage = .dialling deadline) :
      Step orderly s
        (begin { s with fleet := { s.fleet with jobs := s.fleet.jobs.erase ticket } }
          [.inspect job.server { link := link }, .again ticket job])
  /-- A flag flips, or is found as it should be, and the listener is called later. -/
  | mark (now : Time) (server : Endpoint) {change : Node → Node × Option NodeEvent}
      (hchange : ∀ n : Node, n.Marks now (change n)) :
      Step orderly s
        (begin { s with fleet := (s.fleet.change server change).1 }
          (callback (s.fleet.change server change).2))
  /-- A holder drops its connection, and looks at the pool later. -/
  | drop {server : Endpoint} {node : Node} {holder : Ticket} {lease : Lease}
      (hnode : s.fleet.nodes.lookup server = some node)
      (hlease : node.pool.lease? holder = some lease) :
      Step orderly s (s.begin (giveBack server holder lease))
  /-- A start is being completed, and its ring is built later. -/
  | settle (now : Time) (horderly : orderly = true → s.fleet.disposed = false) :
      Step orderly s (s.begin [.rebuild, .setUp now])
  | dispose : Step orderly s (s.begin [.dispose])
  | close (server : Endpoint) : Step orderly s (s.begin [.close server])
  /-- A thread makes its next move, `Move.make`. -/
  | move (before after : List (List Move)) {m : Move} {rest : List Move}
      (hthreads : s.threads = before ++ (m :: rest) :: after)
      (horderly : orderly = true → s.NonePast m) :
      Step orderly s {
        fleet := (m.make s.fleet).1
        threads := before ++ ((m.make s.fleet).2 ++ rest) :: after }
  /-- A thread has nothing left to do. -/
  | leave (before after : List (List Move)) (hthreads : s.threads = before ++ [] :: after) :
      Step orderly s { s with threads := before ++ after }

/-- Steps one after the other, all `orderly` or any. -/
abbrev Steps (orderly : Bool) : Interleaving → Interleaving → Prop :=
  Relation.ReflTransGen (Step orderly)

/-! ## Deeds in one go -/

section OneGo
variable {orderly : Bool} {f f' : Fleet} {threads : List (List Move)} {server : Endpoint}

/-- The last thread makes its next move. -/
theorem move_last {m : Move} {more rest : List Move} (hmake : m.make f = (f', more))
    (horderly : orderly = true → NonePast ⟨f, threads ++ [m :: rest]⟩ m) :
    Steps orderly ⟨f, threads ++ [m :: rest]⟩ ⟨f', threads ++ [more ++ rest]⟩ := by
  have hmove : Steps orderly ⟨f, threads ++ [m :: rest]⟩ _ :=
    .single (.move threads [] rfl horderly)
  rwa [hmake] at hmove

/-- Any thread makes its next move, whatever the others are past. -/
theorem move_among (before after : List (List Move)) (m : Move) (rest : List Move) :
    Step false ⟨f, before ++ (m :: rest) :: after⟩
      ⟨(m.make f).1, before ++ ((m.make f).2 ++ rest) :: after⟩ :=
  .move before after rfl nofun

/-- The last thread has nothing left to do. -/
theorem leave_last : Steps orderly ⟨f, threads ++ [[]]⟩ ⟨f, threads⟩ := by
  have hleave : Steps orderly ⟨f, threads ++ [[]]⟩ ⟨f, threads ++ []⟩ :=
    .single (.leave threads [] rfl)
  rwa [List.append_nil] at hleave

/-- An announcement is published, as by `Fleet.notify`, without being disturbed. -/
theorem callback_steps (event? : Option NodeEvent) (rest : List Move) :
    Steps orderly ⟨f, threads ++ [callback event? ++ rest]⟩
      ⟨f.notify event?, threads ++ [rest]⟩ := by
  cases event? with
  | none => exact .refl
  | some event =>
      by_cases hdisposed : f.disposed = true
      · have hmake : Move.make f (.notify event) = (f, []) :=
          congrArg (Prod.mk f) (if_pos hdisposed)
        rw [Fleet.notify_of_disposed f _ hdisposed]
        exact move_last hmake fun _ => trivial
      · have hmake : Move.make f (.notify event) = (f, [.rebuild, .publish event]) :=
          congrArg (Prod.mk f) (if_neg hdisposed)
        have hpublished : f.notify (some event) =
            { f.rebuild with events := f.events ++ [event] } := if_neg hdisposed
        rw [hpublished]
        refine (move_last hmake fun _ => trivial).trans ?_
        refine (move_last (m := .rebuild) rfl fun _ => trivial).trans ?_
        exact move_last (m := .publish event) rfl fun _ => trivial

theorem callback_last (event? : Option NodeEvent) :
    Steps orderly ⟨f, threads ++ [callback event?]⟩ ⟨f.notify event?, threads⟩ := by
  have hcallback : Steps orderly ⟨f, threads ++ [callback event? ++ []]⟩ ⟨f.notify event?, threads⟩ :=
    (callback_steps event? []).trans leave_last
  rwa [List.append_nil] at hcallback

/-- A flag that flips is announced at once, as by `Fleet.update`. -/
theorem update_steps (now : Time) {change : Node → Node × Option NodeEvent}
    (hchange : ∀ n : Node, n.Marks now (change n)) :
    Steps orderly ⟨f, threads⟩ ⟨f.update server change, threads⟩ := by
  rw [Fleet.update_eq_notify]
  exact .head (.mark now server hchange) (callback_last _)

/-- A connection that has come back becomes idle, as by `Pool.stock`, if its pool is open and nobody
    closes it in between. -/
theorem inspect_steps {node : Node} (c : Connection) (rest : List Move)
    (hnode : f.nodes.lookup server = some node) :
    Steps orderly ⟨f, threads ++ [.inspect server c :: rest]⟩
      ⟨f.withPool server (·.stock c), threads ++ [rest]⟩ := by
  have hstock := node.pool.stock_eq_keep c
  have hopen := Fleet.isOpen_of_lookup hnode
  by_cases hclosed : node.pool.closed = true
  · have hinspect : Move.make f (.inspect server c) = (f, []) := by
      simp [Move.make, hopen, hclosed]
    rw [if_pos hclosed] at hstock
    have hfleet : f.withPool server (·.stock c) = f := by
      rw [Fleet.withPool_of_lookup hnode, hstock, Table.insert_of_lookup hnode]
    rw [hfleet]
    exact move_last hinspect fun _ => trivial
  · have hinspect : Move.make f (.inspect server c) = (f, [.keep server c]) := by
      simp [Move.make, hopen, hclosed]
    rw [if_neg hclosed] at hstock
    have hfleet : f.withPool server (·.stock c) = f.withPool server (·.keep c) :=
      Fleet.withPool_congr hnode hstock
    rw [hfleet]
    refine (move_last hinspect fun _ => trivial).trans ?_
    exact move_last (m := .keep server c) rfl fun _ => trivial

/-- A connection is given back, as by `Pool.release`, without the holder being disturbed. -/
theorem giveBack_steps {node : Node} {holder : Ticket} {lease : Lease} (rest : List Move)
    (hnode : f.nodes.lookup server = some node) (hlease : node.pool.lease? holder = some lease) :
    Steps orderly ⟨f, threads ++ [giveBack server holder lease ++ rest]⟩
      ⟨f.withPool server (·.release holder), threads ++ [rest]⟩ := by
  have hrelease := Pool.release_eq_vacate hlease
  unfold giveBack
  by_cases hsound : lease.sound = true
  · rw [if_pos hsound] at hrelease ⊢
    have hfleet : f.withPool server (·.release holder) =
        (f.withPool server (·.stock lease.connection)).withPool server (·.vacate holder) := by
      rw [Fleet.withPool_withPool]
      exact Fleet.withPool_congr hnode hrelease
    rw [hfleet]
    refine (inspect_steps lease.connection _ hnode).trans ?_
    exact move_last (m := .vacate server holder) rfl fun _ => trivial
  · rw [if_neg hsound] at hrelease ⊢
    have hfleet : f.withPool server (·.release holder) = f.withPool server (·.vacate holder) :=
      Fleet.withPool_congr hnode hrelease
    rw [hfleet]
    exact move_last (m := .vacate server holder) rfl fun _ => trivial

/-- A return in one go, `Pool.release`. -/
theorem release_steps (holder : Ticket) :
    Steps orderly ⟨f, threads⟩ ⟨f.withPool server (·.release holder), threads⟩ := by
  cases hnode : f.nodes.lookup server with
  | none =>
      rw [Fleet.withPool_of_none hnode]
  | some node =>
      cases hlease : node.pool.lease? holder with
      | none =>
          have hrelease : node.pool.release holder = node.pool := by
            unfold Pool.release
            rw [hlease]
          rw [Fleet.withPool_of_lookup hnode, hrelease, Table.insert_of_lookup hnode]
      | some lease =>
          have hback : Steps orderly ⟨f, threads ++ [giveBack server holder lease ++ []]⟩ _ :=
            (giveBack_steps [] hnode hlease).trans leave_last
          rw [List.append_nil] at hback
          exact .head (.drop hnode hlease) hback

/-- The pools of the listed servers are closed one after the other. -/
theorem close_steps (servers : List Endpoint)
    (horderly : orderly = true → ∀ server, NonePast ⟨f, threads⟩ (.close server)) :
    Steps orderly ⟨f, threads ++ [servers.map .close]⟩
      ⟨servers.foldl (fun f server => f.withPool server (·.close)) f, threads⟩ := by
  induction servers generalizing f with
  | nil => exact leave_last
  | cons server servers ih =>
      have hclosed : (f.withPool server fun p => { p with closed := true }).withPool server
          (·.clearIdle) = f.withPool server (·.close) := Fleet.withPool_withPool ..
      refine (move_last (m := .close server) rfl ?_).trans ?_
      · intro htrue c hkeep
        exact horderly htrue server c (by simpa [ahead] using hkeep)
      refine (move_last (m := .clearIdle server) rfl fun _ => trivial).trans ?_
      rw [hclosed]
      exact ih horderly

/-- A disposal in one go, `Fleet.dispose`. -/
theorem dispose_steps (hkeys : f.nodes.keys.Nodup)
    (horderly : orderly = true → ∀ m, NonePast ⟨f, threads⟩ m) :
    Steps orderly ⟨f, threads⟩ ⟨f.dispose, threads⟩ := by
  have hpast : orderly = true → NonePast ⟨f, threads ++ [[.dispose]]⟩ .dispose := by
    intro htrue
    simpa [NonePast, ahead] using horderly htrue .dispose
  refine .head .dispose ?_
  unfold Fleet.dispose
  by_cases hdisposed : f.disposed = true
  · have hmake : Move.make f .dispose = (f, []) := if_pos hdisposed
    rw [if_pos hdisposed]
    exact (move_last hmake hpast).trans leave_last
  · have hmake : Move.make f .dispose =
        ({ f with disposed := true }, .halt :: f.nodes.keys.map .close) := if_neg hdisposed
    rw [if_neg hdisposed]
    refine (move_last hmake hpast).trans ?_
    refine (move_last (m := .halt) rfl fun _ => trivial).trans ?_
    show Steps orderly ⟨_, threads ++ [f.nodes.keys.map Move.close ++ []]⟩ _
    rw [List.append_nil]
    have hclosed : Steps orderly
        ⟨{ f with disposed := true, sweeper := .absent },
          threads ++ [f.nodes.keys.map Move.close]⟩ _ :=
      close_steps f.nodes.keys fun htrue server => horderly htrue (.close server)
    have hnodes := Fleet.foldl_withPool { f with disposed := true, sweeper := .absent }
      Pool.close [] f.nodes hkeys
    exact hnodes ▸ hclosed

/-- A start is completed in one go, `Fleet.settled`. -/
theorem settled_steps (now : Time) (horderly : orderly = true → f.disposed = false) :
    Steps orderly ⟨f, threads⟩ ⟨f.settled now, threads⟩ := by
  have hsettled : f.settled now = if f.sweeper = .absent then f.rebuild.rest now else f.rebuild := rfl
  rw [hsettled]
  refine .head (.settle now horderly) ?_
  refine (move_last (m := .rebuild) rfl fun _ => trivial).trans ?_
  exact (move_last (m := .setUp now) rfl fun _ => trivial).trans leave_last

/-- An attempt is accounted for by `Move.record`, and its task gets its result. -/
theorem account_steps (now : Time) (success : Bool) (ticket : Ticket) (job : Job)
    (result : TaskResult) :
    Steps orderly ⟨f, threads ++ [[.record now server success, .finish ticket job result]]⟩
      ⟨(Move.make (f.update server (·.record now success)) (.finish ticket job result)).1,
        threads⟩ := by
  refine (move_last (m := .record now server success) rfl fun _ => trivial).trans ?_
  refine (callback_steps _ _).trans ?_
  rw [← Fleet.update_eq_notify]
  exact (move_last (m := .finish ticket job result) rfl fun _ => trivial).trans leave_last

/-- Accounting for an attempt and then listing its task as ended is a turn of the task,
    `Task.account`, but for the order in which `Fleet.jobs` lists the tasks. -/
theorem finish_update {n : Node} (now : Time) (success : Bool) (ticket : Ticket) (job : Job)
    (jobs : Table Ticket Job) (result : TaskResult) (hnode : f.nodes.lookup job.server = some n) :
    (Move.make (Fleet.update { f with jobs := jobs } job.server (·.record now success))
        (.finish ticket job result)).1 =
      { f.turned ticket job (job.task.account now n success result) with
        jobs := jobs.insert ticket { job with task := job.task.finish result } } := by
  unfold Fleet.update Fleet.turned Task.account
  rw [hnode]
  dsimp only
  cases (n.record now success).2 with
  | none => rfl
  | some event =>
      unfold Fleet.notify
      dsimp only
      split <;> rfl

/-- **The end of a command in one go**, up to the order in which `Fleet.jobs` lists the tasks. -/
theorem conclude_steps {now : Time} {ticket : Ticket} {arrival? : Option Arrival} {job : Job}
    {node node' : Node} {command : Command} {reply : Reply} {lease : Lease}
    {result : Except ConnectionError Unit} (hjob : f.job? ticket = some (job, node))
    (hpurpose : job.task.purpose = .execute command)
    (hconcluded : job.task.Concluded now ticket arrival? node node' reply result)
    (hlease : (node'.pool.settle ticket (Verdict.succeeded result)).lease? ticket = some lease) :
    ∃ turn jobs, job.task.step now ticket arrival? node = some turn ∧
      Steps orderly ⟨f, threads⟩ ⟨{ f.turned ticket job turn with jobs := jobs }, threads⟩ ∧
      ∀ k, jobs.lookup k = (f.turned ticket job turn).jobs.lookup k := by
  have hturn := hconcluded.step hpurpose
  rw [Task.ended_of_execute hpurpose] at hturn
  refine ⟨_, (f.jobs.erase ticket).insert ticket
    { job with task := job.task.finish (.ofCommand reply result) }, hturn, ?_, ?_⟩
  · have hin : ∀ n, (f.nodes.insert job.server n).lookup job.server = some n :=
      fun n => (Table.lookup_insert ..).trans (if_pos rfl)
    refine .head (.conclude now ticket arrival? hjob hpurpose hconcluded hlease) ?_
    refine (giveBack_steps _ (hin _) hlease).trans ?_
    rw [Fleet.withPool_of_lookup (hin _), Table.insert_insert]
    generalize hn : { node' with pool := (node'.pool.settle ticket _).release ticket } = n
    refine (account_steps ..).trans ?_
    have hfinish := finish_update (f := { f with nodes := f.nodes.insert job.server n }) now
      (Verdict.succeeded result) ticket job (f.jobs.erase ticket) (.ofCommand reply result) (hin n)
    rw [Fleet.turned_insert] at hfinish
    exact hfinish ▸ .refl
  · intro k
    rw [Fleet.turned, Fleet.notify_jobs, Table.lookup_insert, Table.lookup_insert]
    by_cases hk : k = ticket
    · rw [if_pos hk, if_pos hk]
      rfl
    · rw [if_neg hk, if_neg hk, Table.lookup_erase, if_neg hk]

section WarmUp
variable {ticket : Ticket} {job : Job} {node : Node} {counted : Bool} {deadline : Time} (link : Nat)
  (hjob : f.job? ticket = some (job, node)) (hpurpose : job.task.purpose = .warmUp counted)
  (hstage : job.task.stage = .dialling deadline)
include hjob hpurpose hstage

/-- A warm-up that has a connection gives it to its pool, and is about to begin again. -/
theorem again_steps :
    Steps orderly ⟨f, threads⟩
      ⟨{ f with
          nodes := f.nodes.insert job.server { node with pool := node.pool.stock { link := link } }
          jobs := (f.jobs.erase ticket).insert ticket
            { job with task := job.task.again } }, threads⟩ := by
  obtain ⟨-, hnode⟩ := Fleet.job?_eq_some_iff.mp hjob
  let f₁ : Fleet := { f with jobs := f.jobs.erase ticket }
  have hnode₁ : f₁.nodes.lookup job.server = some node := hnode
  have hinspect : Steps orderly
      ⟨f₁, threads ++ [[.inspect job.server { link := link }, .again ticket job]]⟩ _ :=
    inspect_steps { link := link } _ hnode₁
  rw [Fleet.withPool_of_lookup hnode₁] at hinspect
  refine .head (.connect ticket link hjob hpurpose hstage) (hinspect.trans ?_)
  exact (move_last (m := .again ticket job) rfl fun _ => trivial).trans leave_last

/-- **The turn of a warm-up that has its connection, in one go**, up to the order in which
    `Fleet.jobs` lists the tasks. -/
theorem connect_steps (now : Time) :
    ∃ turn jobs, job.task.step now ticket (some (.connected link)) node = some turn ∧
      Steps orderly ⟨f, threads⟩ ⟨{ f.turned ticket job turn with jobs := jobs }, threads⟩ ∧
      ∀ k, jobs.lookup k = (f.turned ticket job turn).jobs.lookup k := by
  let node' := { node with pool := node.pool.stock { link := link } }
  let jobs := (f.jobs.erase ticket).insert ticket { job with task := job.task.again }
  let f' : Fleet := { f with nodes := f.nodes.insert job.server node', jobs := jobs }
  obtain ⟨hconnected, hquiet⟩ := Task.connected_of_warmUp now ticket node link hpurpose
  have hturn : job.task.step now ticket (some (.connected link)) node =
      some (job.task.connected now ticket node link) :=
    Task.step_eq_some_iff.mpr (.connected hstage rfl)
  rw [hconnected] at hturn hquiet
  have hjob' : f'.job? ticket = some ({ job with task := job.task.again }, node') :=
    Fleet.job?_eq_some_iff.mpr ⟨(Table.lookup_insert ..).trans (if_pos rfl),
      (Table.lookup_insert ..).trans (if_pos rfl)⟩
  have hbegun : job.task.again.step now ticket none node' =
      some (job.task.again.start now ticket node') := Task.step_eq_some_iff.mpr (.begun rfl)
  generalize job.task.again.start now ticket node' = turn at hturn hquiet hbegun
  refine ⟨turn, jobs.insert ticket { job with task := turn.task }, hturn, ?_, fun k => ?_⟩
  · refine (again_steps link hjob hpurpose hstage).trans ?_
    refine .head (.turn now ticket none hjob' hbegun) ((callback_last turn.event?).trans ?_)
    have hturned :
        (f'.turned ticket { job with task := job.task.again } { turn with event? := none }).notify
            turn.event? =
          { f.turned ticket job turn with
            jobs := jobs.insert ticket { job with task := turn.task } } := by
      unfold Fleet.turned
      simp only [hquiet, Fleet.notify, f', Table.insert_insert]
    exact hturned ▸ .refl
  · rw [Fleet.turned, Fleet.notify_jobs, Table.lookup_insert, Table.lookup_insert,
      Table.lookup_insert, Table.lookup_erase]
    by_cases hk : k = ticket
    · rw [if_pos hk, if_pos hk]
    · rw [if_neg hk, if_neg hk, if_neg hk, if_neg hk]

end WarmUp

/-- **Every deed that `Fleet.act` does in one go is one of the runs**, whatever other threads are in
    the middle of. -/
theorem act_steps {now : Time} {deed : Deed} (hkeys : f.nodes.keys.Nodup)
    (hact : f.act now deed = some f') (horderly : orderly = true → ∀ m, NonePast ⟨f, threads⟩ m)
    (hsettled : orderly = true → deed = .settled → f.disposed = false) :
    Steps orderly ⟨f, threads⟩ ⟨f', threads⟩ := by
  have hone : deed.isOneMove = true → Steps orderly ⟨f, threads⟩ ⟨f', threads⟩ :=
    fun hone => .single (.deed now hone hact)
  cases deed with
  | spawn | forget | cancel | sweep | launch | drain => exact hone rfl
  | step ticket arrival? =>
      obtain ⟨⟨f'', effects⟩, hstep, rfl⟩ := Option.map_eq_some_iff.mp hact
      obtain ⟨job, node, turn, hjob, hturn, rfl, -⟩ := Fleet.step_eq_some hstep
      refine .head (.turn now ticket arrival? hjob hturn) ?_
      exact callback_last turn.event?
  | tend server tending =>
      cases tending with
      | discard | clearIdle => exact hone rfl
      | release holder =>
          obtain rfl := Option.some.inj hact
          exact release_steps holder
      | close =>
          obtain rfl := Option.some.inj hact
          exact .head (.close server) (close_steps [server] fun htrue server => horderly htrue _)
  | markDead server =>
      obtain rfl := Option.some.inj hact
      exact update_steps now fun _ => .dead
  | markAlive server =>
      obtain rfl := Option.some.inj hact
      exact update_steps now fun _ => .alive
  | settled =>
      obtain rfl := Option.some.inj hact
      exact settled_steps now fun htrue => hsettled htrue rfl
  | dispose =>
      obtain rfl := Option.some.inj hact
      exact dispose_steps hkeys horderly

/-- So are `Fleet.Runs`, deeds that are done in one go one after the other. -/
theorem runs_steps {allowed : Deed → Prop} (hrun : f.Runs allowed f') (hkeys : f.nodes.keys.Nodup)
    (horderly : orderly = true → ∀ f m, NonePast ⟨f, threads⟩ m)
    (hsettled : orderly = true → ∀ deed, allowed deed → deed ≠ .settled) :
    Steps orderly ⟨f, threads⟩ ⟨f', threads⟩ := by
  induction hrun using Relation.ReflTransGen.head_induction_on with
  | refl => exact .refl
  | head hfirst _ ih =>
      obtain ⟨now, deed, hallowed, hact⟩ := hfirst
      refine (act_steps hkeys hact (fun htrue => horderly htrue _) fun htrue hdeed => ?_).trans
        (ih ((Fleet.kept_act hact).keys hkeys))
      exact absurd hdeed (hsettled htrue deed hallowed)

end OneGo

end Interleaving

end Memcache
