import Memcache.Sim.Server
import Memcache.Task

/-!
# `Memcache.Sim.Network` — a network in memory

A network of hosts that accept or refuse connections and answer requests as they are told to, each
event at its time. Requests arrive at once; what comes back travels on the connection in the order
in which it was sent, and nothing overtakes what is in front of it.

## Contents

* `Host`, `Greeting`, `Reaction` — a host and how it is told to behave;
* `Link` — one connection; `Piece` — what travels on it;
* `Network.perform` — what a task asks of the network;
* `Network.poll` — what the network has for a task by now; `Network.due?` — when it will have more.
-/

namespace Memcache.Sim

/-! ## Hosts -/

/-- What a host does with an attempt to connect. -/
inductive Greeting where
  | accept
  | refuse
  /-- The attempt never ends. -/
  | ignore
  | acceptAfter (delay : Duration)
  deriving DecidableEq, Repr

/-- The end of a stream. -/
inductive Ending where
  | close
  | reset
  deriving DecidableEq, Repr

/-- A packet of a prepared answer. Its tag counts from the first tag of the request, and without an
    operation of its own it takes the last one of the request. -/
structure Template where
  packet : Packet
  opcode? : Option UInt8 := none
  deriving DecidableEq, Repr

/-- Where the octets of an answer come from. -/
inductive Script where
  /-- The server answers. -/
  | serve
  | packets (templates : List Template)
  | raw (bs : Bytes)
  deriving DecidableEq, Repr

/-- What a host does with a request. -/
structure Reaction where
  script : Script := .serve
  /-- The time before the first piece. -/
  delay : Duration := 0
  /-- The length of a piece, where the answer comes in several. -/
  chunk? : Option Nat := none
  /-- The time between two pieces. -/
  gap : Duration := Duration.millis 1
  /-- What follows the last piece. -/
  ending? : Option Ending := none
  deriving DecidableEq, Repr

/-- A request as a host noted it down. -/
structure LogEntry where
  /-- The number of the connection. -/
  connection : Nat
  packets : List Packet
  deriving DecidableEq, Repr

/-- A host. -/
structure Host where
  up : Bool := true
  /-- What is done with the next attempts to connect; all later ones are accepted. -/
  greetings : List Greeting := []
  /-- What is done with the next requests; the server answers all later ones. -/
  reactions : List Reaction := []
  server : Server := {}
  attempts : Nat := 0
  accepted : Nat := 0
  log : List LogEntry := []
  deriving DecidableEq, Repr

/-! ## Connections -/

/-- What travels on a connection towards the client. -/
inductive Piece where
  | octets (bs : Bytes)
  | ending (e : Ending)
  deriving DecidableEq, Repr

/-- A connection to a host. -/
structure Link where
  host : String
  /-- The number of the connection on its host. -/
  number : Nat
  /-- True once the host has gone down. -/
  severed : Bool := false
  /-- What was received and is no complete packet yet. -/
  unparsed : Bytes := []
  /-- The quiet packets that wait for the packet ending their request. -/
  quiet : List Packet := []
  /-- What is on its way to the client, each piece with the time of its arrival. -/
  inbound : List (Time × Piece) := []
  /-- The time before which nothing arrives that is sent from now on. -/
  reach : Time := 0
  deriving DecidableEq, Repr

/-- An attempt to connect that is under way. -/
inductive Dial where
  | refused
  | ignored
  | ready (host : String) (time : Time)
  deriving DecidableEq, Repr

/-- A network. -/
structure Network where
  hosts : Table String Host := []
  links : Table Nat Link := []
  /-- The attempts under way, each under the ticket of its task. -/
  dials : Table Ticket Dial := []
  deriving DecidableEq, Repr

namespace Reaction

/-- Cuts octets into pieces of a length. -/
def cut (length : Nat) (bs : Bytes) : List Bytes :=
  if _h : bs = [] ∨ length = 0 then [bs]
  else if shorterThan bs (length + 1) then [bs]
  else bs.take length :: cut length (bs.drop length)
termination_by bs.length
decreasing_by
  simp only [not_or] at _h
  have : 0 < bs.length := List.length_pos_iff.mpr _h.1
  simp only [List.length_drop]
  omega

/-- Pieces at regular times. -/
def schedule (gap : Duration) : Time → List Bytes → List (Time × Piece)
  | _, [] => []
  | time, bs :: rest => (time, .octets bs) :: schedule gap (time + gap) rest

/-- The pieces of an answer, of `chunk?` octets each if it comes in several. -/
def pieces (r : Reaction) (answer : Bytes) : List Bytes :=
  if answer.isEmpty then []
  else
    match r.chunk? with
    | some length => cut length answer
    | none => [answer]

/-- When an answer has left as a whole. An answer without octets takes its `delay`, too. -/
def finish (r : Reaction) (now : Time) (answer : Bytes) : Time :=
  now + r.delay + ((r.pieces answer).length - 1) * r.gap

/-- What is sent as an answer: its `pieces` with the times of their arrival, and what `ending?` says
    behind them. -/
def deliver (r : Reaction) (now : Time) (answer : Bytes) : List (Time × Piece) :=
  schedule r.gap (now + r.delay) (r.pieces answer) ++
    r.ending?.toList.map fun e => (r.finish now answer, .ending e)

end Reaction

namespace Network

/-! ## Requests -/

/-- The answer to a request as the `Script` says: its octets, and the server after it. -/
def answer (server : Server) (request : List Packet) : Script → Server × Bytes
  | .serve =>
    let (server, replies) := server.respondAll request
    (server, replies.flatMap Packet.encode)
  | .packets templates =>
    let base := (request.head?.map (·.tag)).getD 0
    let op := (request.getLast?.map (·.opcode)).getD 0
    (server, templates.flatMap fun t =>
      { t.packet with opcode := t.opcode?.getD op, tag := t.packet.tag + base }.encode)
  | .raw bs => (server, bs)

/-- Takes in a complete request: it is noted down in the log, and the answer is sent off by
    `deliver`. -/
def serve (now : Time) (h : Host) (l : Link) (request : List Packet) : Host × Link :=
  let reaction := h.reactions.headD {}
  let (server, bs) := answer h.server request reaction.script
  ({ h with
      server := server
      reactions := h.reactions.tail
      log := h.log ++ [{ connection := l.number, packets := request }] },
    { l with
      inbound := l.inbound ++
        (reaction.deliver now bs).map fun piece => (max l.reach piece.1, piece.2)
      reach := max l.reach (reaction.finish now bs) })

/-- Takes in packets. A request is one packet, or `quiet` packets and the packet that ends them. -/
def serveAll (now : Time) (h : Host) (l : Link) : List Packet → Host × Link
  | [] => (h, l)
  | p :: rest =>
    let request := l.quiet ++ [p]
    if Opcode.isQuiet p.opcode then serveAll now h { l with quiet := request } rest
    else
      let (h, l) := serve now h { l with quiet := [] } request
      serveAll now h l rest

/-- Sends octets to a host. A `severed` connection swallows them. -/
def send (now : Time) (link : Nat) (bs : Bytes) (n : Network) : Network :=
  match n.links.lookup link with
  | none => n
  | some l =>
    match n.hosts.lookup l.host with
    | none => n
    | some h =>
      if l.severed then n
      else
        let decoder : Decoder := { Decoder.requests with maxBody := UInt32.size }
        let drained := decoder.drain (l.unparsed ++ bs)
        let (h', l') := serveAll now h { l with unparsed := drained.rest } drained.packets
        { n with hosts := n.hosts.insert l.host h', links := n.links.insert link l' }

/-! ## Attempts to connect -/

/-- Begins an attempt. An unknown host refuses, and so does one that is down, whatever it was told
    to do. -/
def dial (now : Time) (ticket : Ticket) (address : String) (n : Network) : Network :=
  match n.hosts.lookup address with
  | none => { n with dials := n.dials.insert ticket .refused }
  | some h =>
    let h := { h with attempts := h.attempts + 1 }
    if h.up then
      let dial := match h.greetings.headD .accept with
        | .accept => Dial.ready address now
        | .refuse => .refused
        | .ignore => .ignored
        | .acceptAfter delay => .ready address (now + delay)
      { n with
        hosts := n.hosts.insert address { h with greetings := h.greetings.tail }
        dials := n.dials.insert ticket dial }
    else
      { n with hosts := n.hosts.insert address h, dials := n.dials.insert ticket .refused }

/-- Does what a task asks for, by `dial` or `send`. -/
def perform (now : Time) (ticket : Ticket) (n : Network) : Effect → Network
  | .dial endpoint => n.dial now ticket endpoint.address
  | .send link bs => n.send now link bs

/-- Accepts a connection. -/
def accept (n : Network) (address : String) : Network × Nat :=
  let link := n.links.length
  let number := ((n.hosts.lookup address).map (·.accepted + 1)).getD 0
  ({ n with
      hosts := n.hosts.modify address fun h => { h with accepted := number }
      links := n.links.insert link { host := address, number := number } }, link)

/-- The end of the attempt of a task in `dials`, if it has come. -/
def pollDial (now : Time) (ticket : Ticket) (n : Network) : Option Arrival × Network :=
  let done := { n with dials := n.dials.erase ticket }
  match n.dials.lookup ticket with
  | some .refused => (some .refused, done)
  | some (.ready address time) =>
    if time ≤ now then
      let (n, link) := done.accept address
      (some (.connected link), n)
    else (none, n)
  | _ => (none, n)

/-! ## What has arrived -/

/-- What a connection has in `inbound` for its reader, who takes at most `window` octets of one
    piece. Ends of the stream stay. -/
def pollLink (now : Time) (link window : Nat) (n : Network) : Option Arrival × Network :=
  match n.links.lookup link with
  | none => (none, n)
  | some l =>
    if l.severed then (some .endOfStream, n)
    else
      match l.inbound with
      | [] => (none, n)
      | (time, piece) :: rest =>
        if now < time then (none, n)
        else
          match piece with
          | .ending .close => (some .endOfStream, n)
          | .ending .reset => (some .reset, n)
          | .octets bs =>
            let left := bs.drop window
            let inbound := if left.isEmpty then rest else (time, .octets left) :: rest
            (some (.octets (bs.take window)),
              { n with links := n.links.insert link { l with inbound := inbound } })

/-- What the network has for a task by now, by what is `Awaited`. -/
def poll (now : Time) (ticket : Ticket) (n : Network) : Awaited → Option Arrival × Network
  | .nothing => (none, n)
  | .connection => n.pollDial now ticket
  | .octets link window => n.pollLink now link window

/-- When the network will have something for a task. -/
def due? (ticket : Ticket) (n : Network) : Awaited → Option Time
  | .nothing => none
  | .connection =>
    match n.dials.lookup ticket with
    | some (.ready _ time) => some time
    | _ => none
  | .octets link _ =>
    match n.links.lookup link with
    | none => none
    | some l => l.inbound.head?.map Prod.fst

/-! ## Changes from outside -/

/-- Brings a host up, or takes it down with all its connections, which are `severed`. -/
def setUp (address : String) (up : Bool) (n : Network) : Network :=
  { n with
    hosts := n.hosts.modify address fun h => { h with up := up }
    links :=
      if up then n.links
      else
        n.links.mapValues fun l => if l.host = address then { l with severed := true } else l }

end Network

end Memcache.Sim
