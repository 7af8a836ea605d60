import Memcache.Connection
import Memcache.Settings

/-!
# `Memcache.Pool` — the connections to one server

A pool lends connections, one command at a time. The right to hold one is a permit, of which there
are as many as connections may be in use. A caller without a permit waits its turn; a permit that is
given back goes to the caller that has waited longest and only then becomes free. With a permit, a
caller takes the connection that has been idle longest, or opens a new one.

Each caller is known by a ticket, and the pool records what every ticket holds. Whoever drives the
callers decides when they wait, time out, connect or are cancelled; each of these is one function
here, so an invariant of the pool is an invariant of each function.

## Contents

* `Claim` — what a ticket holds; `Lease` — a lent connection;
* `Pool.enter`, `Pool.resume`, `Pool.opened`, `Pool.withdraw` — the way to a connection;
* `Pool.release` — the way back: **first the connection becomes idle, then the permit is free**;
* `Pool.clearIdle`, `Pool.close`.
-/

namespace Memcache

/-- The number of one caller of a pool. -/
abbrev Ticket := Nat

/-- Why a caller got no connection. -/
inductive PoolError where
  | queueTimeout (limit : Duration)
  | closed
  | connect (e : ConnectionError)
  deriving DecidableEq, Repr

/-- The wording of an error. -/
def PoolError.message : PoolError → String
  | .queueTimeout limit => "no connection available within " ++ limit.text
  | .closed => "connection pool is closed"
  | .connect e => e.message

/-- A lent connection. -/
structure Lease where
  connection : Connection
  /-- True while the connection may be used again: the last that was done with it was a command that
      succeeded, or nothing was done with it yet. -/
  sound : Bool := true
  deriving DecidableEq, Repr

/-- What a ticket holds. -/
inductive Claim where
  /-- Nothing yet: the caller waits for a permit. -/
  | waiting
  /-- A permit that was handed over; the caller has not gone on yet. -/
  | granted
  /-- A permit, while a connection is being opened. -/
  | opening
  /-- A permit and a connection. -/
  | lent (lease : Lease)
  deriving DecidableEq, Repr

/-- The connections to one server. -/
structure Pool where
  endpoint : Endpoint
  settings : PoolSettings
  /-- Permits that no ticket holds. -/
  permits : Nat
  /-- What each ticket holds, in the order in which the tickets came. -/
  claims : Table Ticket Claim := []
  /-- Connections that nobody uses, the longest idle first. -/
  idle : List Connection := []
  closed : Bool := false
  deriving DecidableEq, Repr

/-- The answer to a caller that asks for a connection. -/
inductive Admission where
  /-- Wait for a permit. -/
  | queued
  /-- An idle connection is lent. -/
  | lent
  /-- Open a connection. -/
  | opening
  /-- The pool is closed. -/
  | refused
  deriving DecidableEq, Repr

namespace Pool

/-- How many permits there are in all: `maxConnections`, and at least one. -/
def size (settings : PoolSettings) : Nat :=
  max settings.maxConnections 1

/-- A pool without connections, all of whose permits are free. -/
def new (endpoint : Endpoint) (settings : PoolSettings) : Pool :=
  { endpoint := endpoint, settings := settings, permits := size settings }

/-- Passes a permit to the first ticket that is `waiting` for one, which is `granted` then. -/
def handOver : Table Ticket Claim → Option (Table Ticket Claim)
  | [] => none
  | (t, .waiting) :: rest => some ((t, .granted) :: rest)
  | c :: rest => (handOver rest).map (c :: ·)

/-- Gives a permit back. It goes to the longest waiting ticket by `handOver`; on a `closed` pool
    nobody waits. -/
def freePermit (p : Pool) : Pool :=
  match if p.closed then none else handOver p.claims with
  | some claims => { p with claims := claims }
  | none => { p with permits := p.permits + 1 }

/-- Makes a connection idle, unless the pool is `closed` or holds `maxConnections` idle ones. -/
def stock (p : Pool) (c : Connection) : Pool :=
  if p.closed ∨ p.settings.maxConnections ≤ p.idle.length then p
  else { p with idle := p.idle ++ [c] }

/-- Goes on with a permit in hand: the first of `idle` is lent, or else a connection is to be
    opened. -/
def proceed (p : Pool) (t : Ticket) : Pool × Admission :=
  match p.idle with
  | c :: rest =>
    ({ p with idle := rest, claims := p.claims.insert t (.lent { connection := c }) }, .lent)
  | [] => ({ p with claims := p.claims.insert t .opening }, .opening)

/-- Asks for a connection: with a free permit the ticket goes on by `proceed`, without one it
    waits. -/
def enter (p : Pool) (t : Ticket) : Pool × Admission :=
  if p.closed then (p, .refused)
  else if p.permits = 0 then ({ p with claims := p.claims.insert t .waiting }, .queued)
  else { p with permits := p.permits - 1 }.proceed t

/-- Ends a claim that holds a permit, and gives the permit back by `freePermit`. -/
def surrender (p : Pool) (t : Ticket) : Pool :=
  { p with claims := p.claims.erase t }.freePermit

/-- Goes on after a wait: with the permit that was `granted`, or without hope once the pool is
    `closed`. Nothing happens while there is neither. -/
def resume (p : Pool) (t : Ticket) : Option (Pool × Admission) :=
  match p.claims.lookup t with
  | some .granted => some (if p.closed then (p.surrender t, .refused) else p.proceed t)
  | some .waiting =>
    if p.closed then some ({ p with claims := p.claims.erase t }, .refused) else none
  | _ => none

/-- Records that the connection `link` which a ticket was `opening` is there. -/
def opened (p : Pool) (t : Ticket) (link : Nat) : Pool :=
  { p with claims := p.claims.modify t fun _ => .lent { connection := { link := link } } }

/-- The lease of a ticket to which a connection is `lent`. -/
def lease? (p : Pool) (t : Ticket) : Option Lease :=
  match p.claims.lookup t with
  | some (.lent lease) => some lease
  | _ => none

/-- Replaces the lease of a ticket that has one. -/
def putLease (p : Pool) (t : Ticket) (lease : Lease) : Pool :=
  { p with
    claims := p.claims.modify t fun
      | .lent _ => .lent lease
      | other => other }

/-- Ends a command on a lent connection, which is `sound` again if the command succeeded. -/
def settle (p : Pool) (t : Ticket) (success : Bool) : Pool :=
  match success, p.lease? t with
  | true, some lease => p.putLease t { lease with sound := true }
  | _, _ => p

/-- Takes back a lent connection. A `sound` one becomes idle by `stock`, before its permit is given
    back by `surrender`. -/
def release (p : Pool) (t : Ticket) : Pool :=
  match p.lease? t with
  | none => p
  | some lease => (if lease.sound then p.stock lease.connection else p).surrender t

/-- Ends a claim from outside: a place in the queue is given up, a permit is given back by
    `surrender`, a lent connection by `release`. -/
def withdraw (p : Pool) (t : Ticket) : Pool :=
  match p.claims.lookup t with
  | none => p
  | some .waiting => { p with claims := p.claims.erase t }
  | some .granted | some .opening => p.surrender t
  | some (.lent _) => p.release t

/-- Gives up a lent connection: it is not `sound`, and is closed when it comes back. -/
def discard (p : Pool) (t : Ticket) : Pool :=
  match p.lease? t with
  | none => p
  | some lease => p.putLease t { lease with sound := false }

/-- Closes all idle connections. -/
def clearIdle (p : Pool) : Pool :=
  { p with idle := [] }

/-- Closes all idle connections, and refuses all callers from now on. -/
def close (p : Pool) : Pool :=
  { p.clearIdle with closed := true }

/-- How many connections the pool opens at the start: `minConnections`, and no more than
    `maxConnections`. -/
def warmTarget (p : Pool) : Nat :=
  min p.settings.minConnections p.settings.maxConnections

/-- How a pool is listed. -/
def listing (p : Pool) : String :=
  "ConnectionPool \x7b endpoint: Endpoint(" ++ Text.quoted p.endpoint.address ++ "), idle: " ++
    toString p.idle.length ++ ", available: " ++ toString p.permits ++ " \x7d"

end Pool

end Memcache
