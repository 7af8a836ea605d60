import Memcache.Endpoint
import Memcache.Table
import Memcache.Text.Numeral

/-!
# `Memcache.Statistics` — the figures of several servers

Each server that answered contributes one table of names and values. A value is a number if it is
written as one, without blanks around it.

## Contents

* `Statistics`, `Statistics.add`;
* `Statistics.value?`, `Statistics.number?` — one figure of one server;
* `Statistics.sum` — one figure over all servers.
-/

namespace Memcache

/-- The tables of the servers that answered. -/
structure Statistics where
  tables : Table Endpoint (Table String String) := []
  deriving DecidableEq, Repr

namespace Statistics

/-- Adds the `table` of a server. -/
def add (s : Statistics) (server : Endpoint) (table : Table String String) : Statistics :=
  { tables := s.tables.insert server table }

/-- A figure of a server as it was sent, under its `name`. -/
def value? (s : Statistics) (server : Endpoint) (name : String) : Option String :=
  match s.tables.lookup server with
  | none => none
  | some table => table.lookup name

/-- A figure of a server that is a number by `parseU64?`. -/
def number? (s : Statistics) (server : Endpoint) (name : String) : Option UInt64 :=
  match s.value? server name with
  | none => none
  | some text => Text.parseU64? text.toList

/-- The sum of a figure over all servers. Servers that lack it, or for which it is no number, do not
    count. -/
def sum (s : Statistics) (name : String) : UInt64 :=
  (s.tables.keys.filterMap fun server => s.number? server name).foldl (· + ·) 0

end Statistics

end Memcache
