import Memcache.CommandLine
import Memcache.Sim.Session

/-!
# `Memcache.Sim.Program` — the program on a network

The words of a command line and all that they bring about. A client is started as soon as there is a
command and all addresses are right; whether the command makes sense is looked at after that. What
the network is left with is part of the result.

## Contents

* `Episode` — what becomes of a run;
* `ask` — one request to a client that has been started;
* `program` — **the whole program**.
-/

namespace Memcache.Sim

/-- What becomes of a run of the program. -/
structure Episode where
  /-- What is printed, unless the run waits for ever. -/
  printout? : Option CommandLine.Printout
  /-- The network as it is left. -/
  network : Network

/-- The exit code. -/
def Episode.exit? (e : Episode) : Option Nat :=
  e.printout?.map (·.exit)

/-- One request to a client that has been started. -/
def ask (w : World) (r : Request) : Episode :=
  match w.run ({ errand := .request r } : Call Unit) with
  | (w, some (.answered answer)) =>
    { printout? := some (CommandLine.present answer), network := w.network }
  | (w, _) => { printout? := none, network := w.network }

/-- **The whole program.** Nothing touches the network before the addresses are known to be right.
    The command is looked at when the client has been started. -/
def program (network : Network) (clock : WallTime) (words : List String) : Episode :=
  match CommandLine.prepare words with
  | .error printout => { printout? := some printout, network := network }
  | .ok (settings, name, arguments) =>
    match settings.validate with
    | .error e =>
      { printout? := some (CommandLine.present (.error (.config e))), network := network }
    | .ok _ =>
      match (unstarted network clock settings).run ({ errand := .start } : Call Unit) with
      | (w, some .started) =>
        match CommandLine.request name arguments with
        | .error message =>
          { printout? := some (CommandLine.usage message), network := w.network }
        | .ok r => ask w r
      | (w, _) => { printout? := none, network := w.network }

end Memcache.Sim
