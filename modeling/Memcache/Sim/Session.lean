import Memcache.Sim.World

/-!
# `Memcache.Sim.Session` — a client for one request

## Contents

* `unstarted`, `connect` — a client before its start, and after it;
* `serve` — a client that is started, asked once, and done with.
-/

namespace Memcache.Sim

/-- A world with a client that has not been started. -/
def unstarted (network : Network) (clock : WallTime) (settings : ClientSettings)
    (client : Client := {}) (policy? : Option PolicyChoice := none) : World where
  client := client
  fleet := .ofServers settings.servers settings.pool (policy?.getD settings.policy)
  network := network
  clock := clock

/-- A world whose client has been started, unless its settings are refused. Another failure policy
    than that of the settings may be used; it is not checked. -/
def connect (network : Network) (clock : WallTime) (settings : ClientSettings)
    (client : Client := {}) (policy? : Option PolicyChoice := none) : Except ClientError World :=
  match settings.validate with
  | .error e => .error (.config e)
  | .ok _ =>
    .ok ((unstarted network clock settings client policy?).run
      ({ errand := .start } : Call Unit)).1

/-- The answer to one request. A request that can never end is answered as if the client had been
    disposed of, with `ClientError.disposed`. -/
def serve (network : Network) (clock : WallTime) (settings : ClientSettings) (r : Request) :
    Except ClientError Answer :=
  match connect network clock settings with
  | .error e => .error e
  | .ok w =>
    match (w.run ({ errand := .request r } : Call Unit)).2 with
    | some (.answered answer) => answer
    | _ => .error .disposed

end Memcache.Sim
