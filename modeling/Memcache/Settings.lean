import Memcache.Endpoint
import Memcache.Expiration
import Memcache.FailurePolicy
import Memcache.Key

/-!
# `Memcache.Settings` — what a client is told before it starts

## Contents

* `PoolSettings` — connections and waiting times for each server; `ClientSettings` — the servers,
  these settings, and the failure policy;
* `ConfigError`, `ClientSettings.validate` — the checks in their order;
* `ClientError` — the errors of a call, all of which are found before anything is sent.
-/

namespace Memcache

/-- Connections and waiting times for each server. -/
structure PoolSettings where
  /-- Connections opened at the start. -/
  minConnections : Nat := 10
  /-- The largest number of connections in use at one time. -/
  maxConnections : Nat := 20
  connectTimeout : Duration := Duration.seconds 10
  /-- The longest wait for each read of an answer. -/
  receiveTimeout : Duration := Duration.seconds 10
  /-- The longest wait for a connection while all are in use. -/
  queueTimeout : Duration := Duration.millis 100
  /-- How long a dead server is left alone before it is tried again. -/
  deadTimeout : Duration := Duration.seconds 10
  deriving DecidableEq, Repr

/-- What a client is told before it starts. -/
structure ClientSettings where
  servers : List Endpoint := []
  pool : PoolSettings := {}
  policy : PolicyChoice := .failImmediately
  deriving DecidableEq, Repr

/-- Why settings cannot be used. -/
inductive ConfigError where
  | noServers
  | invalidServer (e : EndpointError)
  | zeroMaxPool
  | minAboveMax (min max : Nat)
  | zeroTimeout (name : String)
  | zeroFailureThreshold
  deriving DecidableEq, Repr

/-- The wording of an error. -/
def ConfigError.message : ConfigError → String
  | .noServers => "no servers configured"
  | .invalidServer e => "invalid server address: " ++ e.message
  | .zeroMaxPool => "max pool size must be at least 1"
  | .minAboveMax min max => s!"min pool size {min} exceeds max pool size {max}"
  | .zeroTimeout name => name ++ " must be greater than zero"
  | .zeroFailureThreshold => "throttling policy needs at least one failure"

/-- Checks the settings of the connections. A `queueTimeout` of zero is allowed. -/
def PoolSettings.validate (s : PoolSettings) : Except ConfigError Unit :=
  if s.maxConnections = 0 then .error .zeroMaxPool
  else if s.maxConnections < s.minConnections then
    .error (.minAboveMax s.minConnections s.maxConnections)
  else if s.connectTimeout = 0 then .error (.zeroTimeout "connection timeout")
  else if s.receiveTimeout = 0 then .error (.zeroTimeout "receive timeout")
  else if s.deadTimeout = 0 then .error (.zeroTimeout "dead timeout")
  else .ok ()

/-- Checks the settings of a client: the `servers`, the connections, then the policy. -/
def ClientSettings.validate (s : ClientSettings) : Except ConfigError Unit :=
  if s.servers.isEmpty then .error .noServers
  else
    match s.pool.validate, s.policy with
    | .error e, _ => .error e
    | .ok _, .throttling 0 _ => .error .zeroFailureThreshold
    | .ok _, _ => .ok ()

/-- Adds a server that is given by its address. -/
def ClientSettings.addServer (s : ClientSettings) (address : String) :
    Except ConfigError ClientSettings :=
  match Endpoint.parse address with
  | .error e => .error (.invalidServer e)
  | .ok e => .ok { s with servers := s.servers ++ [e] }

/-! ## Errors of a call -/

/-- Why a call was refused. -/
inductive ClientError where
  | invalidKey (e : KeyError)
  | invalidExpiration (e : ExpirationError)
  | emptyKeySet
  | config (e : ConfigError)
  | disposed
  deriving DecidableEq, Repr

/-- The wording of an error. -/
def ClientError.message : ClientError → String
  | .invalidKey e => "invalid key: " ++ e.message
  | .invalidExpiration e => "invalid expiration: " ++ e.message
  | .emptyKeySet => "no keys given"
  | .config e => "invalid configuration: " ++ e.message
  | .disposed => "client has been disposed"

end Memcache
