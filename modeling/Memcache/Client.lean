import Memcache.Fleet
import Memcache.Settings
import Memcache.Statistics
import Memcache.Value

/-!
# `Memcache.Client` — what a caller asks, and what becomes of it

A request is first checked as a whole. It becomes an error, an answer that needs no server, or a
plan that names the servers to ask and what to ask them. Only a plan reaches the fleet. What the
servers then answered is put together in the order in which it came.

## Contents

* `Request`, `Answer`; `Client` — the forms in which keys and values are sent;
* `Plan`, `Client.plan` — **every check comes before the first effect**;
* `Batch` — the keys of a batched read by their owners; `Batch.merge` — the found values under the
  caller's own keys;
* `Client.conclude` — the answer to the caller.
-/

namespace Memcache

/-! ## Requests and answers -/

/-- What a caller asks. A CAS of 0 sets no condition. -/
inductive Request where
  | get (key : String)
  | getWithCas (key : String)
  | getMany (keys : List String)
  | getManyWithCas (keys : List String)
  | store (mode : StoreMode) (key : String) (value : Value) (expiration : Expiration)
      (cas : UInt64)
  | mutate (mode : MutateMode) (key : String) (initial delta : UInt64) (expiration : Expiration)
      (cas : UInt64)
  | concat (mode : ConcatMode) (key : String) (data : Bytes) (cas : UInt64)
  | remove (key : String)
  | flush (delay : Duration)
  | stats (filter : Option String)
  deriving DecidableEq, Repr

/-- What a caller gets. -/
inductive Answer where
  | read (outcome : Outcome Value)
  | readWithCas (found? : Option (Versioned Value))
  | many (found : Table String Value)
  | manyWithCas (found : Table String (Versioned Value))
  | changed (outcome : Outcome Unit)
  | counted (outcome : Outcome UInt64)
  | flushed (outcomes : Table Endpoint (Outcome Unit))
  | statistics (figures : Statistics)
  deriving DecidableEq, Repr

/-- What one server made of its command. -/
structure Response where
  server : Endpoint
  outcome : Outcome Unit
  reply : Reply
  deriving DecidableEq, Repr

/-- The forms in which keys and values are sent. -/
structure Client where
  keys : KeyTransform := .plain
  transcoder : Transcoder := .standard

/-! ## Batched reads -/

/-- A batched read. -/
structure Batch where
  /-- The caller's key for every key that is sent. -/
  callerKeys : Table String String := []
  /-- The keys that are sent to each server. -/
  shares : Table Endpoint (List String) := []
  deriving DecidableEq, Repr

namespace Batch

/-- Adds a key to the share of the server that `locate` finds. A key without a living owner is left
    out. -/
def assign (locate : String → Option Endpoint) (key : String) (b : Batch) : Batch :=
  match locate key with
  | none => b
  | some server =>
    { b with shares := b.shares.insert server ((b.shares.lookup server).getD [] ++ [key]) }

/-- The batch of the keys of `callerKeys`, each put into a share by `assign`. -/
def of (locate : String → Option Endpoint) (callerKeys : Table String String) : Batch :=
  callerKeys.keys.foldl (fun b key => b.assign locate key) { callerKeys := callerKeys }

/-- Adds the items of one server, if its outcome is a success, to what was `found`. Items under keys
    that nobody asked for, and items that cannot be decoded, are left out. -/
def absorb (b : Batch) (t : Transcoder) (found : Table String (Versioned Value)) (r : Response) :
    Table String (Versioned Value) :=
  if r.outcome.success then
    r.reply.found.foldl (fun found entry =>
      match b.callerKeys.lookup entry.1, t.deserialize entry.2.value with
      | some key, .ok value => found.insert key ⟨value, entry.2.cas⟩
      | _, _ => found) found
  else found

/-- Everything that was found by `absorb` in the responses, under the caller's keys. -/
def merge (b : Batch) (t : Transcoder) (responses : List Response) :
    Table String (Versioned Value) :=
  responses.foldl (b.absorb t) []

end Batch

/-! ## Plans -/

/-- What has to be asked to answer a request. -/
inductive Plan where
  /-- Nothing. -/
  | settled (answer : Answer)
  /-- The owner of the key, if it has a living one. -/
  | single (server? : Option Endpoint) (command : Command)
  /-- Every owner of a key, each for its share. -/
  | batch (batch : Batch)
  /-- All living servers, each the same. -/
  | broadcast (servers : List Endpoint) (command : Command)
  deriving DecidableEq, Repr

/-- The commands of a plan, each with its server. -/
def Plan.shares : Plan → List (Endpoint × Command)
  | .settled _ => []
  | .single server? command => server?.toList.map fun server => (server, command)
  | .batch b => b.shares.map fun share => (share.1, .multiGet share.2)
  | .broadcast servers command => servers.map fun server => (server, command)

namespace Client

/-- The key that is sent for the caller's key: what `keys` makes of it, if `Key.validate` accepts
    that. -/
def wireKey (c : Client) (key : String) : Except ClientError String :=
  match c.keys.apply key with
  | .error e => .error (.invalidKey e)
  | .ok wire =>
    match Key.validate wire with
    | .error e => .error (.invalidKey e)
    | .ok _ => .ok wire

/-- The caller's key for every key that is sent, by `wireKey`. Of two callers' keys with the same
    sent key the later one counts. -/
def callerKeys (c : Client) : List String → Table String String →
    Except ClientError (Table String String)
  | [], table => .ok table
  | key :: keys, table =>
    match c.wireKey key with
    | .error e => .error e
    | .ok wire => c.callerKeys keys (table.insert wire key)

/-- The number that is sent for an expiration, by `Expiration.encodeAt`. -/
def encodeExpiration (clock : WallTime) (e : Expiration) : Except ClientError UInt32 :=
  match e.encodeAt clock with
  | .error e => .error (.invalidExpiration e)
  | .ok n => .ok n

/-- **The plan of a request.** A `disposed` fleet refuses everything. Then the keys are checked by
    `wireKey`, the expiration by `encodeExpiration`, and last the value by `serialize`. -/
def plan (c : Client) (clock : WallTime) (f : Fleet) (r : Request) : Except ClientError Plan :=
  let keyed (key : String) (make : String → Except ClientError Plan) : Except ClientError Plan :=
    match c.wireKey key with
    | .error e => .error e
    | .ok wire => make wire
  let batched (keys : List String) : Except ClientError Plan :=
    if keys.isEmpty then .error .emptyKeySet
    else
      match c.callerKeys keys [] with
      | .error e => .error e
      | .ok table => .ok (.batch (.of f.locate table))
  if f.disposed then .error .disposed
  else
    match r with
    | .get key | .getWithCas key =>
      keyed key fun wire => .ok (.single (f.locate wire) (.get wire))
    | .getMany keys | .getManyWithCas keys => batched keys
    | .store mode key value expiration cas =>
      keyed key fun wire =>
        match encodeExpiration clock expiration with
        | .error e => .error e
        | .ok expires =>
          match c.transcoder.serialize value with
          | .error e => .ok (.settled (.changed (.fail .localFailure e.message)))
          | .ok item => .ok (.single (f.locate wire) (.store mode wire item expires cas))
    | .mutate mode key initial delta expiration cas =>
      keyed key fun wire =>
        match encodeExpiration clock expiration with
        | .error e => .error e
        | .ok expires =>
          .ok (.single (f.locate wire) (.mutate mode wire initial delta expires cas))
    | .concat mode key data cas =>
      keyed key fun wire => .ok (.single (f.locate wire) (.concat mode wire data cas))
    | .remove key => keyed key fun wire => .ok (.single (f.locate wire) (.delete wire 0))
    | .flush delay =>
      match encodeExpiration clock (.after delay) with
      | .error e => .error e
      | .ok n => .ok (.broadcast f.working (.flush n))
    | .stats filter => .ok (.broadcast f.working (.stats filter))

/-! ## Answers -/

/-- The outcome of a request for a key without a living owner, of status `noAvailableNode`. -/
def unowned : Outcome Unit :=
  .fail .noAvailableNode "no live server for key"

/-- The outcome of a read: the value that `deserialize` finds in `item?` of the reply, or the reason
    why there is none. -/
def readOutcome (c : Client) (outcome : Outcome Unit) (reply : Reply) : Outcome Value :=
  if outcome.success then
    match reply.item? with
    | none => .fail .localFailure "server reported success without a value"
    | some item =>
      match c.transcoder.deserialize item with
      | .ok value => outcome.withValue (some value)
      | .error e => Outcome.withCause (.fail .localFailure e.message) outcome
  else outcome.withValue none

/-- The outcomes of a flush, one for each server that answered, whatever it was. -/
def flushOutcomes (responses : List Response) : Table Endpoint (Outcome Unit) :=
  responses.foldl (fun t r => t.insert r.server r.outcome) []

/-- The figures of the servers whose outcome is a success. -/
def figures (responses : List Response) : Statistics :=
  responses.foldl (fun s r => if r.outcome.success then s.add r.server r.reply.stats else s) {}

/-- The answer to a request for one key, from the `outcome` and the `reply` of its server. -/
def concludeSingle (c : Client) (r : Request) (outcome : Outcome Unit) (reply : Reply) : Answer :=
  match r with
  | .get _ => .read (c.readOutcome outcome reply)
  | .getWithCas _ =>
    let outcome := c.readOutcome outcome reply
    .readWithCas (outcome.value?.map fun value => ⟨value, outcome.report.cas⟩)
  | .mutate .. => .counted (outcome.withValue reply.counter?)
  | _ => .changed outcome

/-- **The answer to a request,** given its `plan` and what the servers made of it. -/
def conclude (c : Client) (r : Request) (plan : Plan) (responses : List Response) : Answer :=
  match plan with
  | .settled answer => answer
  | .single _ _ =>
    match responses with
    | [] => c.concludeSingle r unowned {}
    | response :: _ => c.concludeSingle r response.outcome response.reply
  | .batch b =>
    let found := b.merge c.transcoder responses
    match r with
    | .getMany _ => .many (found.map fun entry => (entry.1, entry.2.value))
    | _ => .manyWithCas found
  | .broadcast _ _ =>
    match r with
    | .stats _ => .statistics (figures responses)
    | _ => .flushed (flushOutcomes responses)

/-- How a client is listed. -/
def listing (c : Client) (f : Fleet) : String :=
  "MemcachedClient \x7b pool: " ++ f.listing ++ ", transcoder: " ++ c.transcoder.label ++
    ", keys: " ++ c.keys.label ++ " \x7d"

end Client

end Memcache
