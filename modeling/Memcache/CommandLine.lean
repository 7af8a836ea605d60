import Memcache.Client
import Memcache.Text.Line

/-!
# `Memcache.CommandLine` — one request from the command line

The words of a command line are options, then a command with its arguments. Reading them yields the
settings of a client and one request, or else what is printed instead. The answer to the request is
then printed in turn; an exit code of 0 means that there was an answer, whatever it says.

## Contents

* `Switch`, `scan` — **the options end at the first word that is none**;
* `request` — the table of commands;
* `prepare` — what is read before a client is started; `interpret` — the words as a whole;
* `present` — an answer as it is printed;
* `run` — the whole program, given a way to make one request.
-/

namespace Memcache.CommandLine

/-- What a run prints, and its exit code. -/
structure Printout where
  exit : Nat := 0
  out : String := ""
  /-- The error output. -/
  errors : String := ""
  deriving DecidableEq, Repr

/-- The error output line by line. A word that is quoted there may hold line ends of its own. -/
def Printout.errorLines (p : Printout) : List String :=
  Text.lines p.errors

/-! ## Options -/

/-- The words that are options. -/
inductive Switch where
  /-- The next word is the address of a server. -/
  | server
  | verbose
  | help
  | version
  deriving DecidableEq, Repr

/-- The option that a `word` is. -/
def Switch.ofWord? (word : String) : Option Switch :=
  if word = "--server" ∨ word = "-s" then some .server
  else if word = "--verbose" then some .verbose
  else if word = "--help" then some .help
  else if word = "--version" ∨ word = "-v" then some .version
  else none

/-- What the words ask for. -/
structure Invocation where
  /-- The servers in the order in which they were given. -/
  servers : List String := []
  verbose : Bool := false
  /-- The name of the command and its arguments. -/
  command : List String := []
  deriving DecidableEq, Repr

/-- What the options amount to. -/
inductive Scan where
  | proceed (i : Invocation)
  | help
  | version
  /-- The server option is the last word. -/
  | missingServer
  deriving DecidableEq, Repr

/-- Reads options by `Switch.ofWord?` up to the first word that is none, with which the command
    begins. -/
def scan (i : Invocation) : List String → Scan
  | [] => .proceed i
  | word :: rest =>
    match Switch.ofWord? word with
    | none => .proceed { i with command := word :: rest }
    | some .help => .help
    | some .version => .version
    | some .verbose => scan { i with verbose := true } rest
    | some .server =>
      match rest with
      | [] => .missingServer
      | address :: rest => scan { i with servers := i.servers ++ [address] } rest

/-! ## Texts -/

/-- The version of the program. -/
def version : String := "0.1.0"

/-- The server that is used if none is given. -/
def defaultServer : String := "127.0.0.1:11211"

/-- The help text. -/
def helpText : String := "
FlashMC - A Failure-Aware Memcached Client

USAGE:
    flashmc [OPTIONS] <COMMAND> [ARGS...]

OPTIONS:
    -s, --server <HOST:PORT>   Server to use (repeatable, default: 127.0.0.1:11211)
        --verbose              Log connection and routing details
    -v, --version              Print version information
        --help                 Print this help message

COMMANDS:
    get <key>
    set <key> <value> [ttl-seconds]
    add <key> <value> [ttl-seconds]
    replace <key> <value> [ttl-seconds]
    delete <key>
    incr <key> <delta> [default]
    decr <key> <delta> [default]
    append <key> <data>
    prepend <key> <data>
    stats [type]
    flush

EXAMPLES:
    flashmc set name Ariz 60
    flashmc -s cache-1:11211 -s cache-2:11211 get name
    flashmc incr visits 1 0

"

/-- A run whose words make no sense, with exit code 2. -/
def usage (message : String) : Printout :=
  { exit := 2, errors := "Error: " ++ message ++ "\nRun with --help for usage.\n" }

/-! ## Commands -/

/-- An argument that is a number below `2 ^ 64`, by `parseU64?`. -/
def number (name word : String) : Except String UInt64 :=
  match Text.parseU64? word.toList with
  | some n => .ok n
  | none => .error ("invalid " ++ name ++ " '" ++ word ++ "'")

/-- A store of a text. A time to live is given in seconds, and is an expiration `after` that
    time. -/
def storeRequest (mode : StoreMode) (key value : String) (ttl? : Option String) :
    Except String Request :=
  match ttl? with
  | none => .ok (.store mode key (.text value) .never 0)
  | some word =>
    match number "ttl" word with
    | .error e => .error e
    | .ok n => .ok (.store mode key (.text value) (.after (Duration.seconds n.toNat)) 0)

/-- A counter change. Without `initial?` an absent counter starts at 0. -/
def mutateRequest (mode : MutateMode) (key delta : String) (initial? : Option String) :
    Except String Request :=
  match number "delta" delta, initial?.map (number "default") with
  | .error e, _ => .error e
  | .ok _, some (.error e) => .error e
  | .ok delta, some (.ok initial) => .ok (.mutate mode key initial delta .never 0)
  | .ok delta, none => .ok (.mutate mode key 0 delta .never 0)

/-- The request of the command `name` with its arguments, or what is wrong with it. -/
def request (name : String) (arguments : List String) : Except String Request :=
  match name, arguments with
  | "get", [key] => .ok (.get key)
  | "set", [key, value] => storeRequest .set key value none
  | "set", [key, value, ttl] => storeRequest .set key value (some ttl)
  | "add", [key, value] => storeRequest .add key value none
  | "add", [key, value, ttl] => storeRequest .add key value (some ttl)
  | "replace", [key, value] => storeRequest .replace key value none
  | "replace", [key, value, ttl] => storeRequest .replace key value (some ttl)
  | "delete", [key] => .ok (.remove key)
  | "incr", [key, delta] => mutateRequest .increment key delta none
  | "incr", [key, delta, initial] => mutateRequest .increment key delta (some initial)
  | "decr", [key, delta] => mutateRequest .decrement key delta none
  | "decr", [key, delta, initial] => mutateRequest .decrement key delta (some initial)
  | "append", [key, data] => .ok (.concat .append key (Text.encode data) 0)
  | "prepend", [key, data] => .ok (.concat .prepend key (Text.encode data) 0)
  | "stats", [] => .ok (.stats none)
  | "stats", [group] => .ok (.stats (some group))
  | "flush", [] => .ok (.flush 0)
  | name, _ => .error ("unknown command or wrong arguments: " ++ name)

/-- The settings for a list of servers. One command needs one connection to each, so
    `minConnections` is 1. -/
def settings (servers : List String) : Except ConfigError ClientSettings :=
  servers.foldlM ClientSettings.addServer { pool := { minConnections := 1 } }

/-- The addresses of the servers to use, `defaultServer` if none is given. -/
def Invocation.addresses (i : Invocation) : List String :=
  if i.servers.isEmpty then [defaultServer] else i.servers

/-- The settings of a client and the command that it is to be started for, or what is printed
    instead. A command has to be there, and then the addresses have to be right, by `settings`. -/
def prepare (words : List String) : Except Printout (ClientSettings × String × List String) :=
  match scan {} words with
  | .help => .error { out := helpText }
  | .version => .error { out := "FlashMC version " ++ version ++ "\n" }
  | .missingServer => .error { exit := 1, errors := "Error: --server requires a value\n" }
  | .proceed i =>
    match i.command with
    | [] => .error (usage "no command given")
    | name :: arguments =>
      match settings i.addresses with
      | .error e => .error (usage e.message)
      | .ok settings => .ok (settings, name, arguments)

/-- The settings and the request that the words ask for, or what is printed instead. The command is
    the last that has to be right, by `request`. -/
def interpret (words : List String) : Except Printout (ClientSettings × Request) :=
  match prepare words with
  | .error printout => .error printout
  | .ok (settings, name, arguments) =>
    match request name arguments with
    | .error message => .error (usage message)
    | .ok r => .ok (settings, r)

/-! ## Answers -/

/-- An outcome without its value. -/
def statusLine {α : Type} (o : Outcome α) : String :=
  if o.success then s!"OK (cas {o.report.cas})\n" else "(error) " ++ o.text ++ "\n"

/-- An outcome, with its value if there is one, in the `wording` for it. -/
def valueLine {α : Type} (wording : α → String) (o : Outcome α) : String :=
  match o.value? with
  | some value =>
    if o.success then "\"" ++ wording value ++ "\" (cas " ++ toString o.report.cas ++ ")\n"
    else statusLine o
  | none => statusLine o

/-- The entries of a table with text for keys, in order. -/
def inOrder {α β : Type} (key : α → String) (t : List (α × β)) : List (α × β) :=
  t.mergeSort fun a b => key a.1 ≤ key b.1

/-- The figures of all servers, sorted. -/
def figureLines (s : Statistics) : String :=
  String.join <| (inOrder Endpoint.address s.tables).map fun entry =>
    "# " ++ entry.1.address ++ "\n" ++
      String.join ((inOrder id entry.2).map fun figure => figure.1 ++ ": " ++ figure.2 ++ "\n")

/-- How many servers were flushed. -/
def flushLine (outcomes : Table Endpoint (Outcome Unit)) : String :=
  let failed := (outcomes.filter fun entry => ¬ entry.2.success).length
  if failed = 0 then s!"OK ({outcomes.length} servers)\n"
  else s!"(error) flush failed on {failed} of {outcomes.length} servers\n"

/-- An answer as it is printed. A single read that found nothing does not say why. -/
def answerText : Answer → String
  | .read o => if o.success then valueLine Value.display o else "(nil)\n"
  | .counted o => valueLine toString o
  | .changed o => statusLine o
  | .flushed outcomes => flushLine outcomes
  | .statistics s => figureLines s
  | .readWithCas _ | .many _ | .manyWithCas _ => ""

/-- What is behind an error. -/
def cause? : ClientError → Option String
  | .invalidKey e => some e.message
  | .invalidExpiration e => some e.message
  | .config e => some e.message
  | .emptyKeySet | .disposed => none

/-- **What is printed for an answer.** A request that was refused ends the run with an error, and
    exit code 1. -/
def present : Except ClientError Answer → Printout
  | .ok answer => { out := answerText answer }
  | .error e =>
    { exit := 1
      errors := "Error: " ++ e.message ++ "\n" ++
        match cause? e with
        | some cause => "\nCaused by:\n    " ++ cause ++ "\n"
        | none => "" }

/-- **The whole program,** given a way `serve` to start a client and make one request. -/
def run (serve : ClientSettings → Request → Except ClientError Answer) (words : List String) :
    Printout :=
  match interpret words with
  | .error printout => printout
  | .ok (settings, r) => present (serve settings r)

end Memcache.CommandLine
