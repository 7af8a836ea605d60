import Memcache.Status

/-!
# `Memcache.Outcome` — the result of one command

A command passes with a version token, or fails with a status and a message. An outcome puts the
report of the command in front of the reports that led to it, and holds the value, if there is one.

## Contents

* `Report` — passed or failed; `Report.failed` never reports success;
* `Outcome` — a report, its causes, and a value; `withValue` gives a value to a success only.
-/

namespace Memcache

/-- How one command ended. -/
inductive Report where
  | pass (cas : UInt64)
  | fail (status : Status) (message : String)
  deriving DecidableEq, Repr

namespace Report

/-- A failure. A `status` that means success is turned into a `localFailure`, so that a failed
    report never carries one. -/
def failed (status : Status) (message : String) : Report :=
  .fail (if status.isOk then .localFailure else status) message

/-- True for `pass`. -/
def success : Report → Bool
  | .pass _ => true
  | .fail .. => false

/-- The version token of `pass`; 0 for a failure. -/
def cas : Report → UInt64
  | .pass cas => cas
  | .fail .. => 0

/-- The status of the report: `ok` for `pass`. -/
def status : Report → Status
  | .pass _ => .ok
  | .fail status _ => status

/-- The message of a failure. -/
def message? : Report → Option String
  | .pass _ => none
  | .fail _ message => some message

/-- The wording of a report. -/
def text : Report → String
  | .pass cas => s!"ok (cas {cas})"
  | .fail status message => s!"failed: {status.text} ({message})"

end Report

/-- The outcome of a command that may yield an `α`. -/
structure Outcome (α : Type) where
  report : Report
  /-- The reports of the steps that led to this one, nearest first. -/
  causes : List Report := []
  value? : Option α := none
  deriving DecidableEq, Repr

namespace Outcome

variable {α β : Type}

/-- A success, with its version token and value. -/
def pass (cas : UInt64) (value? : Option α := none) : Outcome α :=
  { report := .pass cas, value? := value? }

/-- A failure, of this `status` and without a value. -/
def fail (status : Status) (message : String) : Outcome α :=
  { report := .failed status message }

/-- True for a success. -/
def success (o : Outcome α) : Bool :=
  o.report.success

/-- The same outcome, caused by `cause`: its report and its `causes` come behind. -/
def withCause (o : Outcome α) (cause : Outcome β) : Outcome α :=
  { o with causes := cause.report :: cause.causes }

/-- Replaces the value of a success. A failure stays without one. -/
def withValue (o : Outcome α) (value? : Option β) : Outcome β :=
  { report := o.report, causes := o.causes, value? := if o.success then value? else none }

/-- Converts the value by `f`. -/
def map (f : α → β) (o : Outcome α) : Outcome β :=
  { report := o.report, causes := o.causes, value? := o.value?.map f }

/-- The outcome without its value. -/
def withoutValue (o : Outcome α) : Outcome Unit :=
  { report := o.report, causes := o.causes }

/-- The outcome that caused this one, if one did. -/
def cause? (o : Outcome α) : Option (Outcome Unit) :=
  match o.causes with
  | [] => none
  | report :: causes => some { report := report, causes := causes }

/-- The wording of an outcome. -/
def text (o : Outcome α) : String :=
  o.report.text

end Outcome

/-- A value and the version token it was read with. -/
structure Versioned (α : Type) where
  value : α
  cas : UInt64
  deriving DecidableEq, Repr

end Memcache
