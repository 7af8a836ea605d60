import Memcache.Duration

/-!
# `Memcache.FailurePolicy` — when failures take a server out of use

A policy hears how each attempt on one server ended and says when the server counts as dead. The
strict policy gives up at the first failure; the throttling one counts failures that follow each
other closely enough and starts again at one after a longer pause. Successes change neither.

## Contents

* `PolicyChoice` — the policy of a configuration; `PolicyChoice.start`;
* `FailurePolicy` — its running state, with `record`, `shouldMarkDead` and `reset`.
-/

namespace Memcache

/-- Which policy is to be used. -/
inductive PolicyChoice where
  | failImmediately
  | throttling (maxFailures : Nat) (window : Duration)
  deriving DecidableEq, Repr

/-- A policy with what it has heard. -/
inductive FailurePolicy where
  | immediate (failed : Bool)
  /-- `failures` counts the failures of the current chain and `last?` is the time of its last. -/
  | throttling (maxFailures : Nat) (window : Duration) (failures : Nat) (last? : Option Time)
  deriving DecidableEq, Repr

/-- A policy that has heard nothing. At least one failure is always needed, even if `maxFailures` is
    0. -/
def PolicyChoice.start : PolicyChoice → FailurePolicy
  | .failImmediately => .immediate false
  | .throttling maxFailures window => .throttling (max maxFailures 1) window 0 none

namespace FailurePolicy

/-- Hears how an attempt ended. A success changes nothing. A failure goes on with the chain if no
    more than `window` has passed since the last one, and begins a new one otherwise. -/
def record (now : Time) (success : Bool) (p : FailurePolicy) : FailurePolicy :=
  if success then p
  else
    match p with
    | .immediate _ => .immediate true
    | .throttling maxFailures window failures last? =>
      let chained : Bool := match last? with
        | some last => now - last ≤ window
        | none => false
      .throttling maxFailures window (if chained then failures + 1 else 1) (some now)

/-- True once the failures suffice: `maxFailures` of them. -/
def shouldMarkDead : FailurePolicy → Bool
  | .immediate failed => failed
  | .throttling maxFailures _ failures _ => maxFailures ≤ failures

/-- Forgets everything heard. -/
def reset : FailurePolicy → FailurePolicy
  | .immediate _ => .immediate false
  | .throttling maxFailures window _ _ => .throttling maxFailures window 0 none

/-- The failures of the current chain, where they are counted. -/
def failures? : FailurePolicy → Option Nat
  | .immediate _ => none
  | .throttling _ _ failures _ => some failures

end FailurePolicy

end Memcache
