import Mathlib
import Memcache.Proofs.Client.Refusal
import Memcache.Proofs.Fleet.Deeds

/-!
# `Memcache.Proofs.Client.Conduct` — what the calls of a world do to its fleet

`World.settle` and `Call.poll` give turns to the background and to calls, and either does a great
many things at once. To the fleet they are deeds of `Fleet.act`, one after the other: `Fleet.spawn`,
`Fleet.step`, `Fleet.collect`, `Fleet.cancel` and the turns of the sweeper. So what is true of every
run of deeds is true of a world however long it goes on, and whatever its network delivers. A world
has one thread, which does a deed in one go; `Interleaving` says what threads can do in between, and
each of these runs is one of its runs (`Interleaving.act_steps`).

A start is left out here (`Deed.Late`), since it is over before a client is handed out; and what an
`Errand.act` does is up to the caller, as long as it consists of deeds too.

## Contents

* `Deed.Late` — the deeds that may come once a start is over;
* `World.late_settle` — the turn of the background; `Call.late_poll` — the turn of a call;
* `World.late_run`, `World.late_runApart` — **a call from its begin to its end**.
-/

namespace Memcache

/-- What may still be done once the start is over: anything but `Deed.settled`. -/
def Deed.Late (deed : Deed) : Prop :=
  deed ≠ .settled

namespace Fleet

variable {f f' : Fleet}

/-- A run of one deed of `Fleet.act`. -/
theorem runs_act (deed : Deed) (now : Time) (hlate : deed.Late) (h : f.act now deed = some f') :
    f.Runs Deed.Late f' :=
  .single ⟨now, deed, hlate, h⟩

theorem runs_spawnAll (f : Fleet) (tasks : List (Endpoint × Purpose)) :
    f.Runs Deed.Late (f.spawnAll tasks).1 := by
  induction tasks generalizing f with
  | nil => exact .refl
  | cons task rest ih =>
      have hspawn : f.Runs Deed.Late (f.spawn task.1 task.2).1 :=
        runs_act (.spawn task.1 task.2) 0 nofun rfl
      exact hspawn.trans (ih _)

/-- The same done with one ticket after the other. -/
theorem runs_foldl {change : Fleet → Ticket → Fleet}
    (hchange : ∀ (f : Fleet) ticket, f.Runs Deed.Late (change f ticket)) (f : Fleet)
    (tickets : List Ticket) : f.Runs Deed.Late (tickets.foldl change f) := by
  induction tickets generalizing f with
  | nil => exact .refl
  | cons ticket rest ih => exact (hchange f ticket).trans (ih _)

theorem runs_forget (f : Fleet) (tickets : List Ticket) :
    f.Runs Deed.Late (tickets.foldl forget f) :=
  runs_foldl (fun _ ticket => runs_act (.forget ticket) 0 nofun rfl) f tickets

theorem runs_cancel (f : Fleet) (tickets : List Ticket) :
    f.Runs Deed.Late (tickets.foldl cancel f) :=
  runs_foldl (fun _ ticket => runs_act (.cancel ticket) 0 nofun rfl) f tickets

theorem runs_collect {tickets : List Ticket} {results : List (Ticket × TaskResult)}
    (h : f.collect tickets = some (f', results)) : f.Runs Deed.Late f' := by
  unfold collect at h
  split at h
  · obtain ⟨rfl, -⟩ := Prod.mk.inj (Option.some.inj h)
    exact runs_forget f tickets
  · contradiction

end Fleet

namespace Sim

variable {α : Type} {w w' : World} {c : Call α}

namespace World

/-- The fleet of the second world is `World.fleet` of the first after some late deeds. -/
def Late (w w' : World) : Prop :=
  w.fleet.Runs Deed.Late w'.fleet

theorem Late.trans {w'' : World} (h : w.Late w') (h' : w'.Late w'') : w.Late w'' :=
  Relation.ReflTransGen.trans h h'

/-! ## The background -/

theorem late_stepTask {ticket : Ticket} (h : w.stepTask ticket = some w') : w.Late w' := by
  unfold stepTask at h
  split at h
  · contradiction
  · next job node hjob =>
      obtain ⟨⟨fleet, effects⟩, hstep, rfl⟩ := Option.map_eq_some_iff.mp h
      have hact : w.fleet.act w.now
          (.step ticket (w.network.poll w.now ticket (job.task.awaits ticket node)).1) =
          some fleet := congrArg (Option.map Prod.fst) hstep
      exact Fleet.runs_act (.step ..) w.now nofun hact

theorem late_runTask (ticket : Ticket) (fuel : Nat) (w : World) :
    w.Late (w.runTask ticket fuel).1 := by
  induction fuel generalizing w with
  | zero => exact .refl
  | succ fuel ih =>
      unfold runTask
      split
      · exact .refl
      · next w' hstep => exact (late_stepTask hstep).trans (ih w')

/-- Tasks that have their turns one after the other. -/
theorem late_runTasks (tickets : List Ticket) (w : World) (moved : Bool) :
    w.Late (tickets.foldl (fun (w, moved) ticket =>
      let (w, went) := w.runTask ticket patience
      (w, moved || went)) (w, moved)).1 := by
  induction tickets generalizing w moved with
  | nil => exact .refl
  | cons ticket rest ih => exact (late_runTask ticket patience w).trans (ih _ _)

theorem late_round (w : World) : w.Late w.round.1 := by
  unfold round
  cases hsweep : w.fleet.sweep w.now with
  | none => exact late_runTasks _ w false
  | some fleet =>
      have hswept : w.Late { w with fleet := fleet } :=
        Fleet.runs_act .sweep w.now nofun hsweep
      exact hswept.trans (late_runTasks _ { w with fleet := fleet } true)

theorem late_rounds (fuel : Nat) (w : World) : w.Late (w.rounds fuel).1 := by
  induction fuel generalizing w with
  | zero => exact .refl
  | succ fuel ih =>
      have hround := w.late_round
      unfold rounds
      generalize w.round = r at hround
      obtain ⟨w', moved⟩ := r
      cases moved with
      | true => exact hround.trans (ih w')
      | false => exact hround

theorem late_settle (w : World) : w.Late w.settle.1 := by
  have hcancel : w.Late { w with fleet := w.doomed.foldl Fleet.cancel w.fleet, doomed := [] } :=
    Fleet.runs_cancel ..
  exact hcancel.trans (late_rounds patience _)

end World

/-! ## Calls -/

namespace Call

/-- A call that is no `Errand.start`; and if it is an `Errand.act` of the caller's own, then late
    deeds. -/
structure Late (c : Call α) : Prop where
  errand : c.errand ≠ .start
  phase : ∀ tickets, c.phase ≠ .starting tickets
  change : ∀ change, c.errand = .act change → ∀ w : World, w.Late (change w).1

/-- What a turn of a call may do: late deeds, and the call is still one that does nothing else. -/
structure Keeps (w : World) (turn : World × Call α) : Prop where
  world : w.Late turn.1
  call : turn.2.Late

theorem late_finish (h : c.Late) (outturn : Outturn α) : (c.finish outturn).Late :=
  ⟨h.errand, nofun, h.change⟩

theorem keeps_begin (h : c.Late) : Keeps w (begin w c) := by
  obtain ⟨errand, limit?, deadline?, phase⟩ := c
  obtain ⟨herrand, hphase, hchange⟩ := h
  have hfinish (outturn : Outturn α) (deadline? : Option Time) :
      Late { errand := errand, limit? := limit?, deadline? := deadline?, phase := .over outturn } :=
    ⟨herrand, nofun, hchange⟩
  cases errand with
  | start => exact absurd rfl herrand
  | sleep d => exact ⟨.refl, herrand, nofun, hchange⟩
  | act change => exact ⟨hchange change rfl w, hfinish ..⟩
  | task server purpose =>
      refine ⟨?_, herrand, nofun, hchange⟩
      exact Fleet.runs_act (.spawn server purpose) 0 nofun rfl
  | request r =>
      rw [begin_request rfl]
      split
      · exact ⟨.refl, hfinish ..⟩
      · exact ⟨Fleet.runs_spawnAll .., herrand, nofun, hchange⟩

theorem keeps_proceed (h : c.Late) : Keeps w (proceed w c) := by
  unfold proceed
  split
  · exact ⟨.refl, h⟩
  · exact ⟨.refl, h⟩
  · split
    · exact ⟨.refl, late_finish h _⟩
    · exact ⟨.refl, h⟩
  · split
    · next hcollect => exact ⟨Fleet.runs_collect hcollect, late_finish h _⟩
    · exact ⟨.refl, h⟩
  · split
    · next hcollect => exact ⟨Fleet.runs_collect hcollect, late_finish h _⟩
    · exact ⟨.refl, h⟩
  · next tickets hphase => exact absurd hphase (h.phase tickets)

theorem keeps_cutOff (h : c.Late) : Keeps w (cutOff w c) :=
  ⟨Fleet.runs_cancel .., late_finish h _⟩

theorem keeps_await (h : c.Late) (moved : Bool) :
    Keeps w ((c.await w moved).1, (c.await w moved).2.1) := by
  have htasks := World.late_runTasks (c.tickets.filter (w.foreground.contains ·)) w moved
  unfold await
  generalize (c.tickets.filter (w.foreground.contains ·)).foldl _ (w, moved) = ran at htasks ⊢
  obtain ⟨w₁, moved⟩ := ran
  have hproceed : Keeps w₁ (proceed w₁ c) := keeps_proceed h
  dsimp only at htasks ⊢
  split
  · split
    · have hcut := keeps_cutOff (w := (proceed w₁ c).1) hproceed.call
      exact ⟨(htasks.trans hproceed.world).trans hcut.world, hcut.call⟩
    · exact ⟨htasks.trans hproceed.world, hproceed.call⟩
  · exact ⟨htasks.trans hproceed.world, hproceed.call⟩

/-- **The turn of a call, `Call.poll`, consists of late deeds.** -/
theorem late_poll (h : c.Late) : Keeps w ((c.poll w).1, (c.poll w).2.1) := by
  cases hended : c.outturn? with
  | some outturn =>
      unfold poll
      unfold outturn? at hended
      split at hended
      · exact ⟨.refl, h⟩
      · contradiction
  | none =>
      by_cases hfresh : c.phase = .fresh
      · rw [poll_fresh hfresh]
        have hbegin : Keeps w (begin w c) := keeps_begin h
        have hawait := keeps_await (w := (begin w c).1) hbegin.call true
        exact ⟨hbegin.world.trans hawait.world, hawait.call⟩
      · rw [poll_begun hfresh hended]
        exact keeps_await h false

end Call

/-! ## Runs -/

namespace World

theorem late_pollAll {calls : List (Call α)} (h : ∀ c ∈ calls, c.Late) :
    w.Late (w.pollAll calls).1 ∧ ∀ c ∈ (w.pollAll calls).2.1, c.Late := by
  induction calls generalizing w with
  | nil => exact ⟨.refl, h⟩
  | cons c calls ih =>
      rw [List.forall_mem_cons] at h
      have hpoll := Call.late_poll (w := w) h.1
      obtain ⟨hworld, hcalls⟩ := ih (w := (c.poll w).1) h.2
      exact ⟨hpoll.world.trans hworld, List.forall_mem_cons.mpr ⟨hpoll.call, hcalls⟩⟩

theorem late_drive {calls : List (Call α)} (h : ∀ c ∈ calls, c.Late) (deadline? : Option Time)
    (fuel : Nat) : w.Late (drive deadline? fuel w calls).1 := by
  induction fuel generalizing w calls with
  | zero => exact .refl
  | succ fuel ih =>
      obtain ⟨hpolled, hcalls⟩ := late_pollAll (w := w) h
      have hsettled := hpolled.trans (late_settle _)
      unfold drive
      dsimp only
      split
      · exact .refl
      · split
        · exact hpolled
        · split
          · exact hsettled.trans (ih hcalls)
          · split
            · exact hsettled
            · next time _ =>
                let later := { (w.pollAll calls).1.settle.1 with now := time }
                exact hsettled.trans (ih (w := later) hcalls)

/-- **A call that is made by `World.run` consists of late deeds,** from its begin to its end. -/
theorem late_run (h : c.Late) : w.Late (w.run c).1 :=
  late_drive (List.forall_mem_singleton.mpr h) none lifetime

/-- **So do calls that `World.runApart` makes apart from their caller,** whether or not the caller
    waits for them. -/
theorem late_runApart {calls : List (Call α)} (h : ∀ c ∈ calls, c.Late) (limit? : Option Duration) :
    w.Late (w.runApart limit? calls).1 := by
  unfold runApart
  split
  · exact .refl
  · dsimp only
    generalize hfirst : (if (limit?.map (w.now + ·)).any (· ≤ w.now) then w else w.settle.1) = w₁
    have hbefore : w.Late w₁ := by
      rw [← hfirst]
      split
      · exact .refl
      · exact w.late_settle
    have hdriven := hbefore.trans (late_drive h (limit?.map (w.now + ·)) lifetime)
    split
    · exact hdriven
    · exact hdriven.trans (late_settle _)

end World

end Sim

end Memcache
