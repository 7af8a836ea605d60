import Mathlib
import Memcache.Proofs.Client.Conduct
import Memcache.Proofs.Fleet.Shutdown

/-!
# `Memcache.Proofs.Client.Disposal` — disposal is final

When a fleet is disposed of, there may be a great deal under way: commands that wait for answers,
callers that wait for permits, probes, callbacks of `Fleet.notify`, and connections that are being
given back. Threads do all of this move by move (`Interleaving.Step`), before `Move.dispose`, between
the moves that close one pool after the other, and after `Interleaving.Over`.

In every run `Fleet.disposed` and `Pool.closed` stay set from then on, every request is refused, and
so is whoever asks for a permit or waits for one. The other flags can be undone by a thread that was
past its check of `Fleet.disposed` or `Pool.closed` when these were set, and by a start that is
completed afterwards: `Fleet.ring` changes, `Fleet.events` grows, and `Pool.idle` is filled. In orderly
runs, where no thread is past a check and nothing is started again, it is not.

## Contents

* `Purpose.shutOut`, `Task.Seeks`, `Task.step_shut` — who asks a closed pool for a permit;
* `Fleet.Final`, `Fleet.QuietSince` — what is true from the disposal on;
* `Sim.World.disposal_final` — **of every run, whatever was under way**;
* `Sim.World.disposal_undone` — runs that undo what only orderly runs keep.
-/

namespace Memcache

/-! ## Callers of a closed pool -/

/-- How a task ends that gets no connection because `Pool.closed` is set. -/
def Purpose.shutOut : Purpose → TaskResult
  | .execute _ => .executed (.fail .transportError PoolError.closed.message) {}
  | _ => .borrowed (.error .closed)

/-- The task waits for a permit, in `Stage.queued`, or will ask for one in its next turn. -/
inductive Task.Seeks (node : Node) (t : Task) : Prop where
  | waiting {deadline : Time} (hstage : t.stage = .queued deadline)
  | borrowing (hfresh : t.stage = .fresh) (hpurpose : t.purpose = .borrow)
  | executing {command : Command} (hfresh : t.stage = .fresh)
      (hpurpose : t.purpose = .execute command) (halive : node.alive = true)

namespace Task

variable {now : Time} {ticket : Ticket} {n : Node} {t : Task}

theorem denied_closed (now : Time) (n : Node) (t : Task) :
    (t.denied now n .closed).task.stage = .finished t.purpose.shutOut ∧
      (t.denied now n .closed).effects = [] := by
  obtain ⟨purpose, stage, opened⟩ := t
  cases purpose <;> exact ⟨rfl, rfl⟩

theorem acquire_closed (ticket : Ticket) (hclosed : n.pool.closed = true) :
    t.acquire now ticket n = t.denied now n .closed := by
  have henter : n.pool.enter ticket = (n.pool, .refused) := if_pos hclosed
  unfold acquire
  rw [henter]
  rfl

/-- **A closed pool refuses everybody in their next turn,** also those whose deadline is over, and
    nothing is asked of the network. -/
theorem step_shut (now : Time) (arrival? : Option Arrival) (hclosed : n.pool.closed = true)
    (hseeks : t.Seeks n) (hwaits : ∀ deadline, t.stage = .queued deadline → n.pool.Waits ticket) :
    ∃ turn, t.step now ticket arrival? n = some turn ∧
      turn.task.stage = .finished t.purpose.shutOut ∧ turn.effects = [] := by
  have hacquire := t.denied_closed now n
  rw [← acquire_closed ticket hclosed] at hacquire
  cases hseeks with
  | waiting hstage =>
      obtain ⟨pool, hresume⟩ := Pool.resume_of_closed hclosed (hwaits _ hstage)
      exact ⟨t.denied now { n with pool := pool } .closed,
        step_eq_some_iff.mpr (.resumed hstage hresume), t.denied_closed now _⟩
  | borrowing hfresh hpurpose =>
      refine ⟨t.acquire now ticket n, ?_, hacquire⟩
      rw [step_eq_some_iff.mpr (.begun hfresh), start, hpurpose]
  | executing hfresh hpurpose halive =>
      refine ⟨t.acquire now ticket n, ?_, hacquire⟩
      rw [step_eq_some_iff.mpr (.begun hfresh), start, hpurpose]
      exact congrArg some (if_pos halive)

end Task

/-! ## From the disposal on -/

namespace Fleet

variable {f : Fleet} {now : Time}

/-- **What is true of a fleet at any time after its disposal is over.** -/
structure Final (f : Fleet) : Prop where
  closed : f.Closed
  /-- A second `Fleet.dispose` changes nothing, and `Move.dispose` has nothing more to do. -/
  again : f.dispose = f ∧ Move.make f .dispose = (f, [])
  /-- Whoever waits for a permit, in `Stage.queued`, has a node, and can have a turn. -/
  waiting : ∀ ticket job deadline, f.jobs.lookup ticket = some job →
    job.task.stage = .queued deadline → ∃ node, f.job? ticket = some (job, node)
  /-- Whoever waits for a permit, or asks for one (`Task.Seeks`), is refused in its next turn. -/
  refused : ∀ now ticket arrival? job node, f.job? ticket = some (job, node) →
    job.task.Seeks node → ∃ f', f.step now ticket arrival? = some (f', []) ∧
      f'.result? ticket = some job.task.purpose.shutOut

/-- Since the time of the first fleet nothing was published, `Fleet.ring` is the same, and no
    connection has become idle. -/
structure QuietSince (f f' : Fleet) : Prop where
  ring : f'.ring = f.ring
  /-- What had been published may have been read, by `Fleet.drain`. -/
  events : f'.events = f.events ∨ f'.events = []
  idle : ∀ server node, f'.nodes.lookup server = some node → node.pool.idle = []

/-- A closed pool refuses all who ask or wait, as long as these have their places in it
    (`Fleet.InPlace`). -/
theorem refused_of_closed (hclosed : f.Closed) (hplace : f.InPlace) {ticket : Ticket}
    {arrival? : Option Arrival} {job : Job} {node : Node} (hjob : f.job? ticket = some (job, node))
    (hseeks : job.task.Seeks node) :
    ∃ f', f.step now ticket arrival? = some (f', []) ∧
      f'.result? ticket = some job.task.purpose.shutOut := by
  obtain ⟨hlookup, hnode⟩ := job?_eq_some_iff.mp hjob
  have hwaits : ∀ deadline, job.task.stage = .queued deadline → node.pool.Waits ticket := by
    intro deadline hstage
    obtain ⟨node', hnode', hwaits⟩ := hplace ticket job deadline hlookup hstage
    obtain rfl := Option.some.inj (hnode.symm.trans hnode')
    exact hwaits
  obtain ⟨turn, hturn, hstage, heffects⟩ :=
    Task.step_shut now arrival? (hclosed.pools _ _ hnode) hseeks hwaits
  refine ⟨f.turned ticket job turn, ?_, ?_⟩
  · rw [step_of_turn hjob hturn, heffects]
  · rw [result?_turned, Task.result?_of_finished hstage]

theorem final_of_closed (hclosed : f.Closed) (hplace : f.InPlace) : f.Final where
  closed := hclosed
  again := ⟨if_pos hclosed.disposed, if_pos hclosed.disposed⟩
  waiting ticket job deadline hjob hstage := by
    obtain ⟨node, hnode, -⟩ := hplace ticket job deadline hjob hstage
    exact ⟨node, job?_eq_some_iff.mpr ⟨hjob, hnode⟩⟩
  refused _ _ _ _ _ hjob hseeks := refused_of_closed hclosed hplace hjob hseeks

end Fleet

/-- **What a world does to a fleet that is disposed of is a run of steps**, and an orderly one if
    nothing was undone before (`Interleaving.Finished`). -/
theorem Interleaving.late_steps {orderly : Bool} {s : Interleaving} {f : Fleet}
    (hkeys : s.fleet.nodes.keys.Nodup) (hfinished : orderly = true → s.Finished)
    (hrun : s.fleet.Runs Deed.Late f) : s.Steps orderly { s with fleet := f } :=
  runs_steps hrun hkeys (fun htrue _ => (hfinished htrue).nonePast) fun _ _ hlate => hlate

namespace Sim

namespace World

/-- **Disposal is final.** Let anything at all have been done with a new fleet by any threads
    (`Interleaving.Step`) until a disposal of it is `Interleaving.Over`, and anything after: tasks
    that were under way have their turns with whatever the network delivers, new ones are set up,
    nodes are marked, connections are given back, callbacks run, the sweeper has its turns, the
    fleet is started again. Then `Fleet.disposed` and every `Pool.closed` are still set, whoever
    waits for a permit or asks for one is refused, and a second disposal changes nothing
    (`Fleet.Final`). In an orderly run `Fleet.ring` is that of the disposal, nothing was published
    since, and every `Pool.idle` is empty (`Fleet.QuietSince`).

    Every request to a client of this fleet, whatever is wrong with it, is refused with
    `ClientError.disposed`, and leaves no trace (`World.EndsAtOnce`). And whatever calls are made or
    had begun before, all that they do to the fleet are steps of such a run, so that all of this is
    true after them as well. -/
theorem disposal_final (α : Type) {servers : List Endpoint} {settings : PoolSettings}
    {policy : PolicyChoice} {orderly : Bool} {s s' : Interleaving}
    (hrun : Interleaving.Steps orderly ⟨.ofServers servers settings policy, []⟩ s) (hover : s.Over)
    (hlate : s.Steps orderly s') :
    s'.fleet.Final ∧ (orderly = true → s.fleet.QuietSince s'.fleet) ∧
      ∀ w : World, w.fleet = s'.fleet →
        (∀ (c : Call α) (r : Request), c.errand = .request r → c.phase = .fresh →
          w.EndsAtOnce c (.answered (.error .disposed))) ∧
        s.Steps orderly { s' with fleet := w.settle.1.fleet } ∧
        (∀ c : Call α, c.Late → s.Steps orderly { s' with fleet := (w.run c).1.fleet }) ∧
        ∀ (calls : List (Call α)) (limit? : Option Duration), (∀ c ∈ calls, c.Late) →
          s.Steps orderly { s' with fleet := (w.runApart limit? calls).1.fleet } := by
  have hstopped : Interleaving.Stopped ⟨.ofServers servers settings policy, []⟩ :=
    Interleaving.stopped_of_open rfl
  have hclosing := Interleaving.closing_steps hrun hstopped.closing
  have hclosed := Interleaving.closed_steps hlate (hover.closed hclosing)
  have hplace := Interleaving.inPlace_steps (hrun.trans hlate)
    (Fleet.inPlace_ofServers servers settings policy)
  have hkeys := Interleaving.keys_steps (hrun.trans hlate)
    (Fleet.keys_ofServers servers settings policy)
  have hfinished : orderly = true → s'.Finished ∧ s'.fleet.ring = s.fleet.ring ∧
      (s'.fleet.events = s.fleet.events ∨ s'.fleet.events = []) := by
    rintro rfl
    have hover := hover.finished (Interleaving.stopped_steps hstopped hrun)
    exact Interleaving.finished_steps hover hlate
  refine ⟨Fleet.final_of_closed hclosed hplace, fun horderly => ?_, ?_⟩
  · obtain ⟨hdone, hring, hevents⟩ := hfinished horderly
    exact ⟨hring, hevents, hdone.idle⟩
  · intro w hw
    have hlater : ∀ {f : Fleet}, w.fleet.Runs Deed.Late f →
        s.Steps orderly { s' with fleet := f } := by
      intro f hruns
      rw [hw] at hruns
      exact hlate.trans (Interleaving.late_steps hkeys (fun h => (hfinished h).1) hruns)
    refine ⟨?_, hlater (late_settle w), fun c hc => hlater (late_run hc), fun calls limit? hcalls =>
      hlater (late_runApart hcalls limit?)⟩
    intro c r herrand hfresh
    have hdisposed : w.fleet.disposed = true := hw ▸ hclosed.disposed
    have hplan : w.client.plan w.clock w.fleet r = .error .disposed := if_pos hdisposed
    exact endsAtOnce_of_poll (Call.poll_of_refused herrand hfresh hplan)

/-- A client with one server and one connection to it. -/
def narrow : Fleet :=
  .ofServers [⟨"a:1"⟩] { minConnections := 0, maxConnections := 1 } .failImmediately

/-- The fleet after two tasks have asked for the connection. -/
def crowded : Fleet :=
  let f := (narrow.spawnAll [(⟨"a:1"⟩, .borrow), (⟨"a:1"⟩, .execute (.get "k"))]).1
  (([0, 1] : List Ticket).foldl (fun f ticket => ((f.step 0 ticket none).map (·.1)).getD f) f)

theorem runs_crowded : narrow.Runs Deed.Late crowded := by
  refine .head ⟨0, .spawn ⟨"a:1"⟩ .borrow, nofun, rfl⟩ ?_
  refine .head ⟨0, .spawn ⟨"a:1"⟩ (.execute (.get "k")), nofun, rfl⟩ ?_
  refine .head ⟨0, .step 0 none, nofun, rfl⟩ ?_
  refine .head ⟨0, .step 1 none, nofun, rfl⟩ ?_
  exact .refl

/-- A world whose fleet was disposed of in the state `crowded`. The first caller has got its
    connection since. -/
def retired : World where
  fleet := ((crowded.dispose.step 3 0 (some (.connected 7))).map (·.1)).getD crowded
  network := {}
  clock := 0

/-- A read of no keys at all. -/
def emptyRead : Call Unit where
  errand := .request (.getMany [])

/-- The first caller keeps its connection, the second is refused with `PoolError.closed`, and a bad
    request with `ClientError.disposed`. -/
theorem disposal_final_crowded :
    crowded.dispose.QuietSince retired.fleet ∧
      retired.fleet.result? 0 = some (.borrowed (.ok ())) ∧
      (∃ f, retired.fleet.step 5 1 none = some (f, []) ∧
        f.result? 1 = some (.executed (.fail .transportError PoolError.closed.message) {})) ∧
      retired.EndsAtOnce emptyRead (.answered (.error .disposed)) := by
  have hkeys : narrow.nodes.keys.Nodup := Fleet.keys_ofServers ..
  have hcrowded : Interleaving.Steps true ⟨narrow, []⟩ ⟨crowded, []⟩ :=
    Interleaving.runs_steps runs_crowded hkeys (fun _ => Interleaving.nonePast_nil)
      fun _ _ hlate => hlate
  have hdisposed : Interleaving.Steps true ⟨narrow, []⟩ ⟨crowded.dispose, []⟩ :=
    hcrowded.trans (Interleaving.dispose_steps (Interleaving.keys_steps hcrowded hkeys)
      fun _ => Interleaving.nonePast_nil _)
  have hconnected :
      crowded.dispose.act 3 (.step 0 (some (.connected 7))) = some retired.fleet := rfl
  have hlate : Interleaving.Steps true ⟨crowded.dispose, []⟩ ⟨retired.fleet, []⟩ :=
    Interleaving.act_steps (Interleaving.keys_steps hdisposed hkeys) hconnected
      (fun _ => Interleaving.nonePast_nil _) fun _ => nofun
  have hover : Interleaving.Over ⟨crowded.dispose, []⟩ := Interleaving.over_nil rfl
  obtain ⟨hfinal, hquiet, hcalls⟩ := disposal_final Unit hdisposed hover hlate
  refine ⟨hquiet rfl, rfl, ?_, (hcalls retired rfl).1 emptyRead _ rfl rfl⟩
  exact hfinal.refused 5 1 none _ _ rfl (.waiting rfl)

/-- The only server of `narrow`. -/
def lone : Endpoint := ⟨"a:1"⟩

/-- The client after its start, when a caller has its connection. -/
def engaged : Fleet :=
  let f := (narrow.launch.1.spawn lone .borrow).1
  let f := ((f.step 0 1 none).map (·.1)).getD f
  ((f.step 0 1 (some (.connected 7))).map (·.1)).getD f

/-- The disposal of `engaged` is over, but the caller had given its connection back and found the
    pool open, and the server had been found dead and the callback had found `Fleet.disposed` not
    set. -/
def straddled : Interleaving where
  fleet := (engaged.change lone (·.markDead 0)).1.dispose
  threads :=
    [[.keep lone { link := 7 }, .vacate lone 1], [.rebuild, .publish (.failed lone)]]

/-- Both threads of `straddled` go on. -/
def undone : Interleaving where
  fleet :=
    let f := (straddled.fleet.withPool lone (·.keep { link := 7 })).rebuild
    { f with events := f.events ++ [.failed lone] }
  threads := [[.vacate lone 1], []]

theorem runs_engaged : narrow.Runs (fun _ => True) engaged := by
  refine .head ⟨0, .launch, trivial, rfl⟩ ?_
  refine .head ⟨0, .spawn lone .borrow, trivial, rfl⟩ ?_
  refine .head ⟨0, .step 1 none, trivial, rfl⟩ ?_
  refine .head ⟨0, .step 1 (some (.connected 7)), trivial, rfl⟩ ?_
  exact .refl

theorem steps_straddled : Interleaving.Steps false ⟨engaged, []⟩ straddled := by
  obtain ⟨node, hnode, hlease⟩ : ∃ node, engaged.nodes.lookup lone = some node ∧
      node.pool.lease? 1 = some { connection := { link := 7 } } := ⟨_, rfl, rfl⟩
  have hdrop : Interleaving.Step false ⟨engaged, []⟩
      ⟨engaged, [[.inspect lone { link := 7 }, .vacate lone 1]]⟩ := .drop hnode hlease
  have hinspect : Interleaving.Step false
      ⟨engaged, [[.inspect lone { link := 7 }, .vacate lone 1]]⟩
      ⟨engaged, [[.keep lone { link := 7 }, .vacate lone 1]]⟩ :=
    Interleaving.move_among [] [] (.inspect lone { link := 7 }) [.vacate lone 1]
  have hmark : Interleaving.Step false ⟨engaged, [[.keep lone { link := 7 }, .vacate lone 1]]⟩
      ⟨(engaged.change lone (·.markDead 0)).1,
        [[.keep lone { link := 7 }, .vacate lone 1], [.notify (.failed lone)]]⟩ :=
    .mark 0 lone fun _ => .dead
  have hnotify : Interleaving.Step false
      ⟨(engaged.change lone (·.markDead 0)).1,
        [[.keep lone { link := 7 }, .vacate lone 1], [.notify (.failed lone)]]⟩
      ⟨(engaged.change lone (·.markDead 0)).1, straddled.threads⟩ :=
    Interleaving.move_among [[.keep lone { link := 7 }, .vacate lone 1]] []
      (.notify (.failed lone)) []
  refine .head hdrop (.head hinspect (.head hmark (.head hnotify ?_)))
  exact Interleaving.dispose_steps (by decide) nofun

theorem steps_undone : straddled.Steps false undone := by
  have hkeep := Interleaving.move_among (f := straddled.fleet) []
    [[.rebuild, .publish (.failed lone)]] (.keep lone { link := 7 }) [.vacate lone 1]
  refine .head hkeep ?_
  have hrebuild := Interleaving.move_among
    (f := straddled.fleet.withPool lone (·.keep { link := 7 })) [[.vacate lone 1]] [] .rebuild
    [.publish (.failed lone)]
  refine .head hrebuild ?_
  exact .single (Interleaving.move_among [[.vacate lone 1]] [] (.publish (.failed lone)) [])

/-- **A disposal can be undone** by threads that are past their checks, and by a start. In the first
    run an announcement is published after the disposal is over, `Fleet.ring` changes, and a closed
    pool has an idle connection; in the second the server dies unnoticed, and `Fleet.settled`
    rebuilds the ring. -/
theorem disposal_undone :
    (Interleaving.Steps false ⟨narrow, []⟩ straddled ∧ straddled.Over ∧
      straddled.Steps false undone ∧ straddled.fleet.events = [] ∧
      undone.fleet.events = [.failed lone] ∧ straddled.fleet.ring.endpoints = [lone] ∧
      undone.fleet.ring.endpoints = [] ∧
      (undone.fleet.nodes.lookup lone).map (fun node => (node.pool.closed, node.pool.idle.length)) =
        some (true, 1)) ∧
    ∃ f, Interleaving.Steps false ⟨narrow, []⟩ ⟨engaged.dispose, []⟩ ∧
      Interleaving.Over ⟨engaged.dispose, []⟩ ∧
      Interleaving.Steps false ⟨engaged.dispose, []⟩ ⟨f, []⟩ ∧
      engaged.dispose.ring.endpoints = [lone] ∧ f.ring.endpoints = [] := by
  have hengaged : Interleaving.Steps false ⟨narrow, []⟩ ⟨engaged, []⟩ := by
    refine Interleaving.runs_steps runs_engaged (Fleet.keys_ofServers ..) ?_ ?_
    all_goals exact fun horderly => absurd horderly Bool.false_ne_true
  have hover : straddled.Over := ⟨rfl, by simp [straddled, Interleaving.ahead],
    by simp [straddled, Interleaving.ahead]⟩
  have hrestart : Interleaving.Steps false ⟨engaged.dispose, []⟩
      ⟨(engaged.dispose.markDead 0 lone).settled 0, []⟩ :=
    (Interleaving.update_steps 0 fun _ => .dead).trans
      (Interleaving.settled_steps 0 fun horderly => absurd horderly Bool.false_ne_true)
  have hdispose : Interleaving.Steps false ⟨engaged, []⟩ ⟨engaged.dispose, []⟩ :=
    Interleaving.dispose_steps (by decide) fun horderly => absurd horderly Bool.false_ne_true
  refine ⟨⟨hengaged.trans steps_straddled, hover, steps_undone, rfl, rfl, ?_, ?_, rfl⟩,
    _, hengaged.trans hdispose, Interleaving.over_nil rfl, hrestart, ?_, ?_⟩
  all_goals decide +kernel

end World

end Sim

end Memcache
