import Mathlib
import Memcache.Proofs.Fleet.Deeds

/-!
# `Memcache.Proofs.Fleet.Patrol` — runs in which only the sweeper brings nodes back

A `Patrol` is a fleet with its clock, and beside it what its sweeper has to go by: when servers
died, and when probes of them failed. In a run of it anything may be done to the fleet at any time,
but tasks of `Purpose.revive` are the sweeper's own and nobody else puts a node back into use
(`Fleet.Permits`).

A deed changes `Node.alive` or `Node.deadSince?` in three ways only: the node dies, or a probe of it
fails, or a probe of it is answered (`Node.Fared`). And a probe in flight was set up by
`Fleet.sweep` at some time, and has been in flight since.

## Contents

* `Job.InFlight` — a probe between its setting up and its end; `Fleet.Permits` — what may be done;
* `Patrol`, `Patrol.Step` — runs with their deaths and failed probes;
* `Node.Fared`, `Fleet.fared_act` — **what a deed makes of a node's flag and its time**;
* `Fleet.flight_before` — where the probes in flight come from.
-/

namespace Memcache

/-! ## Runs -/

/-- A probe that the sweeper has set up, as `Purpose.revive`, and that has not ended. -/
structure Job.InFlight (job : Job) : Prop where
  purpose : job.task.purpose = .revive
  unended : job.task.result? = none

/-- The server of a probe that has ended without success. -/
def Job.missed? (job : Job) : Option Endpoint :=
  match job.task.purpose, job.task.stage with
  | .revive, .finished (.probed (.error _)) => some job.server
  | _, _ => none

namespace Fleet

/-- From now on, all changes are announced: `Node.listening` of every node is set. -/
def Listening (f : Fleet) : Prop :=
  ∀ server node, f.nodes.lookup server = some node → node.listening = true

/-- No probe is `Job.InFlight`. -/
def NoneInFlight (f : Fleet) : Prop :=
  ∀ ticket job, f.jobs.lookup ticket = some job → ¬ job.InFlight

/-- **What may be done to a fleet in which only the sweeper brings nodes back.** Tasks of
    `Purpose.revive` are the sweeper's own. `Deed.settled` comes after a start has begun, and on a
    fleet that is disposed of not while a probe is in flight. -/
def Permits (f : Fleet) : Deed → Prop
  | .markAlive _ => False
  | .spawn _ purpose => purpose ≠ .revive
  | .forget ticket | .cancel ticket =>
    ∀ job, f.jobs.lookup ticket = some job → ¬ job.InFlight
  | .settled => f.Listening ∧ (f.disposed = true → f.NoneInFlight)
  | _ => True

/-- The servers whose `Node.alive` a deed has cleared. -/
def fallen (f f' : Fleet) : List Endpoint :=
  f.nodes.keys.filter fun server =>
    f.isAlive? server = some true ∧ f'.isAlive? server = some false

/-- The server of a probe that a deed has ended without success (`Job.missed?`). -/
def missed? (f' : Fleet) : Deed → Option Endpoint
  | .step ticket _ => (f'.jobs.lookup ticket).bind Job.missed?
  | _ => none

end Fleet

/-- A fleet, the time, and what its sweeper has to go by, in `deaths` and `misses`. -/
structure Patrol where
  fleet : Fleet
  now : Time := 0
  /-- When which server died. -/
  deaths : List (Endpoint × Time) := []
  /-- When a probe of which server failed. -/
  misses : List (Endpoint × Time) := []

namespace Patrol

/-- A new fleet, `Fleet.ofServers`. -/
def start (servers : List Endpoint) (settings : PoolSettings) (policy : PolicyChoice) : Patrol :=
  { fleet := .ofServers servers settings policy }

/-- What a deed leads to: what has `fallen` in it is among the deaths, and what was `missed?` among
    the misses. -/
def after (s : Patrol) (deed : Deed) (f : Fleet) : Patrol :=
  { s with
    fleet := f
    deaths := s.deaths ++ (s.fleet.fallen f).map fun server => (server, s.now)
    misses := s.misses ++ (f.missed? deed).toList.map fun server => (server, s.now) }

/-- Time passes, or a deed is done that the fleet `Permits`. -/
inductive Step (s : Patrol) : Patrol → Prop where
  | wait (d : Duration) : Step s { s with now := s.now + d }
  | deed {deed : Deed} {f : Fleet} (hpermits : s.fleet.Permits deed)
      (hact : s.fleet.act s.now deed = some f) : Step s (s.after deed f)

/-- Steps one after the other. -/
abbrev Steps : Patrol → Patrol → Prop :=
  Relation.ReflTransGen Step

/-- The server died, or a probe of it failed, at this time (`Patrol.deaths`, `Patrol.misses`). -/
def FailedAt (s : Patrol) (server : Endpoint) (t : Time) : Prop :=
  (server, t) ∈ s.deaths ∨ (server, t) ∈ s.misses

end Patrol

/-! ## What becomes of the nodes -/

/-- A turn of a probe of the server, `Purpose.revive`. -/
inductive Fleet.ProbeTurn (f : Fleet) (server : Endpoint) : Deed → Prop where
  | intro {ticket : Ticket} {arrival? : Option Arrival} {job : Job}
      (hjob : f.jobs.lookup ticket = some job) (hflight : job.InFlight)
      (hserver : job.server = server) : ProbeTurn f server (.step ticket arrival?)

/-- **What becomes of `Node.alive` and `Node.deadSince?`.** Only turns of its probes put the node
    back into use, or let its time begin again. -/
inductive Node.Fared (now : Time) (f f' : Fleet) (deed : Deed) (server : Endpoint) (n n' : Node) :
    Prop where
  | spared (halive : n'.alive = n.alive) (hsince : n'.deadSince? = n.deadSince?)
      (hmissed : f'.missed? deed ≠ some server)
  | killed (hlive : n.alive = true) (halive : n'.alive = false) (hsince : n'.deadSince? = some now)
  | missed (hprobe : f.ProbeTurn server deed) (halive : n'.alive = n.alive)
      (hsince : n'.deadSince? = n.deadSince?.map fun _ => now)
  | revived (hprobe : f.ProbeTurn server deed) (halive : n'.alive = true)
      (hsince : n'.deadSince? = none)

theorem Node.Fate.fared {now : Time} {f f' : Fleet} {deed : Deed} {server : Endpoint} {n n' : Node}
    {event? : Option NodeEvent} (h : n.Fate now n' event?) (hmissed : f'.missed? deed ≠ some server) :
    n.Fared now f f' deed server n' := by
  cases h with
  | spared halive hsince => exact .spared halive hsince hmissed
  | killed hlive halive hsince => exact .killed hlive halive hsince

namespace Fleet

variable {f f' : Fleet} {now : Time} {deed : Deed} {ticket : Ticket} {server : Endpoint}

/-- Every probe in flight stands where a probe may stand (`Stage.Sounds`). -/
def Sounding (f : Fleet) : Prop :=
  ∀ ticket job, f.jobs.lookup ticket = some job → job.InFlight → job.task.stage.Sounds

theorem Listening.act (h : f.Listening) (hact : f.act now deed = some f') : f'.Listening := by
  intro server n' hnode'
  obtain ⟨n, hnode, hkept⟩ := (kept_act hact).back hnode'
  exact hkept.listening (h server n hnode)

theorem listening_launch (f : Fleet) : f.launch.1.Listening := by
  intro server node hnode
  unfold launch at hnode
  dsimp only at hnode
  rw [spawnAll_nodes, Table.lookup_mapValues] at hnode
  obtain ⟨before, -, rfl⟩ := Option.map_eq_some_iff.mp hnode
  rfl

/-- What a turn of a probe is (`Turn.Probes`). -/
theorem probe_turn {arrival? : Option Arrival} {job : Job} (hsounding : f.Sounding)
    (hjob : f.jobs.lookup ticket = some job) (hflight : job.InFlight)
    (hact : f.act now (.step ticket arrival?) = some f') :
    ∃ node turn, f.nodes.lookup job.server = some node ∧
      turn.Probes now node job.task arrival? ∧ f' = f.turned ticket job turn := by
  obtain ⟨job', node, turn, hjob', hnode, hturn, hf⟩ := act_step hact
  obtain rfl := Option.some.inj (hjob.symm.trans hjob')
  have hprobes := Task.revive_step hflight.purpose (hsounding ticket job hjob hflight) hturn
  exact ⟨node, turn, hnode, hprobes, hf⟩

theorem missed?_turned {arrival? : Option Arrival} {job : Job} {turn : Turn} :
    (f.turned ticket job turn).missed? (.step ticket arrival?) =
      Job.missed? { job with task := turn.task } := by
  show ((f.turned ticket job turn).jobs.lookup ticket).bind Job.missed? = _
  rw [lookup_job_turned]
  rfl

/-- A probe that has not failed is no `Fleet.missed?`. -/
theorem missed?_ne_some {arrival? : Option Arrival} {job : Job} {turn : Turn}
    (h : ∀ e, turn.task.stage ≠ .finished (.probed (.error e))) :
    (f.turned ticket job turn).missed? (.step ticket arrival?) ≠ some server := by
  rw [missed?_turned]
  unfold Job.missed?
  split
  · next e _ hstage => exact absurd hstage (h e)
  · nofun

/-- Only a probe of the server can have missed it (`Fleet.ProbeTurn`). -/
theorem probeTurn_of_missed (hact : f.act now deed = some f')
    (hmissed : f'.missed? deed = some server) : f.ProbeTurn server deed := by
  cases deed with
  | step ticket arrival? =>
      obtain ⟨job, node, turn, hjob, hnode, hturn, rfl⟩ := act_step hact
      rw [missed?_turned] at hmissed
      unfold Job.missed? at hmissed
      split at hmissed
      · next hpurpose _ =>
          have htask := (Task.lawful_step hturn).task
          have hflight : job.InFlight := ⟨htask.symm.trans hpurpose, Task.unended_of_step hturn⟩
          exact .intro hjob hflight (Option.some.inj hmissed)
      · contradiction
  | _ => contradiction

/-- What a turn of a probe makes of its own node. -/
theorem fared_probe {arrival? : Option Arrival} {job : Job} {node : Node} {turn : Turn}
    (hjob : f.jobs.lookup ticket = some job) (hflight : job.InFlight)
    (hprobes : turn.Probes now node job.task arrival?) :
    node.Fared now f (f.turned ticket job turn) (.step ticket arrival?) job.server turn.node := by
  have hprobe : f.ProbeTurn job.server (.step ticket arrival?) := .intro hjob hflight rfl
  have hopen (hresult : turn.task.result? = none) (e : ConnectionError) :
      turn.task.stage ≠ .finished (.probed (.error e)) := by
    intro hstage
    rw [Task.result?_of_finished hstage] at hresult
    contradiction
  cases hprobes with
  | begun _ _ hnode _ _ hresult =>
      rw [hnode]
      exact .spared rfl rfl (missed?_ne_some (hopen hresult))
  | goesOn _ _ hnode _ _ hresult =>
      rw [hnode]
      exact .spared rfl rfl (missed?_ne_some (hopen hresult))
  | failed e _ _ hnode _ _ =>
      rw [hnode]
      exact .missed hprobe rfl rfl
  | answered c deadline bs _ _ _ _ hnode _ hresult =>
      rw [hnode]
      unfold Node.markAlive
      split
      · refine .spared rfl rfl (missed?_ne_some fun e => ?_)
        rw [hresult]
        nofun
      · exact .revived hprobe rfl rfl

/-- What any other deed makes of a node. -/
theorem fared_other (hpermits : f.Permits deed) (hprobe : ∀ server, ¬ f.ProbeTurn server deed)
    (hact : f.act now deed = some f') {n n' : Node} (htouched : n.Touched now f deed n') :
    n.Fared now f f' deed server n' := by
  have hmissed : f'.missed? deed ≠ some server :=
    fun hmissed => hprobe server (probeTurn_of_missed hact hmissed)
  cases htouched with
  | same => exact .spared rfl rfl hmissed
  | @turn ticket arrival? job n turn hjob hnode hturn =>
      have hpurpose : job.task.purpose ≠ .revive := by
        intro hpurpose
        exact hprobe _ (.intro hjob ⟨hpurpose, Task.unended_of_step hturn⟩ rfl)
      exact ((Task.lawful_step hturn).fate hpurpose).fared hmissed
  | withdrawn ticket t n =>
      unfold Task.withdraw
      split <;> exact .spared rfl rfl hmissed
  | tended | launched | closed => exact .spared rfl rfl hmissed
  | dead server n => exact (n.fate_markDead now).fared hmissed
  | alive => exact absurd hpermits id

/-- **What a deed makes of the nodes**: each has `Node.Fared`. -/
theorem fared_act (hpermits : f.Permits deed) (hsounding : f.Sounding)
    (hact : f.act now deed = some f') {n' : Node} (hnode' : f'.nodes.lookup server = some n') :
    ∃ n, f.nodes.lookup server = some n ∧ n.Fared now f f' deed server n' := by
  by_cases hprobe : ∃ server, f.ProbeTurn server deed
  · obtain ⟨_, @⟨ticket, arrival?, job, hjob, hflight, -⟩⟩ := hprobe
    obtain ⟨node, turn, hnode, hprobes, rfl⟩ := probe_turn hsounding hjob hflight hact
    rw [turned, notify_nodes, Table.lookup_insert] at hnode'
    split at hnode'
    · next hserver =>
        subst hserver
        obtain rfl := Option.some.inj hnode'
        exact ⟨node, hnode, fared_probe hjob hflight hprobes⟩
    · next hother =>
        refine ⟨n', hnode', .spared rfl rfl fun hmissed => ?_⟩
        rw [missed?_turned] at hmissed
        unfold Job.missed? at hmissed
        split at hmissed
        · exact hother (Option.some.inj hmissed).symm
        · contradiction
  · obtain ⟨n, hnode, htouched⟩ := (touched_act hact).back hnode'
    exact ⟨n, hnode, fared_other hpermits (not_exists.mp hprobe) hact htouched⟩

/-! ## What becomes of the probes -/

/-- Every probe in flight was in flight before, unless `Fleet.sweep` has just set it up. -/
theorem flight_before (hact : f.act now deed = some f') (hpermits : f.Permits deed)
    (hdeed : deed ≠ .sweep) {job' : Job} (hjob' : f'.jobs.lookup ticket = some job')
    (hflight' : job'.InFlight) :
    ∃ job, f.jobs.lookup ticket = some job ∧ job.InFlight ∧ job.server = job'.server := by
  cases jobOrigin_act hact hjob' with
  | kept hjob _ => exact ⟨job', hjob, hflight', rfl⟩
  | spawned hnew =>
      subst hnew
      exact absurd hflight'.purpose hpermits
  | swept => exact absurd rfl hdeed
  | launched hnew =>
      subst hnew
      exact absurd hflight'.purpose nofun
  | turned hold hnode hturn hnew =>
      subst hnew
      have htask := (Task.lawful_step hturn).task
      exact ⟨_, hold, ⟨htask.symm.trans hflight'.purpose, Task.unended_of_step hturn⟩, rfl⟩

end Fleet

end Memcache
