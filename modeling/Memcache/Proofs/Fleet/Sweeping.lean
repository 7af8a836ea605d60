import Mathlib
import Memcache.Proofs.Fleet.Patrol
import Memcache.Proofs.Node.Marking

/-!
# `Memcache.Proofs.Fleet.Sweeping` — the discipline of the sweeper

From time to time the sweeper wakes up, probes all nodes that are `Fleet.due`, and waits for the
probes to end before it sleeps again (`Sweeper.asleep`, `Sweeper.probing`). Meanwhile nodes die at
any moment, and a probe may be refused, answered late or not at all.

A probe is set up only for a node that is due, and only while no other probe is in flight
(`Fleet.NoneInFlight`): that all earlier ones are over is what the sweeper has waited for. So no two
are in flight for one server, and then nothing but the turns of the probe itself can change
`Node.alive` and `Node.deadSince?`, which made its node due. After `Fleet.dispose` the sweeper is
gone, but its probes may be in flight still; that does no harm as long as nobody sets up another
sweeper beside them.

## Contents

* `Patrol.Dated`, `Patrol.StillDue`, `Patrol.Inv` — **what the sweeper can rely on**;
* `Patrol.dated_after`, `Patrol.stillDue_kept`, `Patrol.flight_sweep` — one deed;
* `Patrol.inv_step` — one step; `Patrol.inv_steps` — a run;
* `Patrol.probes_disciplined` — **whom it probes and when, one probe at a time, and who comes back**;
* `Patrol.revived_in_silence` — after a disposal, a node comes back without an announcement.
-/

namespace Memcache

/-! ## What the sweeper can rely on -/

namespace Patrol

variable {settings : PoolSettings} {s s' : Patrol} {deed : Deed} {f' : Fleet}
  {server : Endpoint} {n n' : Node}

/-- The time of a node, `Node.deadSince?`: a live one has none, and that of a dead one is not
    earlier than its deaths and the failures of its probes (`Patrol.FailedAt`). -/
structure Dated (s : Patrol) (server : Endpoint) (n : Node) : Prop where
  alive : n.alive = true → n.deadSince? = none
  dead : n.alive = false → ∃ since, n.deadSince? = some since ∧ since ≤ s.now ∧
    (∃ t, (server, t) ∈ s.deaths) ∧ ∀ t, s.FailedAt server t → t ≤ since

/-- The node of a probe in flight is what it was when the probe was set up: dead, for at least
    `PoolSettings.deadTimeout`. -/
structure StillDue (s : Patrol) (job : Job) (n : Node) : Prop where
  sounds : job.task.stage.Sounds
  dead : n.alive = false
  listening : n.listening = true
  ripe : ∀ since, n.deadSince? = some since → since + s.fleet.settings.deadTimeout ≤ s.now

/-- The ticket is one that `Sweeper.probing` waits for, or `Fleet.disposed` is set and the sweeper
    is gone. -/
def SweeperWaits (f : Fleet) (ticket : Ticket) : Prop :=
  f.sweeper = .absent ∧ f.disposed = true ∨
    ∃ tickets, f.sweeper = .probing tickets ∧ ticket ∈ tickets

/-- **What the sweeper can rely on**, with `settings` as they were. -/
structure Inv (settings : PoolSettings) (s : Patrol) : Prop where
  settings : s.fleet.settings = settings
  keys : s.fleet.nodes.keys.Nodup
  home : ∀ server n, s.fleet.nodes.lookup server = some n → n.endpoint = server
  started : s.fleet.sweeper = .absent ∨ s.fleet.Listening
  past : ∀ server t, s.FailedAt server t → t ≤ s.now
  dated : ∀ server n, s.fleet.nodes.lookup server = some n → s.Dated server n
  flight : ∀ ticket job, s.fleet.jobs.lookup ticket = some job → job.InFlight →
    SweeperWaits s.fleet ticket ∧ ∃ n, s.fleet.nodes.lookup job.server = some n ∧ s.StillDue job n
  /-- No server has two probes in flight. -/
  one : ∀ ticket ticket' job job', s.fleet.jobs.lookup ticket = some job →
    s.fleet.jobs.lookup ticket' = some job' → job.InFlight → job'.InFlight →
    job.server = job'.server → ticket = ticket'

theorem Inv.sounding (h : s.Inv settings) : s.fleet.Sounding := by
  intro ticket job hjob hflight
  obtain ⟨-, n, -, hstill⟩ := h.flight ticket job hjob hflight
  exact hstill.sounds

/-! ### The times -/

theorem failedAt_after {t : Time} (h : (s.after deed f').FailedAt server t) :
    s.FailedAt server t ∨
      t = s.now ∧ (server ∈ s.fleet.fallen f' ∨ f'.missed? deed = some server) := by
  rcases h with hdeath | hmiss
  · rcases List.mem_append.mp hdeath with hold | hnew
    · exact .inl (.inl hold)
    · obtain ⟨server', hfallen, heq⟩ := List.mem_map.mp hnew
      obtain ⟨rfl, rfl⟩ := Prod.mk.inj heq
      exact .inr ⟨rfl, .inl hfallen⟩
  · rcases List.mem_append.mp hmiss with hold | hnew
    · exact .inl (.inr hold)
    · obtain ⟨server', hmissed, heq⟩ := List.mem_map.mp hnew
      obtain ⟨rfl, rfl⟩ := Prod.mk.inj heq
      exact .inr ⟨rfl, .inr (Option.mem_toList.mp hmissed)⟩

theorem past_after (h : s.Inv settings) {t : Time} (hfailedAt : (s.after deed f').FailedAt server t) :
    t ≤ s.now := by
  rcases failedAt_after hfailedAt with hold | ⟨rfl, -⟩
  · exact h.past server t hold
  · exact Nat.le_refl _

theorem mem_fallen {f : Fleet} (hnode : f.nodes.lookup server = some n)
    (hnode' : f'.nodes.lookup server = some n') :
    server ∈ f.fallen f' ↔ n.alive = true ∧ n'.alive = false := by
  have hkey := Table.mem_keys_of_lookup hnode
  simp [Fleet.fallen, Fleet.isAlive?, hnode, hnode', hkey]

theorem dated_after (h : s.Inv settings) (hnode : s.fleet.nodes.lookup server = some n)
    (hnode' : f'.nodes.lookup server = some n')
    (hfared : n.Fared s.now s.fleet f' deed server n') : (s.after deed f').Dated server n' := by
  have hdated := h.dated server n hnode
  have hfallen := mem_fallen hnode hnode'
  cases hfared with
  | spared halive hsince hmissed =>
      rw [halive] at hfallen
      constructor
      · intro hlive
        rw [hsince]
        exact hdated.alive (halive ▸ hlive)
      · intro hdead
        obtain ⟨since, hold, hle, ⟨t, ht⟩, hfailedAt⟩ := hdated.dead (halive ▸ hdead)
        refine ⟨since, hsince.trans hold, hle, ⟨t, List.mem_append_left _ ht⟩, ?_⟩
        intro t ht
        rcases failedAt_after ht with hbefore | ⟨-, hnew | hmiss⟩
        · exact hfailedAt t hbefore
        · obtain ⟨hlive, hdead⟩ := hfallen.mp hnew
          rw [hlive] at hdead
          contradiction
        · exact absurd hmiss hmissed
  | killed hlive halive hsince =>
      constructor
      · intro hlive'
        rw [halive] at hlive'
        contradiction
      · intro _
        refine ⟨s.now, hsince, Nat.le_refl _, ⟨s.now, ?_⟩, fun t ht => past_after h ht⟩
        exact List.mem_append_right _ (List.mem_map.mpr ⟨server, hfallen.mpr ⟨hlive, halive⟩, rfl⟩)
  | missed _ halive hsince =>
      constructor
      · intro hlive
        rw [hsince, hdated.alive (halive ▸ hlive)]
        rfl
      · intro hdead
        obtain ⟨since, hold, -, ⟨t, ht⟩, -⟩ := hdated.dead (halive ▸ hdead)
        refine ⟨s.now, ?_, Nat.le_refl _, ⟨t, List.mem_append_left _ ht⟩,
          fun t ht => past_after h ht⟩
        rw [hsince, hold]
        rfl
  | revived _ halive hsince =>
      constructor
      · exact fun _ => hsince
      · intro hdead
        rw [halive] at hdead
        contradiction

/-! ### The probes -/

/-- While a probe is in flight, only the turns of that probe touch its node, and this is
    `Patrol.StillDue`. -/
theorem stillDue_kept (h : s.Inv settings) (hpermits : s.fleet.Permits deed)
    (hact : s.fleet.act s.now deed = some f') {ticket : Ticket} {job : Job}
    (hjob : s.fleet.jobs.lookup ticket = some job) (hflight : job.InFlight)
    (hspared : deed.Spares ticket) :
    ∃ n', f'.nodes.lookup job.server = some n' ∧ (s.after deed f').StillDue job n' := by
  obtain ⟨-, n, hnode, hstill⟩ := h.flight ticket job hjob hflight
  obtain ⟨n', hnode', hkept⟩ := (Fleet.kept_act hact).forth hnode
  obtain ⟨m, hm, hfared⟩ := Fleet.fared_act hpermits h.sounding hact hnode'
  obtain rfl := Option.some.inj (hnode.symm.trans hm)
  have hother : ¬ s.fleet.ProbeTurn job.server deed := by
    rintro @⟨ticket', arrival?, job', hjob', hflight', hserver⟩
    exact hspared (h.one ticket ticket' job job' hjob hjob' hflight hflight' hserver.symm)
  refine ⟨n', hnode', hstill.sounds, ?_, hkept.listening hstill.listening, ?_⟩
  all_goals
    cases hfared with
    | spared halive hsince _ => ?_
    | killed hlive => exact absurd (hlive.symm.trans hstill.dead) nofun
    | missed hprobe => exact absurd hprobe hother
    | revived hprobe => exact absurd hprobe hother
  · exact halive.trans hstill.dead
  · intro since hsome
    have hsettings : (s.after deed f').fleet.settings = s.fleet.settings :=
      (Fleet.ruled_act hact).settings
    rw [hsettings]
    exact hstill.ripe since (hsince.symm.trans hsome)

/-- A turn after which the probe is still in flight leaves its node `Patrol.StillDue`. -/
theorem stillDue_turned (h : s.Inv settings) {ticket : Ticket} {arrival? : Option Arrival}
    (hact : s.fleet.act s.now (.step ticket arrival?) = some f') {job' : Job}
    (hjob' : f'.jobs.lookup ticket = some job') (hflight' : job'.InFlight) :
    ∃ n', f'.nodes.lookup job'.server = some n' ∧
      (s.after (.step ticket arrival?) f').StillDue job' n' := by
  obtain ⟨job, hjob, hflight, hserver⟩ :=
    Fleet.flight_before hact trivial nofun hjob' hflight'
  obtain ⟨-, n, hnode, hstill⟩ := h.flight ticket job hjob hflight
  obtain ⟨node, turn, hnode', hprobes, rfl⟩ :=
    Fleet.probe_turn h.sounding hjob hflight hact
  obtain rfl := Option.some.inj (hnode.symm.trans hnode')
  rw [Fleet.lookup_job_turned] at hjob'
  obtain rfl := Option.some.inj hjob'
  have hsettings : (s.fleet.turned ticket job turn).settings = s.fleet.settings :=
    (Fleet.ruled_act hact).settings
  refine ⟨turn.node, Fleet.lookup_node_turned, ?_⟩
  have hkept (hsounds : turn.task.stage.Sounds) (hsame : turn.node = n) :
      (s.after (.step ticket arrival?) (s.fleet.turned ticket job turn)).StillDue
        { job with task := turn.task } turn.node := by
    rw [hsame]
    refine ⟨hsounds, hstill.dead, hstill.listening, fun since hsince => ?_⟩
    show since + (s.fleet.turned ticket job turn).settings.deadTimeout ≤ s.now
    rw [hsettings]
    exact hstill.ripe since hsince
  have hunended : turn.task.result? = none := hflight'.unended
  cases hprobes with
  | begun _ _ hsame _ hsounds _ => exact hkept hsounds hsame
  | goesOn _ _ hsame _ hsounds _ => exact hkept hsounds hsame
  | failed e _ _ _ _ hresult =>
      rw [Task.result?_of_finished hresult] at hunended
      contradiction
  | answered c deadline bs _ _ _ _ _ _ hresult =>
      rw [Task.result?_of_finished hresult] at hunended
      contradiction

/-- While the sweeper is in `Sweeper.asleep`, no probe is in flight. -/
theorem Inv.noneInFlight (h : s.Inv settings) {wake : Time} (hasleep : s.fleet.sweeper = .asleep wake) :
    s.fleet.NoneInFlight := by
  intro ticket job hjob hflight
  obtain ⟨⟨habsent, -⟩ | ⟨tickets, hprobing, -⟩, -⟩ := h.flight ticket job hjob hflight
  · rw [hasleep] at habsent
    contradiction
  · rw [hasleep] at hprobing
    contradiction

/-- A node that is `Fleet.due` is dead, and its time is up. -/
theorem stillDue_of_due (h : s.Inv settings) (hlistening : s.fleet.Listening)
    (hdue : server ∈ s.fleet.due s.now) :
    ∃ n, s.fleet.nodes.lookup server = some n ∧
      s.StillDue (Fleet.newJob (server, .revive)) n := by
  obtain ⟨n, hnode, -⟩ := (Table.mem_select h.keys).mp hdue
  obtain ⟨since, hsince, hlong⟩ := (Fleet.mem_due_iff h.keys hnode).mp hdue
  have hdated := h.dated server n hnode
  have hdead : n.alive = false := by
    cases halive : n.alive with
    | false => rfl
    | true =>
        rw [hdated.alive halive] at hsince
        contradiction
  obtain ⟨since', hsince', hle, -⟩ := hdated.dead hdead
  obtain rfl := Option.some.inj (hsince.symm.trans hsince')
  refine ⟨n, hnode, trivial, hdead, hlistening server n hnode, fun since' hsince' => ?_⟩
  obtain rfl := Option.some.inj (hsince.symm.trans hsince')
  rw [Nat.add_comm]
  exact Nat.add_le_of_le_sub hle hlong

/-- What the probes of the sweeper are when it sets them up: one for each node that is
    `Fleet.due`. -/
theorem exists_due {f : Fleet} {now : Time} (hnone : f.NoneInFlight) {ticket : Ticket} {job : Job}
    (hjob : (f.spawnAll ((f.due now).map fun server => (server, .revive))).1.jobs.lookup ticket =
      some job) (hflight : job.InFlight) :
    ∃ k server, ticket = f.nextTicket + k ∧ (f.due now)[k]? = some server ∧
      job = Fleet.newJob (server, .revive) := by
  rw [Fleet.lookup_spawnAll] at hjob
  split at hjob
  · next hrange =>
      obtain ⟨k, rfl⟩ := Nat.exists_eq_add_of_le hrange.1
      rw [Nat.add_sub_cancel_left, List.getElem?_map, Option.map_map] at hjob
      obtain ⟨server, hserver, rfl⟩ := Option.map_eq_some_iff.mp hjob
      exact ⟨k, server, rfl, hserver, rfl⟩
  · exact absurd hflight (hnone ticket job hjob)

theorem nodup_due {f : Fleet} (now : Time) (hkeys : f.nodes.keys.Nodup) : (f.due now).Nodup :=
  hkeys.sublist (List.filter_sublist.map _)

/-- Probes are set up by `Fleet.sweep` while none is in flight, and the sweeper waits for all of
    them. -/
theorem flight_sweep (h : s.Inv settings) (hact : s.fleet.act s.now .sweep = some f')
    {ticket : Ticket} {job : Job} (hjob : f'.jobs.lookup ticket = some job)
    (hflight : job.InFlight) :
    SweeperWaits f' ticket ∧
      ∃ n, f'.nodes.lookup job.server = some n ∧ (s.after .sweep f').StillDue job n := by
  cases Fleet.swept_of_sweep hact with
  | idle hasleep => exact absurd hflight (h.noneInFlight hasleep ticket job hjob)
  | probed hasleep =>
      have hlistening : s.fleet.Listening := by
        refine h.started.resolve_left fun habsent => ?_
        rw [hasleep] at habsent
        contradiction
      obtain ⟨k, server, rfl, hserver, rfl⟩ := exists_due (h.noneInFlight hasleep) hjob hflight
      obtain ⟨n, hnode, hstill⟩ := stillDue_of_due h hlistening (List.mem_of_getElem? hserver)
      obtain ⟨jobs, hspawn⟩ := Fleet.spawnAll_eq s.fleet
        ((s.fleet.due s.now).map fun server => (server, .revive))
      refine ⟨.inr ⟨_, rfl, ?_⟩, n, ?_, hstill.sounds, hstill.dead, hstill.listening, ?_⟩
      · rw [Fleet.tickets_spawnAll, List.length_map, List.mem_range'_1]
        have hk := (List.getElem?_eq_some_iff.mp hserver).1
        exact ⟨Nat.le_add_right _ _, Nat.add_lt_add_left hk _⟩
      · rw [hspawn]
        exact hnode
      · intro since hsince
        have hripe := hstill.ripe since hsince
        unfold after
        rw [hspawn]
        exact hripe
  | @rested tickets hprobing hended =>
      obtain ⟨jobs, ended, hforget, hjobs⟩ := Fleet.forgetAll_eq s.fleet tickets
      rw [hforget] at hjob
      have hlookup := (hjobs ticket).symm.trans hjob
      split at hlookup
      · contradiction
      · next hleft =>
          obtain ⟨⟨habsent, -⟩ | ⟨tickets', hprobing', hmem⟩, -⟩ :=
            h.flight ticket job hlookup hflight
          · rw [hprobing] at habsent
            contradiction
          · rw [hprobing] at hprobing'
            obtain rfl := Sweeper.probing.inj hprobing'
            exact absurd hmem hleft

theorem one_sweep (h : s.Inv settings) (hact : s.fleet.act s.now .sweep = some f')
    {ticket ticket' : Ticket} {job job' : Job} (hjob : f'.jobs.lookup ticket = some job)
    (hjob' : f'.jobs.lookup ticket' = some job') (hflight : job.InFlight)
    (hflight' : job'.InFlight) (hserver : job.server = job'.server) : ticket = ticket' := by
  cases Fleet.swept_of_sweep hact with
  | idle hasleep => exact absurd hflight (h.noneInFlight hasleep ticket job hjob)
  | probed hasleep =>
      obtain ⟨k, server, rfl, hk, rfl⟩ := exists_due (h.noneInFlight hasleep) hjob hflight
      obtain ⟨k', server', rfl, hk', rfl⟩ := exists_due (h.noneInFlight hasleep) hjob' hflight'
      obtain rfl : server = server' := hserver
      have hlength := (List.getElem?_eq_some_iff.mp hk).1
      rw [(List.getElem?_inj hlength (nodup_due s.now h.keys)).mp (hk.trans hk'.symm)]
  | @rested tickets hprobing hended =>
      obtain ⟨jobs, ended, hforget, hjobs⟩ := Fleet.forgetAll_eq s.fleet tickets
      rw [hforget] at hjob hjob'
      have hlookup := (hjobs ticket).symm.trans hjob
      have hlookup' := (hjobs ticket').symm.trans hjob'
      split at hlookup
      · contradiction
      · split at hlookup'
        · contradiction
        · exact h.one ticket ticket' job job' hlookup hlookup' hflight hflight' hserver

/-- Other deeds leave the sweeper alone, or end it, or set it up while no probe is in flight
    (`Patrol.SweeperWaits`). -/
theorem sweeperWaits_act (h : s.Inv settings) (hpermits : s.fleet.Permits deed) (hdeed : deed ≠ .sweep)
    (hact : s.fleet.act s.now deed = some f') {ticket : Ticket} {job : Job}
    (hjob : s.fleet.jobs.lookup ticket = some job) (hflight : job.InFlight) :
    SweeperWaits f' ticket := by
  obtain ⟨hawaited, -⟩ := h.flight ticket job hjob hflight
  have hruled := Fleet.ruled_act hact
  by_cases hsettled : deed = .settled
  · subst hsettled
    obtain rfl := Option.some.inj hact
    have hpresent : s.fleet.sweeper ≠ .absent := by
      intro habsent
      rcases hawaited with ⟨-, hdisposed⟩ | ⟨tickets, hprobing, -⟩
      · exact hpermits.2 hdisposed ticket job hjob hflight
      · rw [habsent] at hprobing
        contradiction
    rw [Fleet.settled, if_neg hpresent]
    exact hawaited
  · by_cases hdispose : deed = .dispose
    · subst hdispose
      obtain rfl := Option.some.inj hact
      unfold Fleet.dispose
      split
      · exact hawaited
      · exact .inl ⟨rfl, rfl⟩
    · have hdisposed : f'.disposed = s.fleet.disposed := by
        rw [hruled.disposed, decide_eq_false hdispose, Bool.or_false]
      unfold SweeperWaits
      rw [hruled.sweeper hdeed hsettled hdispose, hdisposed]
      exact hawaited

/-! ### Steps and runs -/

/-- Whoever has a sweeper listens (`Fleet.Listening`). -/
theorem started_act (h : s.Inv settings) (hpermits : s.fleet.Permits deed)
    (hact : s.fleet.act s.now deed = some f') : f'.sweeper = .absent ∨ f'.Listening := by
  rcases h.started with habsent | hlistening
  · cases deed with
    | settled => exact .inr (hpermits.1.act hact)
    | sweep =>
        have hasleep : s.fleet.act s.now .sweep = none := by
          unfold Fleet.act Fleet.sweep
          rw [habsent]
        rw [hasleep] at hact
        contradiction
    | dispose =>
        obtain rfl := Option.some.inj hact
        unfold Fleet.dispose
        split
        · exact .inl habsent
        · exact .inl rfl
    | _ => exact .inl (((Fleet.ruled_act hact).sweeper nofun nofun nofun).trans habsent)
  · exact .inr (hlistening.act hact)

theorem inv_start (servers : List Endpoint) (settings : PoolSettings) (policy : PolicyChoice) :
    (start servers settings policy).Inv settings where
  settings := rfl
  keys := Fleet.keys_ofServers servers settings policy
  home server n hnode := by
    have hmem := (Table.lookup_eq_some_iff (Fleet.keys_ofServers servers settings policy)).mp hnode
    obtain ⟨server', -, heq⟩ := List.mem_map.mp hmem
    obtain ⟨rfl, rfl⟩ := Prod.mk.inj heq
    rfl
  started := .inl rfl
  past server t hfailedAt := by
    rcases hfailedAt with hdeath | hmiss
    · exact absurd hdeath List.not_mem_nil
    · exact absurd hmiss List.not_mem_nil
  dated server n hnode := by
    obtain rfl := Fleet.lookup_ofServers servers settings policy hnode
    exact ⟨fun _ => rfl, fun hdead => absurd hdead.symm Bool.false_ne_true⟩
  flight ticket job hjob := by
    have hnone : (start servers settings policy).fleet.jobs.lookup ticket = none := rfl
    rw [hnone] at hjob
    contradiction
  one ticket ticket' job job' hjob := by
    have hnone : (start servers settings policy).fleet.jobs.lookup ticket = none := rfl
    rw [hnone] at hjob
    contradiction

theorem inv_wait (h : s.Inv settings) (d : Duration) :
    Inv settings { s with now := s.now + d } where
  settings := h.settings
  keys := h.keys
  home := h.home
  started := h.started
  past server t hfailedAt := Nat.le_add_right_of_le (h.past server t hfailedAt)
  dated server n hnode := by
    have hdated := h.dated server n hnode
    refine ⟨hdated.alive, fun hdead => ?_⟩
    obtain ⟨since, hsince, hle, hdied, hfailedAt⟩ := hdated.dead hdead
    exact ⟨since, hsince, Nat.le_add_right_of_le hle, hdied, hfailedAt⟩
  flight ticket job hjob hflight := by
    obtain ⟨hawaited, n, hnode, hstill⟩ := h.flight ticket job hjob hflight
    refine ⟨hawaited, n, hnode, hstill.sounds, hstill.dead, hstill.listening, fun since hsince => ?_⟩
    exact Nat.le_add_right_of_le (hstill.ripe since hsince)
  one := h.one

theorem inv_deed (h : s.Inv settings) (hpermits : s.fleet.Permits deed)
    (hact : s.fleet.act s.now deed = some f') : (s.after deed f').Inv settings where
  settings := (Fleet.ruled_act hact).settings.trans h.settings
  keys := (Fleet.kept_act hact).keys h.keys
  home server n' hnode' := by
    obtain ⟨n, hnode, hkept⟩ := (Fleet.kept_act hact).back hnode'
    exact hkept.pool.endpoint.trans (h.home server n hnode)
  started := started_act h hpermits hact
  past server t hfailedAt := past_after h hfailedAt
  dated server n' hnode' := by
    obtain ⟨n, hnode, hfared⟩ := Fleet.fared_act hpermits h.sounding hact hnode'
    exact dated_after h hnode hnode' hfared
  flight ticket job' hjob' hflight' := by
    by_cases hdeed : deed = .sweep
    · subst hdeed
      exact flight_sweep h hact hjob' hflight'
    · obtain ⟨job, hjob, hflight, -⟩ :=
        Fleet.flight_before hact hpermits hdeed hjob' hflight'
      refine ⟨sweeperWaits_act h hpermits hdeed hact hjob hflight, ?_⟩
      cases Fleet.jobOrigin_act hact hjob' with
      | kept hsame hspared => exact stillDue_kept h hpermits hact hsame hflight' hspared
      | turned => exact stillDue_turned h hact hjob' hflight'
      | swept => exact absurd rfl hdeed
      | spawned hnew =>
          subst hnew
          exact absurd hflight'.purpose hpermits
      | launched hnew =>
          subst hnew
          exact absurd hflight'.purpose nofun
  one ticket ticket' job job' hjob hjob' hflight hflight' hserver := by
    by_cases hdeed : deed = .sweep
    · subst hdeed
      exact one_sweep h hact hjob hjob' hflight hflight' hserver
    · obtain ⟨old, hold, holdflight, holdserver⟩ :=
        Fleet.flight_before hact hpermits hdeed hjob hflight
      obtain ⟨old', hold', holdflight', holdserver'⟩ :=
        Fleet.flight_before hact hpermits hdeed hjob' hflight'
      refine h.one ticket ticket' old old' hold hold' holdflight holdflight' ?_
      rw [holdserver, holdserver', hserver]

/-- **Every step keeps what the sweeper relies on**, `Patrol.Inv`. -/
theorem inv_step (h : s.Inv settings) (hstep : s.Step s') : s'.Inv settings := by
  cases hstep with
  | wait d => exact inv_wait h d
  | deed hpermits hact => exact inv_deed h hpermits hact

theorem inv_steps (h : s.Inv settings) (hsteps : s.Steps s') : s'.Inv settings := by
  induction hsteps with
  | refl => exact h
  | tail _ hstep ih => exact inv_step ih hstep

/-! ## The discipline of the sweeper -/

/-- The server is dead, and at least `PoolSettings.deadTimeout` has passed since it died and since
    the last probe of it failed. -/
structure Due (s : Patrol) (server : Endpoint) : Prop where
  dead : s.fleet.isAlive? server = some false
  died : ∃ t, (server, t) ∈ s.deaths
  rested : ∀ t, s.FailedAt server t → t + s.fleet.settings.deadTimeout ≤ s.now

/-- A probe of the server has received the whole answer to its no-op, and the node is announced as
    revived, once, unless `Fleet.disposed` was set. -/
structure Answered (s : Patrol) (server : Endpoint) (deed : Deed) (f' : Fleet) : Prop where
  probe : ∃ ticket job c deadline bs, deed = .step ticket (some (.octets bs)) ∧
    s.fleet.jobs.lookup ticket = some job ∧ job.server = server ∧ job.task.purpose = .revive ∧
    job.task.stage = .probing c (Command.noop.exchange 0) deadline ∧
    NoopAnswer (c.buffer.contents ++ bs) ∧ f'.result? ticket = some (.probed (.ok ()))
  events : f'.events = s.fleet.events ++ if s.fleet.disposed then [] else [.revived server]

/-- A probe goes out only to a server that is `Patrol.Due`. -/
theorem Inv.due (h : s.Inv settings) {ticket : Ticket} {arrival? : Option Arrival} {job : Job}
    {effects : List Effect} (hjob : s.fleet.jobs.lookup ticket = some job)
    (hpurpose : job.task.purpose = .revive)
    (hstep : s.fleet.step s.now ticket arrival? = some (f', effects)) {e : Endpoint}
    (hdial : .dial e ∈ effects) : e = job.server ∧ s.Due e := by
  obtain ⟨job', node, turn, hjob', hturn, -, rfl⟩ := Fleet.step_eq_some hstep
  obtain ⟨hlookup, hnode⟩ := Fleet.job?_eq_some_iff.mp hjob'
  obtain rfl := Option.some.inj (hjob.symm.trans hlookup)
  have hflight : job.InFlight := ⟨hpurpose, Task.unended_of_step hturn⟩
  obtain ⟨-, n, hn, hstill⟩ := h.flight ticket job hjob hflight
  obtain rfl := Option.some.inj (hnode.symm.trans hn)
  have hendpoint : e = node.endpoint := by
    cases Task.revive_step hpurpose hstill.sounds hturn with
    | begun _ heffects =>
        rw [heffects] at hdial
        exact Effect.dial.inj (List.mem_singleton.mp hdial)
    | goesOn _ hnone => exact absurd hdial (hnone e)
    | failed _ _ heffects | answered _ _ _ heffects =>
        rw [heffects] at hdial
        exact absurd hdial List.not_mem_nil
  obtain rfl : e = job.server := hendpoint.trans (h.home _ _ hnode)
  obtain ⟨since, hsince, -, hdied, hfailedAt⟩ := (h.dated _ _ hnode).dead hstill.dead
  refine ⟨rfl, ?_, hdied, fun t ht => ?_⟩
  · rw [Fleet.isAlive?, hnode]
    exact congrArg some hstill.dead
  · exact Nat.le_trans (Nat.add_le_add_right (hfailedAt t ht) _) (hstill.ripe since hsince)

/-- Only a probe that is `Patrol.Answered` brings a node back. -/
theorem Inv.answered (h : s.Inv settings) (hpermits : s.fleet.Permits deed)
    (hact : s.fleet.act s.now deed = some f') (hdead : s.fleet.isAlive? server = some false)
    (halive : f'.isAlive? server = some true) : s.Answered server deed f' := by
  obtain ⟨n', hnode', halive⟩ := Option.map_eq_some_iff.mp halive
  obtain ⟨n, hnode, hfared⟩ := Fleet.fared_act hpermits h.sounding hact hnode'
  have hdead : n.alive = false := by
    rw [Fleet.isAlive?, hnode] at hdead
    exact Option.some.inj hdead
  have hprobe : s.fleet.ProbeTurn server deed := by
    cases hfared with
    | spared hsame =>
        rw [hsame, hdead] at halive
        contradiction
    | killed hlive =>
        rw [hdead] at hlive
        contradiction
    | missed hprobe => exact hprobe
    | revived hprobe => exact hprobe
  obtain @⟨ticket, arrival?, job, hjob, hflight, rfl⟩ := hprobe
  obtain ⟨node, turn, hnode₁, hprobes, rfl⟩ := Fleet.probe_turn h.sounding hjob hflight hact
  obtain rfl := Option.some.inj (hnode.symm.trans hnode₁)
  rw [Fleet.lookup_node_turned] at hnode'
  obtain rfl := Option.some.inj hnode'
  obtain ⟨-, n₂, hnode₂, hstill⟩ := h.flight ticket job hjob hflight
  obtain rfl := Option.some.inj (hnode.symm.trans hnode₂)
  cases hprobes with
  | begun _ _ hsame | goesOn _ _ hsame =>
      rw [hsame, hstill.dead] at halive
      contradiction
  | failed _ _ _ hsame =>
      have htouched : turn.node.alive = n.alive := by
        rw [hsame]
        rfl
      rw [htouched, hstill.dead] at halive
      contradiction
  | answered c deadline bs _ hstage harrival hanswer _ hevent hresult =>
      subst harrival
      have hannounced : turn.event? = some (.revived job.server) := by
        rw [hevent, Node.markAlive, if_neg (by simp [hstill.dead]), Node.announce,
          if_pos hstill.listening, h.home _ _ hnode]
      refine ⟨⟨ticket, job, c, deadline, bs, rfl, hjob, rfl, hflight.purpose, hstage, hanswer, ?_⟩,
        ?_⟩
      · rw [Fleet.result?_turned, Task.result?_of_finished hresult]
      · unfold Fleet.turned
        rw [hannounced]
        cases s.fleet.disposed <;> simp [Fleet.notify, Fleet.rebuild]

/-- **The sweeper keeps its discipline.** Take any run of a new fleet in which only the sweeper
    brings nodes back (`Fleet.Permits`), with any deaths, any arrivals or none, and time passing
    anywhere. Then a probe goes out only to a server that is dead, and at least
    `PoolSettings.deadTimeout` after it died and after its last probe failed (`Patrol.Due`); no
    server has two probes in flight (`Job.InFlight`); and a node comes back only when a probe of it
    has received the whole answer to its no-op, which is announced exactly once if `Fleet.disposed`
    is not set, and not at all if it is (`Patrol.Answered`). -/
theorem probes_disciplined {servers : List Endpoint} {settings : PoolSettings}
    {policy : PolicyChoice} {s : Patrol} (hsteps : (start servers settings policy).Steps s) :
    s.fleet.settings = settings ∧
      (∀ ticket arrival? job f' effects, s.fleet.jobs.lookup ticket = some job →
        job.task.purpose = .revive → s.fleet.step s.now ticket arrival? = some (f', effects) →
          ∀ e, .dial e ∈ effects → e = job.server ∧ s.Due e) ∧
      (∀ ticket ticket' job job', s.fleet.jobs.lookup ticket = some job →
        s.fleet.jobs.lookup ticket' = some job' → job.InFlight → job'.InFlight →
          job.server = job'.server → ticket = ticket') ∧
      ∀ deed f' server, s.fleet.Permits deed → s.fleet.act s.now deed = some f' →
        s.fleet.isAlive? server = some false → f'.isAlive? server = some true →
          s.Answered server deed f' := by
  have h := inv_steps (inv_start servers settings policy) hsteps
  refine ⟨h.settings, ?_, h.one, ?_⟩
  · intro ticket arrival? job f' effects hjob hpurpose hstep e hdial
    exact h.due hjob hpurpose hstep hdial
  · intro deed f' server hpermits hact hdead halive
    exact h.answered hpermits hact hdead halive

/-! ### One server that dies and comes back -/

/-- What is left after some deeds, each of which can be done. -/
def does (s : Patrol) (deeds : List Deed) : Patrol :=
  deeds.foldl (fun s deed => s.after deed ((s.fleet.act s.now deed).getD s.fleet)) s

theorem act_does (s : Patrol) (deed : Deed) (h : (s.fleet.act s.now deed).isSome = true) :
    s.fleet.act s.now deed = some (s.does [deed]).fleet := by
  obtain ⟨f, hf⟩ := Option.isSome_iff_exists.mp h
  simp [does, after, hf]

/-- A deed that can be done by `Fleet.act` is a step. -/
theorem step_does (s : Patrol) (deed : Deed) (hpermits : s.fleet.Permits deed)
    (h : (s.fleet.act s.now deed).isSome = true) : s.Step (s.does [deed]) := by
  have hstep := Step.deed hpermits (act_does s deed h)
  have hsame : s.does [deed] = s.after deed (s.does [deed]).fleet := rfl
  rwa [← hsame] at hstep

/-- One server, without connections, that is left alone for five nanoseconds when it has died. -/
def lone : Patrol :=
  start [⟨"a:1"⟩] { minConnections := 0, deadTimeout := 5 } .failImmediately

/-- The server has died as soon as the start was over. -/
def dead : Patrol :=
  lone.does [.launch, .step 0 none, .settled, .markDead ⟨"a:1"⟩]

/-- Five nanoseconds later the sweeper is about to probe it. -/
def ripe : Patrol :=
  { dead with now := 5 }.does [.sweep]

/-- The probe has sent its no-op. -/
def sounding : Patrol :=
  ripe.does [.step 1 none, .step 1 (some (.connected 7))]

theorem steps_dead : lone.Steps dead := by
  refine .head (step_does _ .launch trivial rfl) ?_
  refine .head (step_does _ (.step 0 none) trivial rfl) ?_
  refine .head (step_does _ .settled ⟨?_, ?_⟩ rfl) ?_
  · have hact := act_does (lone.does [.launch]) (.step 0 none) rfl
    exact (Fleet.listening_launch lone.fleet).act hact
  · intro hdisposed
    exact absurd hdisposed Bool.false_ne_true
  · exact .single (step_does _ (.markDead ⟨"a:1"⟩) trivial rfl)

theorem steps_ripe : lone.Steps ripe := by
  refine steps_dead.trans ?_
  refine .head (.wait 5) ?_
  exact .single (step_does _ .sweep trivial rfl)

theorem steps_sounding : lone.Steps sounding := by
  refine steps_ripe.trans ?_
  refine .head (step_does _ (.step 1 none) trivial rfl) ?_
  exact .single (step_does _ (.step 1 (some (.connected 7))) trivial rfl)

/-- The whole answer arrives. -/
def answer : Deed :=
  .step 1 (some (.octets (129 :: 10 :: List.replicate 22 0)))

/-- When its time is up the server is probed, and it is announced when it has answered. -/
theorem probes_disciplined_lone :
    ripe.Due ⟨"a:1"⟩ ∧ sounding.Answered ⟨"a:1"⟩ answer (sounding.does [answer]).fleet := by
  obtain ⟨-, hdue, -, -⟩ := probes_disciplined steps_ripe
  obtain ⟨-, -, -, hanswered⟩ := probes_disciplined steps_sounding
  refine ⟨(hdue 1 none _ _ _ rfl rfl rfl ⟨"a:1"⟩ (List.mem_singleton.mpr rfl)).2, ?_⟩
  have hact := act_does sounding answer (by decide +kernel)
  exact hanswered answer _ ⟨"a:1"⟩ trivial hact (by decide +kernel) (by decide +kernel)

/-- The fleet is disposed of while the probe waits for its answer. -/
def retiring : Patrol :=
  sounding.does [.dispose]

/-- **A node can come back without an announcement**: its probe was in flight when `Fleet.dispose`
    was called. -/
theorem revived_in_silence :
    lone.Steps retiring ∧ retiring.fleet.Permits answer ∧
      retiring.fleet.act 5 answer = some (retiring.does [answer]).fleet ∧
      retiring.fleet.isAlive? ⟨"a:1"⟩ = some false ∧
      (retiring.does [answer]).fleet.isAlive? ⟨"a:1"⟩ = some true ∧
      (retiring.does [answer]).fleet.events = retiring.fleet.events := by
  have hact := act_does retiring answer (by decide +kernel)
  refine ⟨?_, trivial, hact, by decide +kernel, by decide +kernel, by decide +kernel⟩
  exact steps_sounding.tail (step_does _ .dispose trivial rfl)

end Patrol

end Memcache
