import Memcache.Proofs.Fleet.Turnover
import Memcache.Proofs.Ring.Ownership

/-!
# `Memcache.Proofs.Fleet.Freshness` — the ring is never left behind

A `Rebuild` asks the nodes one by one, so what it stores in `Fleet.ring` may be out of date before
it is stored. The ring is right in the end all the same: a flip that a rebuild did not see has a
callback of its own (`Turnover.raised`, `Turnover.waiting`), which cannot get the lock before that
rebuild has stored, and then sees it. So as long as a ring is wrong, somebody is still to rebuild
it.

## Contents

* `Turnover.Pending`, `Fleet.Fresh`, `Rebuild.Accurate` — the three ways of being up to date;
* `Turnover.Inv`, `Turnover.inv_step`, `Turnover.inv_steps` — one of them holds on every run;
* `Turnover.ring_fresh` — **whenever no callback is outstanding the ring is that of the living
  nodes**.
-/

namespace Memcache

/-- The ring is that of the nodes that are alive, by `Fleet.isAlive?`. -/
def Fleet.Fresh (f : Fleet) : Prop :=
  ∃ es, f.ring = .ofEndpoints es ∧ ∀ e, e ∈ es ↔ f.isAlive? e = some true

/-- Whoever said to be alive, and is in `Rebuild.alive`, is, and whoever is has said so or is still
    to be asked, and in `Rebuild.left`. -/
structure Rebuild.Accurate (r : Rebuild) (f : Fleet) : Prop where
  sound : ∀ e ∈ r.alive, f.isAlive? e = some true
  complete : ∀ e, f.isAlive? e = some true → e ∈ r.left ∨ e ∈ r.alive

theorem Fleet.Fresh.congr {f f' : Fleet} (h : f.Fresh) (hring : f'.ring = f.ring)
    (hflags : ∀ e, f'.isAlive? e = f.isAlive? e) : f'.Fresh := by
  obtain ⟨es, hes, halive⟩ := h
  refine ⟨es, hring.trans hes, ?_⟩
  intro e
  rw [hflags]
  exact halive e

theorem Rebuild.Accurate.congr {r : Rebuild} {f f' : Fleet} (h : r.Accurate f)
    (hflags : ∀ e, f'.isAlive? e = f.isAlive? e) : r.Accurate f' where
  sound e he := (hflags e).trans (h.sound e he)
  complete e he := h.complete e ((hflags e).symm.trans he)

/-- Before anybody is asked, all that are alive are in `Rebuild.left`. -/
theorem Rebuild.accurate_keys (cause? : Option NodeEvent) (f : Fleet) :
    Rebuild.Accurate { cause? := cause?, left := f.nodes.keys } f where
  sound e he := by contradiction
  complete e he := by
    by_cases hmem : e ∈ f.nodes.keys
    · exact .inl hmem
    · rw [Fleet.isAlive?, Table.lookup_of_not_mem_keys hmem] at he
      contradiction

/-- The next node of `Rebuild.left` answers as it is. -/
theorem Rebuild.Accurate.read {cause? : Option NodeEvent} {e : Endpoint}
    {left alive : List Endpoint} {f : Fleet} (h : Rebuild.Accurate ⟨cause?, e :: left, alive⟩ f) :
    Rebuild.Accurate
      ⟨cause?, left, if f.isAlive? e = some true then alive ++ [e] else alive⟩ f := by
  by_cases halive : f.isAlive? e = some true
  · rw [if_pos halive]
    constructor
    · intro e' he'
      rcases List.mem_append.mp he' with hold | hnew
      · exact h.sound e' hold
      · rw [List.mem_singleton.mp hnew]
        exact halive
    · intro e' he'
      rcases h.complete e' he' with hleft | hold
      · rcases List.mem_cons.mp hleft with rfl | hleft
        · exact .inr (List.mem_append_right _ (List.mem_singleton.mpr rfl))
        · exact .inl hleft
      · exact .inr (List.mem_append_left _ hold)
  · rw [if_neg halive]
    refine ⟨h.sound, ?_⟩
    intro e' he'
    rcases h.complete e' he' with hleft | hold
    · rcases List.mem_cons.mp hleft with rfl | hleft
      · exact absurd he' halive
      · exact .inl hleft
    · exact .inr hold

/-- The ring of accurate answers is `Fleet.Fresh` once nobody is left to be asked. -/
theorem Rebuild.Accurate.fresh {cause? : Option NodeEvent} {alive : List Endpoint} {f : Fleet}
    (h : Rebuild.Accurate ⟨cause?, [], alive⟩ f) :
    { f with ring := .ofEndpoints alive : Fleet }.Fresh := by
  refine ⟨alive, rfl, fun e => ⟨h.sound e, ?_⟩⟩
  intro he
  rcases h.complete e he with hnil | hmem
  · contradiction
  · exact hmem

namespace Turnover

/-- Some flip has a callback that has not got the lock yet: it is in `Turnover.raised` or in
    `Turnover.waiting`. -/
def Pending (s : Turnover) : Prop :=
  s.raised ≠ [] ∨ ∃ event, some event ∈ s.waiting

/-- Every flip has a callback that has stored its ring. -/
structure Quiet (s : Turnover) : Prop where
  raised : s.raised = []
  waiting : ∀ event, some event ∉ s.waiting
  rebuild : ∀ r, s.rebuild? = some r → r.cause? = none

/-- A start has told every node whom to call (`Node.listening`), and has not begun to build its
    ring. Flags and ring may be anything, and callbacks may be under way. -/
structure Starting (s : Turnover) : Prop where
  disposed : s.fleet.disposed = false
  listening : ∀ e flags, s.fleet.flags? e = some flags → flags.2 = true
  started : s.started = false
  rebuild : ∀ r, s.rebuild? = some r → r.cause? ≠ none

/-- **The invariant.** Once a start has stored its ring, either some flip's callback has yet to
    store its own (`Turnover.Pending`), or the ring is `Fleet.Fresh`; and whoever is at it asks the
    nodes to good effect (`Rebuild.Accurate`), unless some flip's callback comes after. -/
structure Inv (s : Turnover) : Prop where
  disposed : s.fleet.disposed = false
  listening : ∀ e flags, s.fleet.flags? e = some flags → flags.2 = true
  ring : s.started = true →
    s.Pending ∨ (∃ r, s.rebuild? = some r ∧ r.cause? ≠ none) ∨ s.fleet.Fresh
  rebuild : ∀ r, s.rebuild? = some r → s.started = true ∨ r.cause? = none →
    s.Pending ∨ r.Accurate s.fleet

/-- A fleet with `Fleet.disposed` not set, whatever its flags and its ring, is made ready for this
    by `Fleet.launch`. -/
theorem starting_launch {f : Fleet} (hopen : f.disposed = false) :
    Starting { fleet := f.launch.1 } where
  disposed := by
    rw [Fleet.launch, Fleet.spawnAll_disposed]
    exact hopen
  listening e flags he := by
    rw [Fleet.launch, Fleet.flags?, Fleet.spawnAll_nodes, Table.lookup_mapValues] at he
    cases hnode : f.nodes.lookup e with
    | none =>
        rw [hnode] at he
        contradiction
    | some n =>
        rw [hnode] at he
        exact Option.some.inj he ▸ rfl
  started := rfl
  rebuild r hr := by contradiction

theorem Starting.inv {s : Turnover} (h : s.Starting) : s.Inv where
  disposed := h.disposed
  listening := h.listening
  ring hstarted := by
    rw [h.started] at hstarted
    contradiction
  rebuild r hr hcause := by
    rcases hcause with hstarted | hnone
    · rw [h.started] at hstarted
      contradiction
    · exact absurd hnone (h.rebuild r hr)

/-! ## Moves -/

theorem Pending.mono {s s' : Turnover} (h : s.Pending) (hraised : s.raised ≠ [] → s'.raised ≠ [])
    (hwaiting : ∀ event, some event ∈ s.waiting → some event ∈ s'.waiting) : s'.Pending := by
  rcases h with hr | ⟨event, he⟩
  · exact .inl (hraised hr)
  · exact .inr ⟨event, hwaiting event he⟩

/-- A change of the fleet that moves no flag and not the ring keeps the invariant, if no flip is
    forgotten with it. -/
theorem Inv.congr {s s' : Turnover} (h : s.Inv) (hflags : ∀ e, s'.fleet.flags? e = s.fleet.flags? e)
    (hring : s'.fleet.ring = s.fleet.ring) (hdisposed : s'.fleet.disposed = s.fleet.disposed)
    (hstarted : s'.started = s.started) (hrebuild : s'.rebuild? = s.rebuild?)
    (hpending : s.Pending → s'.Pending) : s'.Inv := by
  have halive : ∀ e, s'.fleet.isAlive? e = s.fleet.isAlive? e := by
    intro e
    rw [Fleet.isAlive?_eq_flags?, hflags, ← Fleet.isAlive?_eq_flags?]
  refine ⟨hdisposed.trans h.disposed, ?_, ?_, ?_⟩
  · intro e flags he
    exact h.listening e flags ((hflags e).symm.trans he)
  · intro hs
    rw [hrebuild]
    rcases h.ring (hstarted.symm.trans hs) with hp | hr | hf
    · exact .inl (hpending hp)
    · exact .inr (.inl hr)
    · exact .inr (.inr (hf.congr hring halive))
  · intro r hr hcause
    rw [hstarted] at hcause
    rcases h.rebuild r (hrebuild.symm.trans hr) hcause with hp | ha
    · exact .inl (hpending hp)
    · exact .inr (ha.congr halive)

/-- The invariant survives a call that may flip `Node.alive`: a flip brings a callback with it. -/
theorem Inv.mark {s : Turnover} (h : s.Inv) {now : Time} {server : Endpoint} {node node' : Node}
    {event? : Option NodeEvent} (hnode : s.fleet.nodes.lookup server = some node)
    (hmarks : node.Marks now (node', event?)) :
    Inv { s with
      fleet := { s.fleet with nodes := s.fleet.nodes.insert server node' }
      raised := s.raised ++ event?.toList } := by
  have hserver : s.fleet.flags? server = some (node.alive, node.listening) := by
    rw [Fleet.flags?, hnode]
    rfl
  have hlisten : node.listening = true := h.listening server _ hserver
  obtain ⟨hlisten', halive⟩ := hmarks.announced
  have hflags : ∀ e, Fleet.flags? { s.fleet with nodes := s.fleet.nodes.insert server node' } e =
      if e = server then some (node'.alive, true) else s.fleet.flags? e := by
    intro e
    rw [Fleet.flags?, Table.lookup_insert]
    by_cases he : e = server
    · rw [if_pos he, if_pos he, ← hlisten, ← hlisten']
      rfl
    · rw [if_neg he, if_neg he]
      rfl
  -- either no flag moves, or the flip is raised and nothing else is asked for
  rcases halive with hsame | hannounced
  · refine h.congr ?_ rfl rfl rfl rfl ?_
    · intro e
      rw [hflags]
      by_cases he : e = server
      · rw [if_pos he, he, hserver, hsame, hlisten]
      · rw [if_neg he]
    · intro hp
      exact hp.mono (fun hne hnil => hne (List.append_eq_nil_iff.mp hnil).1) fun _ he => he
  · obtain ⟨event, rfl⟩ := hannounced hlisten
    have hpending : Pending { s with
        fleet := { s.fleet with nodes := s.fleet.nodes.insert server node' }
        raised := s.raised ++ [event] } :=
      .inl (List.append_ne_nil_of_right_ne_nil _ (List.cons_ne_nil _ _))
    refine ⟨h.disposed, ?_, fun _ => .inl hpending, fun _ _ _ => .inl hpending⟩
    intro e flags he
    rw [hflags] at he
    by_cases hserver' : e = server
    · rw [if_pos hserver'] at he
      exact Option.some.inj he ▸ rfl
    · rw [if_neg hserver'] at he
      exact h.listening e flags he

/-- The invariant survives `Step.lock`: for a flip's own callback the ring no longer has to be
    right, and for a start it is right unless a flip is pending. -/
theorem Inv.lock {s : Turnover} (h : s.Inv) {cause? : Option NodeEvent}
    {before after : List (Option NodeEvent)} (hfree : s.rebuild? = none)
    (hwaiting : s.waiting = before ++ cause? :: after) :
    Inv { s with
      waiting := before ++ after
      rebuild? := some { cause? := cause?, left := s.fleet.nodes.keys } } := by
  refine ⟨h.disposed, h.listening, ?_, ?_⟩
  · intro hstarted
    cases cause? with
    | some event => exact .inr (.inl ⟨_, rfl, Option.some_ne_none event⟩)
    | none =>
        rcases h.ring hstarted with hp | ⟨r, hr, -⟩ | hf
        -- it was the start's place in the queue that is gone, and no flip's
        · refine .inl (hp.mono id ?_)
          intro event he
          rw [hwaiting] at he
          simpa using he
        · rw [hfree] at hr
          contradiction
        · exact .inr (.inr hf)
  · intro r hr _
    obtain rfl := Option.some.inj hr
    exact .inr (Rebuild.accurate_keys cause? s.fleet)

/-- The invariant survives one answer, by `Rebuild.Accurate.read`. -/
theorem Inv.read {s : Turnover} (h : s.Inv) {cause? : Option NodeEvent} {e : Endpoint}
    {left alive : List Endpoint} (hrebuild : s.rebuild? = some ⟨cause?, e :: left, alive⟩) :
    Inv { s with
      rebuild? := some
        ⟨cause?, left, if s.fleet.isAlive? e = some true then alive ++ [e] else alive⟩ } := by
  refine ⟨h.disposed, h.listening, ?_, ?_⟩
  · intro hstarted
    rcases h.ring hstarted with hp | ⟨r, hr, hcause⟩ | hf
    · exact .inl hp
    · obtain rfl := Option.some.inj (hrebuild.symm.trans hr)
      exact .inr (.inl ⟨_, rfl, hcause⟩)
    · exact .inr (.inr hf)
  · intro r hr hcause
    obtain rfl := Option.some.inj hr
    rcases h.rebuild _ hrebuild hcause with hp | ha
    · exact .inl hp
    · exact .inr ha.read

/-- The invariant survives the storing of a ring: it is right unless a flip is
    `Turnover.Pending`. -/
theorem Inv.store {s : Turnover} (h : s.Inv) {cause? : Option NodeEvent} {alive : List Endpoint}
    (hrebuild : s.rebuild? = some ⟨cause?, [], alive⟩) :
    Inv { s with
      fleet := { s.fleet with ring := .ofEndpoints alive }
      started := s.started || cause?.isNone
      rebuild? := none
      stored := s.stored ++ cause?.toList } := by
  refine ⟨h.disposed, h.listening, ?_, fun r hr => by contradiction⟩
  intro hstarted
  have hcause : s.started = true ∨ cause? = none := by
    simpa [Bool.or_eq_true, Option.isNone_iff_eq_none] using hstarted
  rcases h.rebuild _ hrebuild hcause with hp | ha
  · exact .inl hp
  · exact .inr (.inr ha.fresh)

/-- **One move keeps the invariant.** -/
theorem inv_step {s s' : Turnover} (h : s.Inv) (hstep : s.Step s') : s'.Inv := by
  cases hstep with
  | mark hnode hmarks => exact h.mark hnode hmarks
  | @enter before after event hraised hopen =>
      -- a callback that begins is pending as the flip was
      refine h.congr (fun _ => rfl) rfl rfl rfl rfl fun _ => .inr ⟨event, ?_⟩
      exact List.mem_append_right _ (List.mem_singleton.mpr rfl)
  | ignore before after hraised hdisposed =>
      rw [h.disposed] at hdisposed
      contradiction
  | start =>
      refine h.congr (fun _ => rfl) rfl rfl rfl rfl fun hp => hp.mono id fun event he => ?_
      exact List.mem_append_left _ he
  | lock before after hfree hwaiting => exact h.lock hfree hwaiting
  | read hrebuild => exact h.read hrebuild
  | store hrebuild => exact h.store hrebuild
  | publish before after hstored => exact h.congr (fun _ => rfl) rfl rfl rfl rfl id
  | other hunmoved => exact h.congr hunmoved.flags hunmoved.ring hunmoved.disposed rfl rfl id

/-- A whole run keeps it. -/
theorem inv_steps {s s' : Turnover} (h : s.Inv) (hsteps : s.Steps s') : s'.Inv := by
  induction hsteps with
  | refl => exact h
  | tail _ hstep ih => exact inv_step ih hstep

/-- When all flips have had their callbacks, `Turnover.Quiet`, a started fleet's ring is right. -/
theorem Inv.fresh {s : Turnover} (h : s.Inv) (hstarted : s.started = true) (hquiet : s.Quiet) :
    s.fleet.Fresh := by
  rcases h.ring hstarted with hp | ⟨r, hr, hcause⟩ | hf
  · rcases hp with hraised | ⟨event, hwaiting⟩
    · exact absurd hquiet.raised hraised
    · exact absurd hwaiting (hquiet.waiting event)
  · exact absurd (hquiet.rebuild r hr) hcause
  · exact hf

/-- **The ring is never left behind.** Start a fleet, with any flags, any ring and any callbacks
    under way (`Turnover.Starting`), and let calls that flip flags, callbacks, rebuilds and further
    starts interleave in any way (`Turnover.Step`). Whenever a start has come to its end and no flip
    has a callback that is still to store its ring (`Turnover.Quiet`), the servers of `Fleet.ring`
    are exactly the living nodes, by `Fleet.isAlive?`. Every key then belongs to a living node if
    there is one (`Fleet.locate`), and to none exactly when there is none. -/
theorem ring_fresh {s₀ s : Turnover} (hstart : s₀.Starting) (hsteps : s₀.Steps s)
    (hstarted : s.started = true) (hquiet : s.Quiet) :
    (∀ e, e ∈ s.fleet.ring.endpoints ↔ s.fleet.isAlive? e = some true) ∧
      ∀ key,
        ((∃ e, s.fleet.isAlive? e = some true) →
          ∃ e, s.fleet.locate key = some e ∧ s.fleet.isAlive? e = some true) ∧
        (s.fleet.locate key = none ↔ ∀ e, s.fleet.isAlive? e ≠ some true) := by
  obtain ⟨es, hring, halive⟩ := (inv_steps hstart.inv hsteps).fresh hstarted hquiet
  have hnone : ∀ key, s.fleet.locate key = none ↔ ∀ e, s.fleet.isAlive? e ≠ some true := by
    intro key
    rw [Fleet.locate, hring, Ring.locate_eq_none_iff, List.eq_nil_iff_forall_not_mem]
    exact forall_congr' fun e => not_congr (halive e)
  refine ⟨fun e => ?_, fun key => ⟨?_, hnone key⟩⟩
  · rw [hring]
    exact Ring.mem_endpoints.trans (halive e)
  · rintro ⟨e, he⟩
    cases howner : s.fleet.locate key with
    | none => exact absurd he ((hnone key).mp howner e)
    | some owner =>
        rw [Fleet.locate, hring] at howner
        exact ⟨owner, rfl, (halive owner).mp (Ring.mem_of_locate howner)⟩

/-- Two servers that are being started. -/
def pair : Fleet :=
  (Fleet.ofServers [⟨"a:1"⟩, ⟨"b:1"⟩] {} .failImmediately).launch.1

/-- The first of them has died, and its callback is about to publish that. -/
def pairAfter : Turnover :=
  { fleet := { pair with
      nodes := pair.nodes.modify ⟨"a:1"⟩ fun n => (n.markDead 0).1
      ring := .ofEndpoints [⟨"b:1"⟩] }
    started := true
    stored := [.failed ⟨"a:1"⟩] }

/-- The first node dies after the start has found it alive and before the start has asked the
    second: the start stores a ring with both, and the callback then stores the right one. -/
theorem ring_fresh_pair :
    Steps { fleet := pair } pairAfter ∧ pairAfter.fleet.isAlive? ⟨"a:1"⟩ = some false ∧
      (⟨"a:1"⟩ : Endpoint) ∉ pairAfter.fleet.ring.endpoints ∧
      ∀ key, ∃ e, pairAfter.fleet.locate key = some e ∧ pairAfter.fleet.isAlive? e = some true := by
  have hsteps : Steps { fleet := pair } pairAfter := by
    -- the start asks the first server, which says that it is alive
    refine .head .start ?_
    refine .head (.lock [] [] rfl rfl) ?_
    refine .head (.read rfl) ?_
    -- now this server dies, and its callback has to wait until the start has stored its ring
    refine .head (@Step.mark _ 0 ⟨"a:1"⟩ _ _ _ rfl .dead) ?_
    refine .head (.enter [] [] rfl rfl) ?_
    refine .head (.read rfl) ?_
    refine .head (.store rfl) ?_
    -- the callback asks both servers again
    refine .head (.lock [] [] rfl rfl) ?_
    refine .head (.read rfl) ?_
    refine .head (.read rfl) ?_
    exact .single (@Step.store _ (some (.failed ⟨"a:1"⟩)) [⟨"b:1"⟩] rfl)
  have hquiet : pairAfter.Quiet :=
    ⟨rfl, fun _ he => by contradiction, fun _ hr => by contradiction⟩
  obtain ⟨hendpoints, hlocate⟩ := ring_fresh (starting_launch rfl) hsteps rfl hquiet
  refine ⟨hsteps, rfl, ?_, fun key => (hlocate key).1 ⟨⟨"b:1"⟩, rfl⟩⟩
  intro hmem
  have hfound := (hendpoints _).mp hmem
  contradiction

end Turnover

end Memcache
