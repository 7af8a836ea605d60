import Mathlib
import Memcache.Proofs.Fleet.Patrol
import Memcache.Proofs.Fleet.Sites
import Memcache.Proofs.Ring.Disruption

/-!
# `Memcache.Proofs.Fleet.Charts` — a living server has its place on the ring

`Fleet.ring` is rebuilt when `Fleet.notify` hears of a change, and nodes call it once
`Node.listening` is set, with `Fleet.launch`. Before, a server can die and stay on the ring, and it
may come back unannounced. So the ring is not always that of the living nodes. But it never lacks
one (`Fleet.Covers`): a server that is missing from the ring is dead, and its revival will be
announced. Between two servers that are both alive `Ring.locate` decides in the same way whoever
else is on the ring, so a key that a living server owns has no other living owner for as long as the
same servers are alive.

## Contents

* `Ring.locate_unique` — one ring, or two that both have both servers;
* `Node.Announced`, `Task.announced_step` — **no flag flips unheard, if anybody listens**;
* `Fleet.Covers`, `Fleet.Charted`, `Fleet.charted_act` — **a server that is missing is dead**;
* `Fleet.Arisen`, `Fleet.Arisen.owner_unique` — **a key has one living owner**.
-/

namespace Memcache

/-- **Of two servers that both are on both rings, not both own a key**, by `Ring.locate`. -/
theorem Ring.locate_unique {digest : Bytes → Bytes} {key : String} {servers servers' : List Endpoint}
    {e e' : Endpoint} (howner : (ofEndpoints servers digest).locate key digest = some e)
    (howner' : (ofEndpoints servers' digest).locate key digest = some e') (he : e ∈ servers')
    (he' : e' ∈ servers) : e = e' := by
  -- both own the key on the ring of the two alone
  have hsub : [e, e'] ⊆ servers :=
    by simp [mem_of_locate howner, he']
  have hsub' : [e, e'] ⊆ servers' :=
    by simp [he, mem_of_locate howner']
  have hfew := locate_of_subset hsub List.mem_cons_self howner
  have hfew' := locate_of_subset hsub' (List.mem_cons_of_mem _ List.mem_cons_self) howner'
  exact Option.some.inj (hfew.symm.trans hfew')

/-! ## Announcements -/

/-- What becomes of a node, and what it announces: nothing if `Node.listening` is not set; and if it
    is, `Node.alive` does not change without an `event?`. -/
structure Node.Announced (n n' : Node) (event? : Option NodeEvent) : Prop where
  listening : n'.listening = n.listening
  silent : n.listening = false → event? = none
  told : n.listening = true → event? = none → n'.alive = n.alive

namespace Node

variable {now : Time} {n n' : Node} {event? : Option NodeEvent}

theorem announced_of_eq (hlistening : n'.listening = n.listening) (halive : n'.alive = n.alive) :
    n.Announced n' none :=
  ⟨hlistening, fun _ => rfl, fun _ _ => halive⟩

/-- An announcement is made by `Node.announce` just if `Node.listening` is set. -/
theorem announced_announce (e : Endpoint → NodeEvent) (hlistening : n'.listening = n.listening) :
    n.Announced n' (n.announce e) := by
  refine ⟨hlistening, fun hsilent => ?_, fun hlistens hnone => ?_⟩
  · unfold announce
    rw [hsilent]
    rfl
  · unfold announce at hnone
    rw [hlistens] at hnone
    contradiction

theorem Fate.announced (h : n.Fate now n' event?) (hlistening : n'.listening = n.listening) :
    n.Announced n' event? := by
  cases h with
  | spared halive _ => exact announced_of_eq hlistening halive
  | killed _ _ _ => exact announced_announce .failed hlistening

theorem announced_markDead (now : Time) (n : Node) :
    n.Announced (n.markDead now).1 (n.markDead now).2 := by
  refine (n.fate_markDead now).announced ?_
  unfold markDead
  split <;> rfl

theorem announced_markAlive (n : Node) : n.Announced n.markAlive.1 n.markAlive.2 := by
  unfold markAlive
  split
  · exact announced_of_eq rfl rfl
  · exact announced_announce .revived rfl

end Node

theorem Turn.Probes.announced {now : Time} {n : Node} {t : Task} {arrival? : Option Arrival} {turn : Turn}
    (h : turn.Probes now n t arrival?) : n.Announced turn.node turn.event? := by
  cases h with
  | begun _ _ hnode hevent _ _ | goesOn _ _ hnode hevent _ _ =>
      rw [hnode, hevent]
      exact Node.announced_of_eq rfl rfl
  | failed _ _ _ hnode hevent _ =>
      rw [hnode, hevent]
      exact Node.announced_of_eq rfl rfl
  | answered _ _ _ _ _ _ _ hnode hevent _ =>
      rw [hnode, hevent]
      exact n.announced_markAlive

/-- **No `Task.step` changes `Node.alive` of a node that is listened to without an
    announcement.** -/
theorem Task.announced_step {now : Time} {ticket : Ticket} {arrival? : Option Arrival} {n : Node}
    {t : Task} {turn : Turn} (hsounds : t.purpose = .revive → t.stage.Sounds)
    (hturn : t.step now ticket arrival? n = some turn) : n.Announced turn.node turn.event? := by
  by_cases hpurpose : t.purpose = .revive
  · exact (revive_step hpurpose (hsounds hpurpose) hturn).announced
  · have hlawful := lawful_step hturn
    exact (hlawful.fate hpurpose).announced hlawful.listening

namespace Fleet

variable {f f' : Fleet} {now : Time} {deed : Deed} {ticket : Ticket} {server : Endpoint}
  {begun : Bool} {script : Script}

/-- Every deed leaves the probes where a probe may stand (`Stage.Sounds`). -/
theorem Sounding.act (h : f.Sounding) (hact : f.act now deed = some f') : f'.Sounding := by
  intro ticket job hjob hflight
  cases jobOrigin_act hact hjob with
  | kept hjob _ => exact h ticket job hjob hflight
  | spawned hnew | swept hnew | launched hnew =>
      subst hnew
      trivial
  | turned hold hnode hturn hnew =>
      subst hnew
      have hpurpose := (Task.lawful_step hturn).task.symm.trans hflight.purpose
      have hsounds := h _ _ hold ⟨hpurpose, Task.unended_of_step hturn⟩
      cases Task.revive_step hpurpose hsounds hturn with
      | begun _ _ _ _ hsounds _ | goesOn _ _ _ _ hsounds _ => exact hsounds
      | failed _ _ _ _ _ hresult | answered _ _ _ _ _ _ _ _ _ hresult =>
          dsimp only
          rw [hresult]
          trivial

/-! ## The ring -/

/-- **A server that is missing from `Fleet.ring` is dead,** and a start has begun. -/
def Covers (begun : Bool) (f : Fleet) : Prop :=
  ∃ servers, f.ring = .ofEndpoints servers ∧ ∀ server node, f.nodes.lookup server = some node →
    server ∈ servers ∨ begun = true ∧ node.alive = false

/-- Changes are announced just if a start has begun, and until `Fleet.disposed` is set the ring
    lacks no living server. -/
structure Charted (begun : Bool) (f : Fleet) : Prop where
  keys : f.nodes.keys.Nodup
  sounding : f.Sounding
  listening : ∀ server node, f.nodes.lookup server = some node → node.listening = begun
  ring : f.disposed = false → f.Covers begun

theorem charted_ofServers (servers : List Endpoint) (settings : PoolSettings)
    (policy : PolicyChoice) : (ofServers servers settings policy).Charted false where
  keys := keys_ofServers servers settings policy
  sounding ticket job hjob := by
    have hnone : (ofServers servers settings policy).jobs.lookup ticket = none := rfl
    rw [hnone] at hjob
    contradiction
  listening server node hnode := by
    obtain rfl := lookup_ofServers servers settings policy hnode
    rfl
  ring _ := by
    refine ⟨servers.eraseDups, rfl, fun server node hnode => .inl ?_⟩
    exact servers_ofServers servers settings policy ▸ Table.mem_keys_of_lookup hnode

/-- But for `Deed.launch`, no deed changes `Node.listening`. -/
theorem listening_of_touched {n n' : Node} (h : n.Touched now f deed n') (hdeed : deed ≠ .launch) :
    n'.listening = n.listening := by
  cases h with
  | same | tended | closed => rfl
  | turn hjob hnode hturn => exact (Task.lawful_step hturn).listening
  | withdrawn ticket t =>
      unfold Task.withdraw
      split <;> rfl
  | dead => exact (n.announced_markDead now).listening
  | alive => exact n.announced_markAlive.listening
  | launched => exact absurd rfl hdeed

/-- A deed that leaves `Node.alive` of all nodes and the ring alone. -/
theorem Covers.of_each (h : f.Covers begun) (hring : f'.ring = f.ring)
    (heach : f.Each (fun n n' => n'.alive = n.alive) f') : f'.Covers begun := by
  obtain ⟨servers, hservers, hcovers⟩ := h
  refine ⟨servers, hring.trans hservers, fun server node' hnode' => ?_⟩
  obtain ⟨node, hnode, halive⟩ := heach.back hnode'
  rw [halive]
  exact hcovers server node hnode

theorem Covers.or (h : f.Covers begun) (launched : Bool) : f.Covers (begun || launched) := by
  obtain ⟨servers, hring, hcovers⟩ := h
  refine ⟨servers, hring, fun server node hnode => ?_⟩
  exact (hcovers server node hnode).imp_right fun hdead =>
    ⟨Bool.or_eq_true_iff.mpr (.inl hdead.1), hdead.2⟩

/-- The ring of `Fleet.working`. -/
theorem covers_rebuild (hkeys : f.nodes.keys.Nodup) (hring : f.ring = .ofEndpoints f.working) :
    f.Covers true := by
  refine ⟨f.working, hring, fun server node hnode => ?_⟩
  by_cases halive : node.alive = true
  · exact .inl ((Table.mem_select hkeys).mpr ⟨node, hnode, halive⟩)
  · exact .inr ⟨rfl, eq_false_of_ne_true halive⟩

/-- A change of a node that is `Node.Announced`. -/
theorem Charted.covers_notify (h : f.Charted begun) {n n' : Node} {event? : Option NodeEvent}
    (hnode : f.nodes.lookup server = some n) (hannounced : n.Announced n' event?)
    (hnodes : f'.nodes = f.nodes.insert server n') (hring : f'.ring = f.ring)
    (hdisposed : f'.disposed = f.disposed) (hopen : f.disposed = false) :
    (f'.notify event?).Covers begun := by
  have hlistening := h.listening server n hnode
  cases event? with
  | none =>
      obtain ⟨servers, hservers, hcovers⟩ := h.ring hopen
      refine ⟨servers, hring.trans hservers, fun other node hother => ?_⟩
      have hlookup : f'.nodes.lookup other = some node := hother
      rw [hnodes, Table.lookup_insert] at hlookup
      split at hlookup
      · next hsame =>
          obtain rfl := Option.some.inj hlookup
          rw [hsame]
          refine (hcovers server n hnode).imp_right fun hdead => ⟨hdead.1, ?_⟩
          rw [hannounced.told (hlistening.trans hdead.1) rfl, hdead.2]
      · exact hcovers other node hlookup
  | some event =>
      -- an announcement has the ring built anew, of the nodes that live now
      have hbegun : begun = true := by
        by_contra hbefore
        have hsilent := hannounced.silent (hlistening.trans (eq_false_of_ne_true hbefore))
        contradiction
      have hnotify : f'.notify (some event) =
          { f'.rebuild with events := f'.events ++ [event] } :=
        if_neg (by rw [hdisposed, hopen]; exact Bool.false_ne_true)
      rw [hnotify, hbegun]
      refine covers_rebuild ?_ rfl
      show f'.nodes.keys.Nodup
      rw [hnodes]
      exact Table.nodup_keys_insert h.keys

theorem Charted.covers_update (h : f.Charted begun) {change : Node → Node × Option NodeEvent}
    (hannounced : ∀ n : Node, n.Announced (change n).1 (change n).2) (hopen : f.disposed = false) :
    (f.update server change).Covers begun := by
  unfold update
  split
  · exact h.ring hopen
  · next n hnode => exact h.covers_notify hnode (hannounced n) rfl rfl rfl hopen

/-- A start begins with the ring as it is, and every server is listened to from `Fleet.launch`
    on. -/
theorem Charted.covers_launch (h : f.Charted begun) (hopen : f.disposed = false) :
    f.launch.1.Covers true := by
  obtain ⟨jobs, hlaunch⟩ := launch_eq f
  have hnodes : f.launch.1.nodes =
      f.nodes.mapValues fun node => { node with listening := true } := by
    rw [hlaunch]
  have hring : f.launch.1.ring = f.ring := by
    rw [hlaunch]
  have heach : f.Each (fun n n' => n'.alive = n.alive) f.launch.1 := by
    refine .of_mapValues ?_ hnodes
    exact fun _ => rfl
  have hcovers := ((h.ring hopen).of_each hring heach).or true
  rwa [Bool.or_true] at hcovers

/-- **No deed takes a living server off the ring** (`Fleet.Covers`). -/
theorem Charted.covers_act (h : f.Charted begun) (hdeed : deed = .settled → begun = true)
    (hact : f.act now deed = some f') (hopen : f.disposed = false) (hopen' : f'.disposed = false) :
    f'.Covers (begun || decide (deed = .launch)) := by
  have hsame : f'.nodes = f.nodes → f'.ring = f.ring → f'.Covers begun := fun hnodes hring =>
    (h.ring hopen).of_each hring (.of_eq (fun _ => rfl) hnodes)
  cases deed with
  | launch =>
      obtain rfl := Option.some.inj hact
      rw [decide_eq_true rfl, Bool.or_true]
      exact h.covers_launch hopen
  | settled =>
      obtain rfl := Option.some.inj hact
      rw [hdeed rfl, Bool.true_or]
      unfold settled
      split
      · exact covers_rebuild h.keys rfl
      · exact covers_rebuild h.keys rfl
  | step ticket arrival? =>
      obtain ⟨job, node, turn, hjob, hnode, hturn, rfl⟩ := act_step hact
      refine Covers.or ?_ _
      refine h.covers_notify hnode (Task.announced_step (fun hpurpose => ?_) hturn) rfl rfl rfl hopen
      exact h.sounding ticket job hjob ⟨hpurpose, Task.unended_of_step hturn⟩
  | markDead server =>
      obtain rfl := Option.some.inj hact
      refine Covers.or ?_ _
      exact h.covers_update (Node.announced_markDead now) hopen
  | markAlive server =>
      obtain rfl := Option.some.inj hact
      refine Covers.or ?_ _
      exact h.covers_update Node.announced_markAlive hopen
  | tend server tending =>
      obtain rfl := Option.some.inj hact
      refine Covers.or ?_ _
      exact h.covers_update (fun _ => Node.announced_of_eq rfl rfl) hopen
  | cancel ticket =>
      obtain rfl := Option.some.inj hact
      refine Covers.or ?_ _
      unfold cancel
      split
      · next job node hjob =>
          refine (h.ring hopen).of_each rfl
            (.of_insert (fun _ => rfl) (job?_eq_some_iff.mp hjob).2 ?_ rfl)
          unfold Task.withdraw
          split <;> rfl
      · exact (h.ring hopen).of_each rfl (.of_eq (fun _ => rfl) rfl)
  | sweep =>
      refine Covers.or ?_ _
      cases swept_of_sweep hact with
      | idle => exact hsame rfl rfl
      | probed =>
          obtain ⟨jobs, hspawn⟩ := spawnAll_eq f ((f.due now).map fun server => (server, .revive))
          refine hsame (spawnAll_nodes ..) ?_
          rw [hspawn]
      | rested =>
          obtain ⟨jobs, ended, hforget, -⟩ := forgetAll_eq f _
          refine hsame ?_ ?_
          all_goals
            rw [hforget]
            rfl
  | dispose =>
      obtain rfl := Option.some.inj hact
      rw [dispose, if_neg (by rw [hopen]; exact Bool.false_ne_true)] at hopen'
      contradiction
  | spawn | forget | drain =>
      obtain rfl := Option.some.inj hact
      exact (hsame rfl rfl).or _

theorem charted_act (h : f.Charted begun) (hdeed : deed = .settled → begun = true)
    (hact : f.act now deed = some f') : f'.Charted (begun || decide (deed = .launch)) where
  keys := (touched_act hact).keys h.keys
  sounding := h.sounding.act hact
  listening server node' hnode' := by
    by_cases hlaunch : deed = .launch
    · subst hlaunch
      obtain rfl := Option.some.inj hact
      rw [decide_eq_true rfl, Bool.or_true]
      exact listening_launch f server node' hnode'
    · obtain ⟨node, hnode, htouched⟩ := (touched_act hact).back hnode'
      rw [decide_eq_false hlaunch, Bool.or_false, listening_of_touched htouched hlaunch]
      exact h.listening server node hnode
  ring hopen' := by
    have hopen : f.disposed = false := by
      have hruled := (ruled_act hact).disposed
      rw [hopen'] at hruled
      exact (Bool.or_eq_false_iff.mp hruled.symm).1
    exact h.covers_act hdeed hact hopen hopen'

end Fleet

/-! ## Histories -/

/-- In a script there is no `Deed.settled` before a `Deed.launch`. -/
def Script.InOrder : Bool → Script → Prop
  | _, [] => True
  | begun, (_, deed) :: later =>
    (deed = .settled → begun = true) ∧ InOrder (begun || decide (deed = .launch)) later

instance Script.decidableInOrder : (begun : Bool) → (script : Script) →
    Decidable (Script.InOrder begun script)
  | _, [] => .isTrue trivial
  | begun, (_, deed) :: later =>
    have := decidableInOrder (begun || decide (deed = .launch)) later
    inferInstanceAs (Decidable ((deed = .settled → begun = true) ∧
      Script.InOrder (begun || decide (deed = .launch)) later))

namespace Fleet

variable {f f' : Fleet} {begun : Bool} {script : Script}

theorem charted_play (h : f.Charted begun) (horder : Script.InOrder begun script)
    (hplay : f.play script = some f') : ∃ begun', f'.Charted begun' := by
  induction script generalizing f begun with
  | nil =>
      obtain rfl := Option.some.inj hplay
      exact ⟨begun, h⟩
  | cons first later ih =>
      obtain ⟨f₁, hact, hlater⟩ := play_cons hplay
      exact ih (charted_act h horder.1 hact) horder.2 hlater

/-- **The fleets that arise**: what has become of `Fleet.ofServers`, whatever was done in a
    script. -/
def Arisen (f : Fleet) : Prop :=
  ∃ servers settings policy history, Script.InOrder false history ∧
    (ofServers servers settings policy).play history = some f

theorem arisen_ofServers (servers : List Endpoint) (settings : PoolSettings)
    (policy : PolicyChoice) : (ofServers servers settings policy).Arisen :=
  ⟨servers, settings, policy, [], trivial, rfl⟩

theorem Arisen.booked (h : f.Arisen) : f.Booked := by
  obtain ⟨servers, settings, policy, history, -, hplay⟩ := h
  exact booked_play (booked_ofServers servers settings policy) hplay

/-- **Every living server of a fleet that has arisen is on the ring** (`Fleet.isAlive?`). -/
theorem Arisen.exists_servers (h : f.Arisen) (hopen : f.disposed = false) :
    ∃ servers, f.ring = .ofEndpoints servers ∧
      ∀ server, f.isAlive? server = some true → server ∈ servers := by
  obtain ⟨servers, settings, policy, history, horder, hplay⟩ := h
  obtain ⟨begun, hcharted⟩ :=
    charted_play (charted_ofServers servers settings policy) horder hplay
  obtain ⟨members, hring, hcovers⟩ := hcharted.ring hopen
  refine ⟨members, hring, fun server halive => ?_⟩
  obtain ⟨node, hnode, hlive⟩ := Option.map_eq_some_iff.mp halive
  rcases hcovers server node hnode with hmember | ⟨-, hdead⟩
  · exact hmember
  · rw [hlive] at hdead
    contradiction

/-- **A key has one living owner**, `Fleet.locate`, whatever happens, for as long as the same
    servers are alive. -/
theorem Arisen.owner_unique (h : f.Arisen) (h' : f'.Arisen) (hopen : f.disposed = false)
    (hopen' : f'.disposed = false)
    (hliving : ∀ server, f.isAlive? server = some true ↔ f'.isAlive? server = some true)
    {key : String} {owner owner' : Endpoint} (howner : f.locate key = some owner)
    (howner' : f'.locate key = some owner') (halive : f.isAlive? owner = some true)
    (halive' : f'.isAlive? owner' = some true) : owner = owner' := by
  obtain ⟨servers, hring, hmember⟩ := h.exists_servers hopen
  obtain ⟨servers', hring', hmember'⟩ := h'.exists_servers hopen'
  rw [locate, hring] at howner
  rw [locate, hring'] at howner'
  exact Ring.locate_unique howner howner' (hmember' owner ((hliving owner).mp halive))
    (hmember owner' ((hliving owner').mpr halive'))

end Fleet

end Memcache
