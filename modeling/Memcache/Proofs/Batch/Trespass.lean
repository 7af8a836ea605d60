import Mathlib
import Memcache.Proofs.Batch.Exactness
import Memcache.Proofs.Client.Gathering

/-!
# `Memcache.Proofs.Batch.Trespass` — servers that answer for keys of others

A batched read asks each server for its own share, but `Batch.absorb` takes what a server reports if
anybody was to be asked for it: it looks a key of `Reply.found` up in `Batch.callerKeys`, which is
of the whole batch, and not in the share. So a server can answer for a key that another server owns.
If the owner has the key, the later of the two values counts; if it has not, or fails, the forged
value is what the caller gets.

A key that no server but its owner names is out of reach of the others (`World.Undisputed`). Its
entry is told by what its owner reports, and so it is the same in any two courses of the read in
which the same happens at its owner, whatever the other servers send and in whatever order the
shares end.

## Contents

* `Batch.lookup_merge_of_only`, `Batch.lookup_merge_of_none` — a key that one response is about, or
  none;
* `Client.wireKey_of_callerKeys` — under which key a result is entered;
* `TaskResult.named`, `World.Undisputed` — **a key that nobody names but its owner**;
* `World.undisputed_isolated` — **its entry is in no other server's hands**;
* `World.trespass` — other keys have no such protection.
-/

namespace Memcache

/-! ## One key in what was put together -/

namespace Batch

variable {b : Batch} {t : Transcoder} {key : String}

/-- Findings that are not about a key are not found under it. -/
theorem lookup_reverse_findings {responses : List Response}
    (h : ∀ r ∈ responses, ∀ v, (key, v) ∉ b.findings t r) :
    Table.lookup key (responses.flatMap (b.findings t)).reverse = none := by
  apply Table.lookup_of_not_mem_keys
  intro hkey
  obtain ⟨⟨key, v⟩, hmem, rfl⟩ := List.mem_map.mp hkey
  obtain ⟨r, hr, hfinding⟩ := List.mem_flatMap.mp (List.mem_reverse.mp hmem)
  exact h r hr v hfinding

/-- Nothing is found by `Batch.merge` under a key that no response is about. -/
theorem lookup_merge_of_none {responses : List Response}
    (h : ∀ r ∈ responses, ∀ v, (key, v) ∉ b.findings t r) :
    (b.merge t responses).lookup key = none := by
  rw [merge_eq, Table.lookup_write_reverse, lookup_reverse_findings h]
  rfl

/-- **If one response is about a key and the others are not**, then these make no difference to
    `Batch.merge`, wherever they stand. -/
theorem lookup_merge_of_only {before after : List Response} {r : Response}
    (hbefore : ∀ r ∈ before, ∀ v, (key, v) ∉ b.findings t r)
    (hafter : ∀ r ∈ after, ∀ v, (key, v) ∉ b.findings t r) :
    (b.merge t (before ++ r :: after)).lookup key = (b.merge t [r]).lookup key := by
  simp only [merge_eq, Table.lookup_write_reverse, List.flatMap_append, List.flatMap_cons,
    List.flatMap_nil, List.reverse_append, Table.lookup_append, List.append_nil,
    lookup_reverse_findings hbefore, lookup_reverse_findings hafter, Option.none_or, Option.or_none]

end Batch

/-- What is sent leads back in `Client.callerKeys` to a key that it was made of. -/
theorem Client.wireKey_of_callerKeys {c : Client} {keys : List String}
    {known table : Table String String} (htable : c.callerKeys keys known = .ok table)
    (hknown : ∀ wire key, known.lookup wire = some key → c.wireKey key = .ok wire) :
    ∀ wire key, table.lookup wire = some key → c.wireKey key = .ok wire := by
  induction keys generalizing known with
  | nil =>
      obtain rfl := Except.ok.inj htable
      exact hknown
  | cons first later ih =>
      rw [callerKeys] at htable
      cases hfirst : c.wireKey first with
      | error e =>
          rw [hfirst] at htable
          cases htable
      | ok wire =>
          rw [hfirst] at htable
          refine ih htable fun wire' key' hkey' => ?_
          rw [Table.lookup_insert] at hkey'
          split at hkey'
          · next hsame =>
              obtain rfl := Option.some.inj hkey'
              rw [hsame, hfirst]
          · exact hknown wire' key' hkey'

/-- The owner of a key is among `Ring.endpoints`. -/
theorem Ring.mem_endpoints_of_owner {ring : Ring} {place : UInt32} {server : Endpoint}
    (h : ring.owner place = some server) : server ∈ ring.endpoints := by
  unfold owner at h
  dsimp only at h
  split at h
  · contradiction
  · exact List.mem_of_getElem? h

/-- The `Plan.batch` of a batched read that is not refused. -/
theorem Client.exists_table_of_plan {c : Client} {clock : WallTime} {f : Fleet} {keys : List String}
    {plan : Plan} (h : c.plan clock f (.getManyWithCas keys) = .ok plan) :
    ∃ table, c.callerKeys keys [] = .ok table ∧ plan = .batch (.of f.locate table) := by
  unfold Client.plan at h
  dsimp only at h
  split at h
  · contradiction
  · split at h
    · contradiction
    · split at h
      · contradiction
      · next table htable => exact ⟨table, htable, (Except.ok.inj h).symm⟩

/-! ## Keys that nobody else names -/

/-- The keys of `Reply.found` that a server has named in an answer that counts. -/
def TaskResult.named : TaskResult → List String
  | .executed outcome reply => if outcome.success then reply.found.keys else []
  | _ => []

namespace Sim.World

/-- **Nobody has named a key but its owner**: of the tasks of a call only that on `Fleet.locate` of
    the key has it among `TaskResult.named`. -/
def Undisputed (w : World) (r : Request) (f : Fleet) (wire : String) : Prop :=
  ∀ ticket ∈ (w.asked r).2.tickets, (w.started r).home? ticket ≠ w.fleet.locate wire →
    ∀ result ∈ f.result? ticket, wire ∉ result.named

instance (w : World) (r : Request) (f : Fleet) (wire : String) :
    Decidable (w.Undisputed r f wire) :=
  inferInstanceAs (Decidable (∀ ticket ∈ (w.asked r).2.tickets, _ → ∀ result ∈ f.result? ticket, _))

variable {w : World} {keys : List String} {table : Table String String} {f f' : Fleet}
  {script script' : Memcache.Script} {responses : List Response} {wire key : String}

/-- The responses of all but the owner are not about a key that is `World.Undisputed`. -/
theorem Undisputed.not_mem_findings (h : w.Undisputed (.getManyWithCas keys) f wire)
    (htable : w.client.callerKeys keys [] = .ok table)
    (hplan : w.client.plan w.clock w.fleet (.getManyWithCas keys) =
      .ok (.batch (.of w.fleet.locate table)))
    (hgathered : Gathered f w.fleet.nextTicket (.batch (.of w.fleet.locate table)) responses)
    (hwire : w.client.wireKey key = .ok wire) {response : Response} (hresponse : response ∈ responses)
    (howner : w.fleet.locate wire ≠ some response.server) (v : Versioned Value) :
    (key, v) ∉ (Batch.of w.fleet.locate table).findings w.client.transcoder response := by
  intro hfinding
  obtain ⟨hsuccess, wire', item, hfound, hkey, -⟩ := Batch.mem_findings.mp hfinding
  rw [Batch.callerKeys_of] at hkey
  have hsent := Client.wireKey_of_callerKeys htable (fun _ _ hnone => nomatch hnone) wire' key hkey
  obtain rfl : wire = wire' := Except.ok.inj (hwire.symm.trans hsent)
  obtain ⟨i, command, hshare, hresult⟩ := (hgathered.mem response).mp hresponse
  have hhome := home_started hplan hshare
  refine h _ (mem_tickets hplan hshare) ?_ _ hresult ?_
  · rw [hhome]
    exact howner.symm
  · show wire ∈ if response.outcome.success then response.reply.found.keys else []
    rw [if_pos hsuccess]
    exact List.mem_map_of_mem hfound

/-- **What is found under an undisputed key is told by its owner's response**, if it has an owner
    that was asked. -/
theorem Undisputed.lookup_merge (h : w.Undisputed (.getManyWithCas keys) f wire)
    (htable : w.client.callerKeys keys [] = .ok table)
    (hplan : w.client.plan w.clock w.fleet (.getManyWithCas keys) =
      .ok (.batch (.of w.fleet.locate table)))
    (hgathered : Gathered f w.fleet.nextTicket (.batch (.of w.fleet.locate table)) responses)
    (hwire : w.client.wireKey key = .ok wire) :
    (∀ response ∈ responses, w.fleet.locate wire = some response.server →
      ((Batch.of w.fleet.locate table).merge w.client.transcoder responses).lookup key =
        ((Batch.of w.fleet.locate table).merge w.client.transcoder [response]).lookup key) ∧
    ((∀ response ∈ responses, w.fleet.locate wire ≠ some response.server) →
      ((Batch.of w.fleet.locate table).merge w.client.transcoder responses).lookup key = none) := by
  have hsilent : ∀ response ∈ responses, w.fleet.locate wire ≠ some response.server → ∀ v,
      (key, v) ∉ (Batch.of w.fleet.locate table).findings w.client.transcoder response :=
    fun response => h.not_mem_findings htable hplan hgathered hwire
  refine ⟨?_, fun hothers => Batch.lookup_merge_of_none fun response hresponse =>
    hsilent response hresponse (hothers response hresponse)⟩
  intro response hresponse howner
  -- each server has one response, so those before and behind this one are of other servers
  have hservers : (responses.map Response.server).Nodup := by
    refine hgathered.servers.nodup_iff.mpr ?_
    unfold Plan.shares
    rw [List.map_map]
    exact Batch.nodup_keys_shares
  obtain ⟨before, after, rfl⟩ := List.append_of_mem hresponse
  rw [List.map_append, List.map_cons, List.nodup_append, List.nodup_cons] at hservers
  obtain ⟨-, ⟨hafter, -⟩, hbefore⟩ := hservers
  refine Batch.lookup_merge_of_only ?_ ?_
  · intro other hother
    refine hsilent other (List.mem_append_left _ hother) fun hsame => ?_
    obtain heq : response.server = other.server := Option.some.inj (howner.symm.trans hsame)
    exact hbefore other.server (List.mem_map_of_mem hother) response.server List.mem_cons_self heq.symm
  · intro other hother
    refine hsilent other (List.mem_append_right _ (List.mem_cons_of_mem _ hother)) fun hsame => ?_
    obtain heq : response.server = other.server := Option.some.inj (howner.symm.trans hsame)
    exact hafter (heq ▸ List.mem_map_of_mem hother)

/-- **An undisputed key is in no other server's hands.** Let a batched read be made in the same
    state in two ways, with a `suspect` among the servers: everywhere else the same happens, for as
    long as both last (`World.Course`, `Fleet.Alike`). Then the two answers agree on every key that
    `Fleet.locate` does not give to the suspect, if in neither of them the key is named by a server
    that does not own it (`World.Undisputed`). -/
theorem undisputed_isolated (hbooked : w.fleet.Booked) {plan : Plan}
    (hplan : w.client.plan w.clock w.fleet (.getManyWithCas keys) = .ok plan) {suspect : Endpoint}
    (hcourse : w.Course (.getManyWithCas keys) script f)
    (hcourse' : w.Course (.getManyWithCas keys) script' f')
    (halike : ∀ server ∈ w.fleet.ring.endpoints, server ≠ suspect →
      (w.started (.getManyWithCas keys)).Alike server script script') :
    ∃ found found', w.answer? (.getManyWithCas keys) f = some (.ok (.manyWithCas found)) ∧
      w.answer? (.getManyWithCas keys) f' = some (.ok (.manyWithCas found')) ∧
      ∀ key wire, w.client.wireKey key = .ok wire → w.fleet.locate wire ≠ some suspect →
        w.Undisputed (.getManyWithCas keys) f wire → w.Undisputed (.getManyWithCas keys) f' wire →
          found.lookup key = found'.lookup key := by
  obtain ⟨table, htable, rfl⟩ := Client.exists_table_of_plan hplan
  obtain ⟨responses, hgathered, hanswer⟩ := hcourse.gathered hbooked hplan
  obtain ⟨responses', hgathered', hanswer'⟩ := hcourse'.gathered hbooked hplan
  refine ⟨_, _, hanswer, hanswer', ?_⟩
  intro key wire hwire hsuspect hundisputed hundisputed'
  obtain ⟨hone, hnone⟩ := hundisputed.lookup_merge htable hplan hgathered hwire
  obtain ⟨hone', hnone'⟩ := hundisputed'.lookup_merge htable hplan hgathered' hwire
  by_cases howner : ∃ response ∈ responses, w.fleet.locate wire = some response.server
  · obtain ⟨response, hresponse, howner⟩ := howner
    have hresponse' : response ∈ responses' := by
      obtain ⟨i, command, hshare, hresult⟩ := (hgathered.mem response).mp hresponse
      refine (hgathered'.mem response).mpr ⟨i, command, hshare, ?_⟩
      rw [← hcourse.result_eq hbooked hplan hcourse' hshare, hresult]
      refine halike response.server (Ring.mem_endpoints_of_owner howner) fun hsame => ?_
      exact hsuspect (hsame ▸ howner)
    rw [hone response hresponse howner, hone' response hresponse' howner]
  · -- the same servers have responded in both courses
    have hsame : ∀ response ∈ responses', w.fleet.locate wire ≠ some response.server := by
      intro response' hresponse' hthere
      have hserver := (hgathered'.servers.trans hgathered.servers.symm).mem_iff.mp
        (List.mem_map_of_mem hresponse')
      obtain ⟨response, hresponse, heq⟩ := List.mem_map.mp hserver
      exact howner ⟨response, hresponse, heq ▸ hthere⟩
    rw [hnone fun response hresponse hthere => howner ⟨response, hresponse, hthere⟩, hnone' hsame]

/-- A client of two servers, each with one half of the circle. -/
def divided : World where
  client := spaced
  fleet := halves
  network := {}
  clock := 0

/-- A text that somebody has. -/
def textHit (text : String) : Hit where
  place := 0
  item := ⟨Flags.text, Text.encode text⟩
  cas := 7

/-- A batched read of a key of each half: the second server, which has the first share, is heard
    last. -/
def heardLast (owner suspect : Bytes) : Memcache.Script :=
  [(0, .step 0 none), (0, .step 0 (some (.connected 1))), (0, .step 1 none),
    (0, .step 1 (some (.connected 2))), (0, .step 1 (some (.octets owner))),
    (0, .step 0 (some (.octets suspect)))]

/-- The request for one key of each half. -/
def both : Request :=
  .getManyWithCas ["k", "l"]

/-- What `Fleet.Booked` says is about the tasks, of which there are none, and not about the ring. -/
theorem booked_divided : divided.fleet.Booked :=
  (Fleet.booked_ofServers [⟨"a:1"⟩, ⟨"b:2"⟩] {} .failImmediately).congr (Fleet.keys_ofServers ..)
    rfl rfl rfl

theorem plan_both : divided.client.plan divided.clock divided.fleet both =
    .ok (.batch ⟨[("ns:k", "k"), ("ns:l", "l")],
      [(⟨"b:2"⟩, ["ns:k"]), (⟨"a:1"⟩, ["ns:l"])]⟩) := by
  decide +kernel

/-- The key that the first server owns has its value also if the second one has its own key. -/
theorem undisputed_isolated_divided :
    ∃ f f' found found',
      divided.Course both (heardLast (Batch.answer ["ns:l"] 0 [textHit "own"])
        (Batch.answer ["ns:k"] 0 [])) f ∧
      divided.Course both (heardLast (Batch.answer ["ns:l"] 0 [textHit "own"])
        (Batch.answer ["ns:k"] 0 [textHit "other"])) f' ∧
      divided.answer? both f = some (.ok (.manyWithCas found)) ∧
      divided.answer? both f' = some (.ok (.manyWithCas found')) ∧
      found = [("l", ⟨.text "own", 7⟩)] ∧ found'.lookup "l" = some ⟨.text "own", 7⟩ := by
  obtain ⟨f, hcourse, hanswer, hundisputed⟩ : ∃ f, divided.Course both (heardLast
      (Batch.answer ["ns:l"] 0 [textHit "own"]) (Batch.answer ["ns:k"] 0 [])) f ∧
        divided.answer? both f = some (.ok (.manyWithCas [("l", ⟨.text "own", 7⟩)])) ∧ _ :=
    exists_course (fun f => divided.Undisputed both f "ns:l") (by decide +kernel)
  obtain ⟨f', hcourse', hanswer', hundisputed'⟩ : ∃ f, divided.Course both (heardLast
      (Batch.answer ["ns:l"] 0 [textHit "own"]) (Batch.answer ["ns:k"] 0 [textHit "other"])) f ∧
        divided.answer? both f = some (.ok (.manyWithCas
          [("l", ⟨.text "own", 7⟩), ("k", ⟨.text "other", 7⟩)])) ∧ _ :=
    exists_course (fun f => divided.Undisputed both f "ns:l") (by decide +kernel)
  have halike : ∀ server ∈ divided.fleet.ring.endpoints, server ≠ ⟨"b:2"⟩ →
      (divided.started both).Alike server
        (heardLast (Batch.answer ["ns:l"] 0 [textHit "own"]) (Batch.answer ["ns:k"] 0 []))
        (heardLast (Batch.answer ["ns:l"] 0 [textHit "own"])
          (Batch.answer ["ns:k"] 0 [textHit "other"])) := by
    decide +kernel
  obtain ⟨found, found', hfound, hfound', hsame⟩ :=
    undisputed_isolated booked_divided plan_both hcourse hcourse' halike
  have hl := hsame "l" "ns:l" (by decide +kernel) (by decide +kernel)
    (of_decide_eq_true hundisputed) (of_decide_eq_true hundisputed')
  obtain rfl : found = [("l", ⟨.text "own", 7⟩)] := by simpa using hfound.symm.trans hanswer
  exact ⟨f, f', _, found', hcourse, hcourse', hfound, hfound', rfl, hl.symm⟩

/-- **Other keys have no such protection**: what the `suspect` says of a key that it does not own is
    what the caller gets, if the owner has nothing to say of it. -/
theorem trespass :
    ¬ ∀ (w : World) (keys : List String) (plan : Plan) (suspect : Endpoint)
        (script script' : Memcache.Script) (f f' : Fleet)
        (found found' : Table String (Versioned Value)),
      w.fleet.Booked → w.client.plan w.clock w.fleet (.getManyWithCas keys) = .ok plan →
      w.Course (.getManyWithCas keys) script f → w.Course (.getManyWithCas keys) script' f' →
      (∀ server ∈ w.fleet.ring.endpoints, server ≠ suspect →
        (w.started (.getManyWithCas keys)).Alike server script script') →
      w.answer? (.getManyWithCas keys) f = some (.ok (.manyWithCas found)) →
      w.answer? (.getManyWithCas keys) f' = some (.ok (.manyWithCas found')) →
      ∀ key ∈ keys, ∀ wire, w.client.wireKey key = .ok wire →
        w.fleet.locate wire ≠ some suspect → found.lookup key = found'.lookup key := by
  intro hclaim
  obtain ⟨f, hcourse, hanswer, -⟩ : ∃ f, divided.Course both (heardLast
      (Batch.answer ["ns:l"] 0 []) (Batch.answer ["ns:k"] 0 [])) f ∧
        divided.answer? both f = some (.ok (.manyWithCas [])) ∧ _ :=
    exists_course (fun _ => true) (by decide +kernel)
  obtain ⟨f', hcourse', hanswer', -⟩ : ∃ f, divided.Course both (heardLast
      (Batch.answer ["ns:l"] 0 []) (Batch.answer ["ns:l"] 0 [textHit "forged"])) f ∧
        divided.answer? both f =
          some (.ok (.manyWithCas [("l", ⟨.text "forged", 7⟩)])) ∧ _ :=
    exists_course (fun _ => true) (by decide +kernel)
  have hsame := hclaim divided ["k", "l"] _ ⟨"b:2"⟩ _ _ f f' _ _ booked_divided plan_both hcourse
    hcourse' (by decide +kernel) hanswer hanswer' "l" (by decide) "ns:l" (by decide +kernel)
    (by decide +kernel)
  exact absurd hsame (by decide)

end Sim.World

end Memcache
