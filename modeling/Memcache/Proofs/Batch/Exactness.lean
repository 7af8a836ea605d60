import Mathlib
import Memcache.Proofs.Batch.Answer
import Memcache.Proofs.Batch.Shares

/-!
# `Memcache.Proofs.Batch.Exactness` — batched reads are complete and exact

`Client.plan` cuts a batched read into the shares of a `Batch`, each share is a `Command.multiGet`
on the node of its owner, and `Batch.merge` puts what the servers found together under the caller's
own keys, in the order in which the commands end. Whatever the servers have and whichever of them
fail, the result holds a value for a key just if its owner read its share, reported the key, and
`Value.ofItem` decodes the item; and so the order makes no difference.

## Contents

* `Batch.merge_eq` — a merge writes what each response adds;
* `Service`, `Service.Serves` — what became of a share on its node; `Service.exists_failing`,
  `Service.exists_answering` — every outcome can occur;
* `Client.Due` — the values that are due to a key; `Client.Tabled.lookup_merge` — **they are what is
  found, in any order**;
* `batched_read_exact` — **every key with a living owner is sent once, and the result is exact**;
* `batched_read_refused` — the reads that are not carried out.
-/

namespace Memcache

/-! ## What a response adds -/

namespace Batch

/-- What `Batch.absorb` adds to the result for an entry that a server found. -/
def finding (b : Batch) (t : Transcoder) (entry : String × Versioned Item) :
    Option (String × Versioned Value) :=
  match b.callerKeys.lookup entry.1, t.deserialize entry.2.value with
  | some key, .ok value => some (key, ⟨value, entry.2.cas⟩)
  | _, _ => none

/-- What `Batch.absorb` adds to the result for a response. -/
def findings (b : Batch) (t : Transcoder) (r : Response) : List (String × Versioned Value) :=
  if r.outcome.success then r.reply.found.filterMap (b.finding t) else []

theorem absorb_eq (b : Batch) (t : Transcoder) (found : Table String (Versioned Value))
    (r : Response) : b.absorb t found r = found.write (b.findings t r) := by
  unfold absorb findings
  by_cases hsuccess : r.outcome.success = true
  · rw [if_pos hsuccess, if_pos hsuccess]
    induction r.reply.found generalizing found with
    | nil => rfl
    | cons entry entries ih =>
        rw [List.foldl_cons, ih, List.filterMap_cons]
        unfold finding
        cases b.callerKeys.lookup entry.1 with
        | none => rfl
        | some key =>
            cases t.deserialize entry.2.value with
            | error e => rfl
            | ok value => rfl
  · rw [if_neg hsuccess, if_neg hsuccess]
    rfl

/-- What `Batch.merge` writes is what each response adds, `Batch.findings`. -/
theorem merge_eq (b : Batch) (t : Transcoder) (responses : List Response) :
    b.merge t responses = Table.write (responses.flatMap (b.findings t)) [] := by
  have hfold : ∀ found, responses.foldl (b.absorb t) found =
      found.write (responses.flatMap (b.findings t)) := by
    induction responses with
    | nil => exact fun found => rfl
    | cons r responses ih =>
        intro found
        rw [List.foldl_cons, ih, absorb_eq, List.flatMap_cons, Table.write_append]
  exact hfold []

theorem mem_findings {b : Batch} {t : Transcoder} {r : Response} {key : String}
    {v : Versioned Value} :
    (key, v) ∈ b.findings t r ↔ r.outcome.success = true ∧ ∃ wire item,
      (wire, item) ∈ r.reply.found ∧ b.callerKeys.lookup wire = some key ∧
        t.deserialize item.value = .ok v.value ∧ v.cas = item.cas := by
  unfold findings
  by_cases hsuccess : r.outcome.success = true
  · rw [if_pos hsuccess, List.mem_filterMap]
    constructor
    · rintro ⟨⟨wire, item⟩, hmem, hfinding⟩
      unfold finding at hfinding
      split at hfinding
      · next key' value hkey hvalue =>
          obtain ⟨rfl, rfl⟩ := Prod.mk.inj (Option.some.inj hfinding)
          exact ⟨hsuccess, wire, item, hmem, hkey, hvalue, rfl⟩
      · cases hfinding
    · rintro ⟨-, wire, item, hmem, hkey, hvalue, hcas⟩
      refine ⟨(wire, item), hmem, ?_⟩
      unfold finding
      rw [hkey, hvalue, ← hcas]
  · rw [if_neg hsuccess]
    simp [hsuccess]

end Batch

/-! ## What became of a share -/

/-- What became of a share on the node of its owner, and which `hits` the server has of it. -/
structure Service where
  ticket : Ticket
  /-- The node and the task at the end. -/
  node : Node
  task : Task
  effects : List Effect
  heard : Bytes
  outcome : Outcome Unit
  reply : Reply
  /-- The first tag of the request. -/
  base : UInt32
  hits : List Hit

namespace Service

/-- The server got the share and answered as the protocol has it (`Batch.answer`), perhaps not to
    the end. -/
structure Answers (s : Service) (share : List String) : Prop where
  sent : ∃ link, requests s.effects = [(link, (Command.multiGet share).encode s.base)]
  proper : Batch.Proper share s.hits
  heard : s.heard <+: Batch.answer share s.base s.hits

/-- **The share was dealt with**: its task took its `Task.Course` to the end, and the command failed
    or the server answered. -/
structure Serves (s : Service) (share : List String) : Prop where
  course : Task.Course s.ticket (.multiGet share) s.node s.task s.effects s.heard
  result : s.task.result? = some (.executed s.outcome s.reply)
  conduct : s.outcome.success = false ∨ s.Answers share

/-- What is known of a share that was dealt with: its node was sent it once or not at all, and the
    command succeeds only with the whole of the answer, and with it does succeed within the limits
    of `Batch.Moderate`. -/
structure Accounted (s : Service) (share : List String) : Prop where
  sent_once : requests s.effects = [] ∨
    ∃ link base, requests s.effects = [(link, (Command.multiGet share).encode base)]
  whole : s.outcome.success = true → s.heard = Batch.answer share s.base s.hits
  success : s.Answers share → Batch.Moderate share s.hits →
    s.heard = Batch.answer share s.base s.hits → s.outcome.success = true

/-- What the client gets, as a `Response`. -/
def response (s : Service) (server : Endpoint) : Response :=
  ⟨server, s.outcome, s.reply⟩

variable {s : Service} {share : List String}

theorem Serves.served (h : s.Serves share) :
    Served (.multiGet share) (requests s.effects) s.heard s.outcome s.reply := by
  obtain ⟨outcome, reply, hresult, hserved⟩ := h.course.served h.result
  obtain ⟨rfl, rfl⟩ := TaskResult.executed.inj hresult
  exact hserved

/-- A node is sent its share once, or nothing. -/
theorem Serves.requests_eq (h : s.Serves share) :
    requests s.effects = [] ∨
      ∃ link base, requests s.effects = [(link, (Command.multiGet share).encode base)] := by
  cases h.served with
  | unsent hsent _ _ => exact .inl hsent
  | failed link base hsent _ _ => exact .inr ⟨link, base, hsent⟩
  | answered link base hsent _ _ _ => exact .inr ⟨link, base, hsent⟩

/-- What `Reply.found` of a command that succeeded has is what the server has, and the server has
    answered to the end. -/
theorem Serves.of_success (h : s.Serves share) (hkeys : ∀ key ∈ share, Key.validate key = .ok ())
    (hsuccess : s.outcome.success = true) :
    Batch.Proper share s.hits ∧ s.heard = Batch.answer share s.base s.hits ∧
      s.reply.found = Table.write (s.hits.map (Hit.entry share)) [] := by
  rcases h.conduct with hfailed | hanswers
  · rw [hfailed] at hsuccess
    cases hsuccess
  · obtain ⟨link, hsent⟩ := hanswers.sent
    exact ⟨hanswers.proper, h.served.found_of_success hsuccess hsent hkeys hanswers.proper
      hanswers.heard⟩

theorem Serves.accounted (h : s.Serves share) (hkeys : ∀ key ∈ share, Key.validate key = .ok ()) :
    s.Accounted share where
  sent_once := h.requests_eq
  whole hsuccess := (h.of_success hkeys hsuccess).2.1
  success hanswers hmoderate hheard := by
    obtain ⟨link, hsent⟩ := hanswers.sent
    exact h.served.success_of_answer hsent hkeys hanswers.proper hmoderate hheard

/-! ## Every outcome can occur -/

/-- A share can be dealt with by a server whose `Node.alive` is cleared. -/
theorem exists_failing (server : Endpoint) (share : List String) :
    ∃ s : Service, s.Serves share ∧ s.outcome.success = false := by
  have hcourse : Task.Course 0 (.multiGet share) _ _ _ _ :=
    .stepped 0 none (.begun
      (n := { Node.new server {} .failImmediately with alive := false })
      (Pool.sound_new server {}) rfl) nofun rfl
  exact ⟨⟨0, _, _, _, _, _, _, 0, []⟩, ⟨hcourse, rfl, .inl rfl⟩, rfl⟩

/-- A share can be dealt with by a server that has any of its keys. -/
theorem exists_answering (server : Endpoint) {hits : List Hit}
    (hkeys : ∀ key ∈ share, Key.validate key = .ok ()) (hproper : Batch.Proper share hits)
    (hmoderate : Batch.Moderate share hits) :
    ∃ s : Service, s.Serves share ∧ s.outcome.success = true ∧ s.hits = hits := by
  have hread := Command.scan_answer_of_moderate 0 hkeys hproper hmoderate
  have hended : (((Command.multiGet share).exchange 0).scan (Batch.answer share 0 hits)).2.2 =
      .ended (.ok ()) := by rw [hread]
  obtain ⟨n, t, hcourse, hresult⟩ :=
    Task.Course.exists_answered server {} .failImmediately 0 0 hended
  rw [hread] at hresult
  refine ⟨⟨0, n, t, _, _, _, _, 0, hits⟩, ⟨hcourse, hresult, .inr ?_⟩, rfl, rfl⟩
  exact ⟨⟨0, rfl⟩, hproper, List.prefix_refl _⟩

end Service

namespace Batch.Proper

variable {share : List String} {hits : List Hit}

theorem getElem?_place (h : Batch.Proper share hits) {hit : Hit} (hhit : hit ∈ hits) :
    share[hit.place]? = some (hit.key share) := by
  unfold Hit.key
  rw [List.getElem?_eq_getElem (h.place_lt hit hhit)]
  rfl

/-- Hits on a share without doubles are `Table.Consistent`. -/
theorem consistent (h : Batch.Proper share hits) (hshare : share.Nodup) :
    Table.Consistent (hits.map (Hit.entry share)) := by
  intro wire item item' hitem hitem'
  obtain ⟨hit, hhit, heq⟩ := List.mem_map.mp hitem
  obtain ⟨hit', hhit', heq'⟩ := List.mem_map.mp hitem'
  obtain ⟨hwire, rfl⟩ := Prod.mk.inj heq
  obtain ⟨hwire', rfl⟩ := Prod.mk.inj heq'
  have hplace : hit.place = hit'.place := by
    have hat := h.getElem?_place hhit
    rw [hwire, ← hwire', ← h.getElem?_place hhit'] at hat
    exact (List.getElem?_inj (h.place_lt hit hhit) hshare).mp hat
  rw [List.inj_on_of_nodup_map h.nodup hhit hhit' hplace]

/-- What `Reply.found` has by the hits. -/
theorem mem_found (h : Batch.Proper share hits) (hshare : share.Nodup) {wire : String}
    {item : Versioned Item} :
    (wire, item) ∈ Table.write (hits.map (Hit.entry share)) [] ↔
      ∃ hit ∈ hits, share[hit.place]? = some wire ∧ item = ⟨hit.item, hit.cas⟩ := by
  rw [← Table.lookup_eq_some_iff (Table.nodup_keys_write_nil _),
    Table.lookup_write (h.consistent hshare), List.mem_map]
  constructor
  · rintro ⟨hit, hhit, heq⟩
    obtain ⟨rfl, rfl⟩ := Prod.mk.inj heq
    exact ⟨hit, hhit, h.getElem?_place hhit, rfl⟩
  · rintro ⟨hit, hhit, hplace, rfl⟩
    rw [h.getElem?_place hhit] at hplace
    exact ⟨hit, hhit, Prod.ext (Option.some.inj hplace) rfl⟩

end Batch.Proper

/-! ## What is found -/

namespace Client

/-- The values that are due to a key: the owner of `Client.wireKey` read its share and reported the
    key, and `Client.transcoder` decodes the item. -/
def Due (c : Client) (locate : String → Option Endpoint) (b : Batch)
    (service : Endpoint → Service) (key : String) (v : Versioned Value) : Prop :=
  ∃ wire server share, c.wireKey key = .ok wire ∧ locate wire = some server ∧
    (server, share) ∈ b.shares ∧ (service server).outcome.success = true ∧
      ∃ hit ∈ (service server).hits, share[hit.place]? = some wire ∧
        c.transcoder.deserialize hit.item = .ok v.value ∧ v.cas = hit.cas

section Merge
variable {c : Client} {keys : List String} {table : Table String String}
  {locate : String → Option Endpoint} {service : Endpoint → Service} {server : Endpoint}
  {share : List String} {key : String} {v : Versioned Value}

theorem Tabled.nodup_share (h : c.Tabled keys table)
    (hshare : (server, share) ∈ (Batch.of locate table).shares) : share.Nodup := by
  obtain rfl := Batch.share_of hshare
  exact h.nodup.filter _

theorem Tabled.valid_share (h : c.Tabled keys table)
    (hshare : (server, share) ∈ (Batch.of locate table).shares) :
    ∀ wire ∈ share, Key.validate wire = .ok () := by
  obtain rfl := Batch.share_of hshare
  intro wire hwire
  obtain ⟨key, -, hkey⟩ := h.mem_keys.mp (List.mem_filter.mp hwire).1
  exact (wireKey_eq_ok hkey).2

/-- What `Batch.findings` adds to the result for the response to a share. -/
theorem Tabled.mem_findings (h : c.Tabled keys table)
    (hshare : (server, share) ∈ (Batch.of locate table).shares)
    (hserves : (service server).Serves share) :
    (key, v) ∈ (Batch.of locate table).findings c.transcoder ((service server).response server) ↔
      key ∈ keys ∧ (service server).outcome.success = true ∧ ∃ wire, c.wireKey key = .ok wire ∧
        ∃ hit ∈ (service server).hits, share[hit.place]? = some wire ∧
          c.transcoder.deserialize hit.item = .ok v.value ∧ v.cas = hit.cas := by
  have hnodup := h.nodup_share hshare
  rw [Batch.mem_findings, Batch.callerKeys_of]
  constructor
  · rintro ⟨hsuccess, wire, item, hfound, hkey, hvalue, hcas⟩
    obtain ⟨hproper, -, hreply⟩ := hserves.of_success (h.valid_share hshare) hsuccess
    have hfound : (wire, item) ∈ (service server).reply.found := hfound
    rw [hreply, hproper.mem_found hnodup] at hfound
    obtain ⟨hit, hhit, hplace, rfl⟩ := hfound
    obtain ⟨hkey, hwire⟩ := (h.lookup wire key).mp hkey
    exact ⟨hkey, hsuccess, wire, hwire, hit, hhit, hplace, hvalue, hcas⟩
  · rintro ⟨hkey, hsuccess, wire, hwire, hit, hhit, hplace, hvalue, hcas⟩
    obtain ⟨hproper, -, hreply⟩ := hserves.of_success (h.valid_share hshare) hsuccess
    refine ⟨hsuccess, wire, ⟨hit.item, hit.cas⟩, ?_, (h.lookup wire key).mpr ⟨hkey, hwire⟩, hvalue,
      hcas⟩
    show (wire, _) ∈ (service server).reply.found
    rw [hreply, hproper.mem_found hnodup]
    exact ⟨hit, hhit, hplace, rfl⟩

/-- A key is due one value, since it has one owner and one place there. -/
theorem Tabled.due_unique (h : c.Tabled keys table)
    (hserves : ∀ share ∈ (Batch.of locate table).shares, (service share.1).Serves share.2)
    {v' : Versioned Value} (hv : c.Due locate (Batch.of locate table) service key v)
    (hv' : c.Due locate (Batch.of locate table) service key v') : v = v' := by
  obtain ⟨wire, server, share, hwire, howner, hshare, hsuccess, hit, hhit, hplace, hvalue, hcas⟩ :=
    hv
  obtain ⟨wire', server', share', hwire', howner', hshare', -, hit', hhit', hplace', hvalue',
    hcas'⟩ := hv'
  obtain rfl : wire = wire' := Except.ok.inj (hwire.symm.trans hwire')
  obtain rfl : server = server' := Option.some.inj (howner.symm.trans howner')
  obtain rfl : share = share' := (Batch.share_of hshare).trans (Batch.share_of hshare').symm
  obtain ⟨hproper, -⟩ := (hserves _ hshare).of_success (h.valid_share hshare) hsuccess
  have hsame : hit.place = hit'.place := (List.getElem?_inj (hproper.place_lt hit hhit)
    (h.nodup_share hshare)).mp (hplace.trans hplace'.symm)
  obtain rfl := List.inj_on_of_nodup_map hproper.nodup hhit hhit' hsame
  obtain ⟨value, cas⟩ := v
  obtain ⟨value', cas'⟩ := v'
  obtain rfl : value = value' := Except.ok.inj (hvalue.symm.trans hvalue')
  obtain rfl : cas = cas' := hcas.trans hcas'.symm
  rfl

/-- What `Batch.findings` adds to the result for the responses to all shares. -/
theorem Tabled.mem_flatMap_findings (h : c.Tabled keys table)
    (hserves : ∀ share ∈ (Batch.of locate table).shares, (service share.1).Serves share.2)
    {order : List Endpoint} (horder : order.Perm (Batch.of locate table).shares.keys) :
    (key, v) ∈ (order.map fun server => (service server).response server).flatMap
        ((Batch.of locate table).findings c.transcoder) ↔
      key ∈ keys ∧ c.Due locate (Batch.of locate table) service key v := by
  rw [List.mem_flatMap]
  constructor
  · rintro ⟨r, hr, hfinding⟩
    obtain ⟨server, hserver, rfl⟩ := List.mem_map.mp hr
    obtain ⟨⟨server, share⟩, hshare, rfl⟩ := List.mem_map.mp (horder.mem_iff.mp hserver)
    obtain ⟨hkey, hsuccess, wire, hwire, hit, hhit, hplace, hvalue⟩ :=
      (h.mem_findings hshare (hserves _ hshare)).mp hfinding
    have howner := Batch.locate_of_mem_share hshare (List.mem_of_getElem? hplace)
    exact ⟨hkey, wire, server, share, hwire, howner, hshare, hsuccess, hit, hhit, hplace, hvalue⟩
  · rintro ⟨hkey, wire, server, share, hwire, -, hshare, hsuccess, hit, hhit, hplace, hvalue⟩
    refine ⟨(service server).response server, List.mem_map_of_mem (horder.mem_iff.mpr ?_), ?_⟩
    · exact List.mem_map_of_mem hshare
    · exact (h.mem_findings hshare (hserves _ hshare)).mpr
        ⟨hkey, hsuccess, wire, hwire, hit, hhit, hplace, hvalue⟩

/-- **What is found for a key is what is `Client.Due` to it**, in whatever order the commands
    end. -/
theorem Tabled.lookup_merge (h : c.Tabled keys table)
    (hserves : ∀ share ∈ (Batch.of locate table).shares, (service share.1).Serves share.2)
    {order : List Endpoint} (horder : order.Perm (Batch.of locate table).shares.keys) :
    ((Batch.of locate table).merge c.transcoder
        (order.map fun server => (service server).response server)).lookup key = some v ↔
      key ∈ keys ∧ c.Due locate (Batch.of locate table) service key v := by
  rw [Batch.merge_eq, Table.lookup_write ?_, h.mem_flatMap_findings hserves horder]
  intro key v v' hv hv'
  exact h.due_unique hserves ((h.mem_flatMap_findings hserves horder).mp hv).2
    ((h.mem_flatMap_findings hserves horder).mp hv').2

end Merge

/-- The plan of a batched read, `Batch.of` the table of callers' keys. -/
theorem plan_getManyWithCas {c : Client} {clock : WallTime} {f : Fleet} {keys : List String}
    {table : Table String String} (hlive : f.disposed = false) (hne : keys ≠ [])
    (htable : c.callerKeys keys [] = .ok table) :
    c.plan clock f (.getManyWithCas keys) = .ok (.batch (.of f.locate table)) := by
  unfold plan
  dsimp only
  rw [hlive, htable, if_neg (by decide), if_neg (by rwa [List.isEmpty_iff])]

end Client

/-- **Batched reads are complete and exact.** Let no two keys be turned into the same one
    (`KeyTransform.Injective`), and let `Client.wireKey` accept each of the given keys. Then every
    sent key with a living owner, `Fleet.locate`, goes to its owner, and to no other server, and no
    key is sent twice (`Batch.sendings`). Let each share be dealt with on the node of its owner
    (`Service.Serves`): the command fails, or the server answers as the protocol has it, perhaps not
    to the end. Then a server is sent its share once or not at all; a command that succeeds has
    heard its answer to the end; and whatever the order in which the commands end, the result of
    `Client.conclude` holds for each of the caller's keys just the value that is `Client.Due` to
    it. -/
theorem batched_read_exact (c : Client) (clock : WallTime) (f : Fleet) (keys : List String)
    (hlive : f.disposed = false) (hne : keys ≠ []) (hinjective : c.keys.Injective)
    (haccepts : ∀ key ∈ keys, ∃ wire, c.wireKey key = .ok wire) :
    ∃ b, c.plan clock f (.getManyWithCas keys) = .ok (.batch b) ∧
      b.sendings.Nodup ∧
      (∀ server wire, (server, wire) ∈ b.sendings ↔
        f.locate wire = some server ∧ ∃ key ∈ keys, c.wireKey key = .ok wire) ∧
      ∀ service : Endpoint → Service, (∀ share ∈ b.shares, (service share.1).Serves share.2) →
        (∀ share ∈ b.shares, (service share.1).Accounted share.2) ∧
        ∃ expected : String → Option (Versioned Value),
          (∀ key v, expected key = some v ↔ key ∈ keys ∧ c.Due f.locate b service key v) ∧
          ∀ order : List Endpoint, order.Perm b.shares.keys →
            ∃ found, c.conclude (.getManyWithCas keys) (.batch b)
                (order.map fun server => (service server).response server) =
                .manyWithCas found ∧
              found.keys.Nodup ∧ ∀ key, found.lookup key = expected key := by
  obtain ⟨table, htable, htabled⟩ := Client.exists_callerKeys hinjective haccepts
  refine ⟨.of f.locate table, Client.plan_getManyWithCas hlive hne htable,
    Batch.nodup_sendings htabled.nodup, ?_, ?_⟩
  · intro server wire
    rw [Batch.mem_sendings, htabled.mem_keys, and_comm]
  · intro service hserves
    refine ⟨?_, ((Batch.of f.locate table).merge c.transcoder
      ((Batch.of f.locate table).shares.keys.map fun server =>
        (service server).response server)).lookup, ?_, ?_⟩
    · intro share hshare
      exact (hserves share hshare).accounted (htabled.valid_share hshare)
    · intro key v
      exact htabled.lookup_merge hserves (List.Perm.refl _)
    · intro order horder
      refine ⟨_, rfl, ?_, ?_⟩
      · rw [Batch.merge_eq]
        exact Table.nodup_keys_write_nil _
      · intro key
        refine Option.ext fun v => ?_
        rw [htabled.lookup_merge hserves horder, htabled.lookup_merge hserves (List.Perm.refl _)]

/-- Two servers with one half of the circle each. -/
def halves : Fleet :=
  { Fleet.ofServers [⟨"a:1"⟩, ⟨"b:2"⟩] {} .failImmediately with
    ring := ⟨[⟨"a:1"⟩, ⟨"b:2"⟩], [(0x7fffffff, 0), (0xffffffff, 1)]⟩ }

/-- A client whose keys stand behind a name. -/
def spaced : Client where
  keys := .namespaced "ns:"

/-- The text that the second server has. -/
def halfHit : Hit where
  place := 0
  item := ⟨Flags.text, [0x76]⟩
  cas := 7

/-- One key of each half is read, one of them twice, and only the second server of `halves` is in
    use: the value that it has is found under the caller's key. -/
theorem batched_read_exact_halfDead :
    halves.disposed = false ∧ ["k", "l", "k"] ≠ [] ∧ spaced.keys.Injective ∧
      (∀ key ∈ ["k", "l", "k"], ∃ wire, spaced.wireKey key = .ok wire) ∧
      ∃ b, spaced.plan 0 halves (.getManyWithCas ["k", "l", "k"]) = .ok (.batch b) ∧
        ∃ service : Endpoint → Service, (∀ share ∈ b.shares, (service share.1).Serves share.2) ∧
          ∀ order : List Endpoint, order.Perm b.shares.keys → ∃ found,
            spaced.conclude (.getManyWithCas ["k", "l", "k"]) (.batch b)
                (order.map fun server => (service server).response server) =
              .manyWithCas found ∧
            found.lookup "k" = some ⟨.text "v", 7⟩ ∧ found.lookup "l" = none := by
  have hk : spaced.wireKey "k" = .ok "ns:k" := by decide +kernel
  have hl : spaced.wireKey "l" = .ok "ns:l" := by decide +kernel
  have haccepts : ∀ key ∈ ["k", "l", "k"], ∃ wire, spaced.wireKey key = .ok wire := by
    simp [hk, hl]
  have hinjective : spaced.keys.Injective := KeyTransform.injective_namespaced "ns:"
  have hplaces : halves.locate "ns:k" = some ⟨"b:2"⟩ ∧ halves.locate "ns:l" = some ⟨"a:1"⟩ := by
    constructor <;> decide +kernel
  have hplanned : spaced.plan 0 halves (.getManyWithCas ["k", "l", "k"]) =
      .ok (.batch ⟨[("ns:k", "k"), ("ns:l", "l")],
        [(⟨"b:2"⟩, ["ns:k"]), (⟨"a:1"⟩, ["ns:l"])]⟩) := by decide +kernel
  obtain ⟨b, hplan, -, -, hread⟩ := batched_read_exact spaced 0 halves ["k", "l", "k"] rfl
    (by decide) hinjective haccepts
  obtain rfl := Plan.batch.inj (Except.ok.inj (hplan.symm.trans hplanned))
  -- the owner of the one key answers, and that of the other is out of use
  have hvalid : ∀ wire ∈ ["ns:k"], Key.validate wire = .ok () := by
    simpa using (Client.wireKey_eq_ok hk).2
  have hproper : Batch.Proper ["ns:k"] [halfHit] := ⟨by decide, by decide, by decide +kernel⟩
  have hmoderate : Batch.Moderate ["ns:k"] [halfHit] := ⟨by decide, by decide +kernel⟩
  obtain ⟨failing, hfailing, hfailed⟩ := Service.exists_failing ⟨"a:1"⟩ ["ns:l"]
  obtain ⟨answering, hanswering, hsuccess, hhits⟩ :=
    Service.exists_answering ⟨"b:2"⟩ hvalid hproper hmoderate
  let service : Endpoint → Service := fun server =>
    if server = ⟨"a:1"⟩ then failing else answering
  have hserves : ∀ share ∈ [(⟨"b:2"⟩, ["ns:k"]), (⟨"a:1"⟩, ["ns:l"])],
      (service share.1).Serves share.2 := by
    simp [service, hfailing, hanswering]
  obtain ⟨-, expected, hexpected, hfound⟩ := hread service hserves
  have hdue : expected "k" = some ⟨.text "v", 7⟩ := by
    refine (hexpected "k" _).mpr ⟨List.mem_cons_self, "ns:k", ⟨"b:2"⟩, ["ns:k"], hk, hplaces.1,
      List.mem_cons_self, hsuccess, halfHit, ?_, rfl, by decide +kernel, rfl⟩
    show halfHit ∈ answering.hits
    rw [hhits]
    exact List.mem_cons_self
  have hnone : expected "l" = none := by
    refine Option.eq_none_iff_forall_ne_some.mpr fun v hv => ?_
    obtain ⟨-, wire, server, share, hwire, howner, -, hread, -⟩ := (hexpected "l" v).mp hv
    obtain rfl := Except.ok.inj (hl.symm.trans hwire)
    obtain rfl := Option.some.inj (hplaces.2.symm.trans howner)
    exact Bool.false_ne_true (hfailed.symm.trans hread)
  refine ⟨rfl, by decide, hinjective, haccepts, _, hplan, service, hserves, fun order horder => ?_⟩
  obtain ⟨found, hconclude, -, hlookup⟩ := hfound order horder
  exact ⟨found, hconclude, (hlookup "k").trans hdue, (hlookup "l").trans hnone⟩

/-- A transformation that repeats a key so often that it is too long. -/
def repeating : KeyTransform where
  label := "repeating"
  apply key := .ok (String.ofList (List.replicate 300 key.toList).flatten)

theorem injective_repeating : repeating.Injective := by
  intro key key' wire hkey hkey'
  have hequal : (List.replicate 300 key.toList).flatten =
      (List.replicate 300 key'.toList).flatten :=
    String.ofList_injective (Except.ok.inj (hkey.trans hkey'.symm))
  have hlength : key.toList.length = key'.toList.length := by
    have heq := congrArg List.length hequal
    rw [List.length_flatten, List.length_flatten, List.map_replicate, List.map_replicate,
      List.sum_replicate, List.sum_replicate] at heq
    exact Nat.eq_of_mul_eq_mul_left (by decide) heq
  rw [List.replicate_succ, List.replicate_succ, List.flatten_cons, List.flatten_cons] at hequal
  exact String.toList_injective (List.append_inj_left hequal hlength)

/-- A read of no keys is refused, and so is that of a key that has become longer than
    `Key.maxLength`, although the ring has an owner for it and no two keys are turned into the same
    one. -/
theorem batched_read_refused :
    halves.disposed = false ∧ ({} : Client).keys.Injective ∧
      ({} : Client).plan 0 halves (.getManyWithCas []) = .error .emptyKeySet ∧
      repeating.Injective ∧ (∃ wire, repeating.apply "k" = .ok wire ∧ halves.locate wire ≠ none) ∧
      ({ keys := repeating } : Client).plan 0 halves (.getManyWithCas ["k"]) =
        .error (.invalidKey (.tooLong 300 250)) := by
  refine ⟨rfl, KeyTransform.injective_plain, rfl, injective_repeating, ⟨_, rfl, ?_⟩, ?_⟩
  · decide +kernel
  · decide +kernel

end Memcache
