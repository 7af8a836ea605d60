import Mathlib
import Memcache.Proofs.Fleet.Deeds

/-!
# `Memcache.Proofs.Fleet.Books` — the books that a fleet keeps of its tasks

A fleet has one node for each server (`Fleet.nodes`) and one record for each task (`Fleet.jobs`),
and `Fleet.ended` lists the tasks that have ended in the order in which they did. A task is in that
list just as long as `Fleet.result?` of its ticket tells a result, so nobody waits for a task that
has ended, and `Fleet.collect` tells nobody of one twice.

## Contents

* `Fleet.Booked` — no server and no ended task is listed twice, and tickets are given out in order;
* `Fleet.booked_spawnAll`, `Fleet.booked_turned`, `Fleet.booked_erase` — tasks come, go on and go;
* `Fleet.booked_act` — **every deed keeps the books**.
-/

namespace Memcache

namespace Fleet

variable {f f' : Fleet} {now : Time} {deed : Deed} {ticket : Ticket} {server : Endpoint}

/-- The books of a fleet: no server is listed twice in `Fleet.nodes`, `Fleet.nextTicket` gives
    tickets out in order, and `Fleet.ended` has each of the ended tasks once. -/
structure Booked (f : Fleet) : Prop where
  servers : f.nodes.keys.Nodup
  numbered : ∀ ticket, f.nextTicket ≤ ticket → f.jobs.lookup ticket = none
  ended : ∀ ticket, ticket ∈ f.ended ↔ (f.result? ticket).isSome = true
  nodup : f.ended.Nodup

theorem result?_eq (f : Fleet) (ticket : Ticket) :
    f.result? ticket = (f.jobs.lookup ticket).bind fun job => job.task.result? := by
  unfold result?
  cases f.jobs.lookup ticket <;> rfl

theorem booked_ofServers (servers : List Endpoint) (settings : PoolSettings)
    (policy : PolicyChoice) : (ofServers servers settings policy).Booked where
  servers := keys_ofServers servers settings policy
  numbered _ _ := rfl
  ended ticket := by
    rw [result?_eq]
    exact ⟨fun hmem => absurd hmem List.not_mem_nil, fun hsome => absurd hsome Bool.false_ne_true⟩
  nodup := List.nodup_nil

/-- The books are about the tasks and the names of the servers, and about no other field of a
    fleet. -/
theorem Booked.congr (h : f.Booked) (hservers : f'.nodes.keys.Nodup) (hjobs : f'.jobs = f.jobs)
    (hended : f'.ended = f.ended) (hnext : f'.nextTicket = f.nextTicket) : f'.Booked := by
  refine ⟨hservers, ?_, ?_, ?_⟩
  · rw [hjobs, hnext]
    exact h.numbered
  · intro t
    rw [result?_eq, hjobs, hended, ← result?_eq]
    exact h.ended t
  · rw [hended]
    exact h.nodup

/-- A change of the nodes leaves their names. -/
theorem Booked.mapValues (h : f.Booked) (change : Node → Node) :
    Booked { f with nodes := f.nodes.mapValues change } := by
  refine h.congr ?_ rfl rfl rfl
  rw [Table.keys_mapValues]
  exact h.servers

theorem booked_spawn (h : f.Booked) (server : Endpoint) (purpose : Purpose) :
    (f.spawn server purpose).1.Booked where
  servers := h.servers
  numbered t ht := by
    have hne : t ≠ f.nextTicket := Nat.ne_of_gt ht
    show (f.jobs.insert f.nextTicket _).lookup t = none
    rw [Table.lookup_insert, if_neg hne]
    exact h.numbered t (Nat.le_of_succ_le ht)
  ended t := by
    show t ∈ f.ended ↔ _
    rw [h.ended, result?_eq, result?_eq]
    show _ ↔ (((f.jobs.insert f.nextTicket _).lookup t).bind _).isSome = true
    rw [Table.lookup_insert]
    by_cases ht : t = f.nextTicket
    · subst ht
      rw [if_pos rfl, h.numbered _ (Nat.le_refl _)]
      exact Iff.rfl
    · rw [if_neg ht]
  nodup := h.nodup

theorem booked_spawnAll (h : f.Booked) (tasks : List (Endpoint × Purpose)) :
    (f.spawnAll tasks).1.Booked := by
  induction tasks generalizing f with
  | nil => exact h
  | cons task rest ih => exact ih (booked_spawn h task.1 task.2)

/-- A task that is dropped from `Fleet.jobs` is in no list any more. -/
theorem booked_erase (h : f.Booked) (hservers : f'.nodes.keys.Nodup)
    (hjobs : f'.jobs = f.jobs.erase ticket)
    (hended : f'.ended = f.ended.filter (· ≠ ticket)) (hnext : f'.nextTicket = f.nextTicket) :
    f'.Booked where
  servers := hservers
  numbered t ht := by
    rw [hjobs, Table.lookup_erase]
    split
    · rfl
    · exact h.numbered t (hnext ▸ ht)
  ended t := by
    rw [hended, List.mem_filter, h.ended, decide_eq_true_iff, result?_eq, result?_eq, hjobs,
      Table.lookup_erase]
    by_cases ht : t = ticket
    · rw [if_pos ht]
      exact ⟨fun hboth => absurd ht hboth.2, fun hsome => absurd hsome Bool.false_ne_true⟩
    · rw [if_neg ht]
      exact and_iff_left ht
  nodup := hended ▸ h.nodup.filter _

theorem booked_forget (h : f.Booked) (ticket : Ticket) : (f.forget ticket).Booked :=
  booked_erase h h.servers rfl rfl rfl

theorem booked_forgetAll (h : f.Booked) (tickets : List Ticket) :
    (tickets.foldl forget f).Booked := by
  induction tickets generalizing f with
  | nil => exact h
  | cons ticket rest ih => exact ih (booked_forget h ticket)

/-- A task that has a turn, `Fleet.turned`, had not ended. -/
theorem booked_turned {job : Job} {node : Node} {arrival? : Option Arrival} {turn : Turn}
    (h : f.Booked) (hjob : f.jobs.lookup ticket = some job)
    (hturn : job.task.step now ticket arrival? node = some turn) :
    (f.turned ticket job turn).Booked := by
  -- so it is not in the list yet, and is entered at most once
  have hunended : ticket ∉ f.ended := by
    rw [h.ended, result?_eq, hjob]
    show ¬ job.task.result?.isSome = true
    rw [Task.unended_of_step hturn]
    exact Bool.false_ne_true
  let changed : Fleet := { f with
    nodes := f.nodes.insert job.server turn.node
    jobs := f.jobs.insert ticket { job with task := turn.task }
    ended := if turn.task.result?.isSome then f.ended ++ [ticket] else f.ended }
  have hresult : ∀ t, changed.result? t =
      if t = ticket then turn.task.result? else f.result? t := by
    intro t
    rw [result?_eq, result?_eq]
    show ((f.jobs.insert ticket _).lookup t).bind _ = _
    rw [Table.lookup_insert]
    split <;> rfl
  have hchanged : changed.Booked := by
    refine ⟨Table.nodup_keys_insert h.servers, ?_, ?_, ?_⟩
    · intro t ht
      have hne : t ≠ ticket := by
        rintro rfl
        rw [h.numbered t ht] at hjob
        contradiction
      show (f.jobs.insert ticket _).lookup t = none
      rw [Table.lookup_insert, if_neg hne]
      exact h.numbered t ht
    · intro t
      rw [hresult]
      show t ∈ (if turn.task.result?.isSome then f.ended ++ [ticket] else f.ended) ↔ _
      by_cases ht : t = ticket
      · subst ht
        rw [if_pos rfl]
        split
        · next hsome => simp [hsome]
        · next hnone => exact ⟨fun hmem => absurd hmem hunended, fun hsome => absurd hsome hnone⟩
      · rw [if_neg ht, ← h.ended]
        split <;> simp [ht]
    · show (if turn.task.result?.isSome then f.ended ++ [ticket] else f.ended).Nodup
      split
      · exact List.nodup_append.mpr ⟨h.nodup, List.nodup_singleton _, by
          rintro t ht t' ht' rfl
          exact hunended (List.mem_singleton.mp ht' ▸ ht)⟩
      · exact h.nodup
  obtain ⟨ring, events, hnotify⟩ := changed.notify_eq turn.event?
  have hturned : f.turned ticket job turn = { changed with ring := ring, events := events } :=
    hnotify
  rw [hturned]
  exact hchanged.congr hchanged.servers rfl rfl rfl

/-- Changing nodes by `Fleet.update` leaves the books of the tasks alone. -/
theorem update_books (f : Fleet) (server : Endpoint) (change : Node → Node × Option NodeEvent) :
    (f.update server change).ended = f.ended ∧
      (f.update server change).nextTicket = f.nextTicket := by
  unfold update
  split
  · exact ⟨rfl, rfl⟩
  · next node _ =>
      obtain ⟨ring, events, hnotify⟩ :=
        { f with nodes := f.nodes.insert server (change node).1 }.notify_eq (change node).2
      dsimp only
      rw [hnotify]
      exact ⟨rfl, rfl⟩

/-- **Every deed of `Fleet.act` keeps the books.** -/
theorem booked_act (h : f.Booked) (hact : f.act now deed = some f') : f'.Booked := by
  have hservers := (touched_act hact).keys h.servers
  cases deed with
  | spawn server purpose =>
      obtain rfl := Option.some.inj hact
      exact booked_spawn h server purpose
  | step ticket arrival? =>
      obtain ⟨job, node, turn, hjob, -, hturn, rfl⟩ := act_step hact
      exact booked_turned h hjob hturn
  | forget ticket =>
      obtain rfl := Option.some.inj hact
      exact booked_forget h ticket
  | cancel ticket =>
      obtain rfl := Option.some.inj hact
      unfold cancel at hservers ⊢
      split
      · next hjob =>
          rw [hjob] at hservers
          exact booked_erase h hservers rfl rfl rfl
      · exact booked_forget h ticket
  | sweep =>
      cases swept_of_sweep hact with
      | idle => exact h.congr hservers rfl rfl rfl
      | probed =>
          exact (booked_spawnAll h ((f.due now).map fun server => (server, .revive))).congr hservers
            rfl rfl rfl
      | rested => exact (booked_forgetAll h _).congr hservers rfl rfl rfl
  | tend server tending | markDead server | markAlive server =>
      obtain rfl := Option.some.inj hact
      exact h.congr hservers (f.update_jobs server _) (f.update_books server _).1
        (f.update_books server _).2
  | launch =>
      obtain rfl := Option.some.inj hact
      exact booked_spawnAll (h.mapValues fun node => { node with listening := true }) _
  | settled =>
      obtain rfl := Option.some.inj hact
      unfold settled
      split <;> exact h.congr h.servers rfl rfl rfl
  | dispose =>
      obtain rfl := Option.some.inj hact
      unfold dispose at hservers ⊢
      split
      · exact h
      · next hopen =>
          rw [if_neg hopen] at hservers
          exact h.congr hservers rfl rfl rfl
  | drain =>
      obtain rfl := Option.some.inj hact
      exact h.congr h.servers rfl rfl rfl

end Fleet

end Memcache
