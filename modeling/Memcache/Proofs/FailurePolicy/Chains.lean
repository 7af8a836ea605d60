import Mathlib
import Memcache.FailurePolicy

/-!
# `Memcache.Proofs.FailurePolicy.Chains` — a counter that knows the whole history

`FailurePolicy.throttling` keeps two numbers: a count of failures and the time of the last one. What
they say about the past is said here without them. Of the failures since the last
`PolicyEvent.reset`, the count is the length of the longest chain at the end
(`FailurePolicy.chainLengths`): a run of failures each of which follows the one before it within the
window. One more failure either extends that chain or is a chain of its own, and which of the two it
is can be told from the last failure alone; so two numbers are enough.

## Contents

* `PolicyEvent`, `FailurePolicy.after` — a policy after a history;
* `PolicyEvent.failureTimes` — the failures of a history that still count;
* `FailurePolicy.chainLengths` — the chains at the end of a list of times;
  `isGreatest_chainLengths_of_follows`, `isGreatest_chainLengths_of_not_follows` — **the longest one
  after one more failure**;
* `throttling_after` — **the two numbers tell the longest chain and the last failure**;
* `throttling_counts_chain` — **when a throttling policy gives a server up**.
-/

namespace Memcache

/-! ## Histories -/

/-- What a policy gets to hear, by `FailurePolicy.record` and `FailurePolicy.reset`. -/
inductive PolicyEvent where
  /-- An attempt ended. -/
  | recorded (now : Time) (success : Bool)
  /-- Everything that was heard is to be forgotten. -/
  | reset
  deriving DecidableEq, Repr

namespace PolicyEvent

/-- The time of a failure. -/
def failureTime? : PolicyEvent → Option Time
  | .recorded now false => some now
  | _ => none

/-- When attempts failed since the last `PolicyEvent.reset`, the earliest first. -/
def failureTimes (events : List PolicyEvent) : List Time :=
  (events.rtakeWhile (· ≠ .reset)).filterMap failureTime?

@[simp] theorem failureTimes_nil : failureTimes [] = [] := rfl

@[simp] theorem failureTimes_reset (events : List PolicyEvent) :
    failureTimes (events ++ [.reset]) = [] := by
  simp [failureTimes]

@[simp] theorem failureTimes_success (events : List PolicyEvent) (now : Time) :
    failureTimes (events ++ [.recorded now true]) = failureTimes events := by
  simp [failureTimes, failureTime?]

@[simp] theorem failureTimes_failure (events : List PolicyEvent) (now : Time) :
    failureTimes (events ++ [.recorded now false]) = failureTimes events ++ [now] := by
  simp [failureTimes, failureTime?]

/-- What is heard without a reset adds its failures to those that count. -/
theorem failureTimes_append (before : List PolicyEvent) {burst : List PolicyEvent}
    (hreset : .reset ∉ burst) :
    failureTimes (before ++ burst) = failureTimes before ++ burst.filterMap failureTime? := by
  induction burst using List.reverseRecOn with
  | nil => simp
  | append_singleton burst event ih =>
      obtain ⟨hburst, hevent⟩ : .reset ∉ burst ∧ .reset ≠ event := by simpa using hreset
      have ih := ih hburst
      rw [← List.append_assoc, List.filterMap_append, ← List.append_assoc, ← ih]
      cases event with
      | reset => exact absurd rfl hevent
      | recorded now success =>
          cases success with
          | true =>
              rw [failureTimes_success]
              simp [failureTime?]
          | false =>
              rw [failureTimes_failure]
              simp [failureTime?]

end PolicyEvent

namespace FailurePolicy

/-- A policy after one thing more, `FailurePolicy.record` or `FailurePolicy.reset`. -/
def hear (p : FailurePolicy) : PolicyEvent → FailurePolicy
  | .recorded now success => p.record now success
  | .reset => p.reset

/-- A policy after a history, heard event by event. -/
def after (p : FailurePolicy) (events : List PolicyEvent) : FailurePolicy :=
  events.foldl hear p

@[simp] theorem after_nil (p : FailurePolicy) : p.after [] = p := rfl

@[simp] theorem after_concat (p : FailurePolicy) (events : List PolicyEvent)
    (event : PolicyEvent) : p.after (events ++ [event]) = (p.after events).hear event := by
  simp [after]

end FailurePolicy

/-! ## Chains -/

namespace FailurePolicy

section Chains

/-- A failure at `t'` follows one at `t` within the window. -/
def Follows (window : Duration) (t t' : Time) : Prop :=
  t' - t ≤ window

/-- The lengths of the chains at the end of a list of times: of its suffixes in which each time
    `Follows` the one before it within the window. -/
def chainLengths (window : Duration) (ts : List Time) : Set Nat :=
  {n | ∃ chain, chain <:+ ts ∧ chain.IsChain (Follows window) ∧ chain.length = n}

variable {window : Duration} {ts : List Time} {t : Time} {n : Nat}

theorem isGreatest_chainLengths_nil : IsGreatest (chainLengths window []) 0 := by
  constructor
  · exact ⟨[], List.suffix_rfl, .nil, rfl⟩
  · rintro n ⟨chain, hsuffix, -, rfl⟩
    simpa using hsuffix.length_le

/-- A chain goes on to a new time if that `Follows` the last time there was. -/
theorem isChain_concat_iff {chain : List Time} (hsuffix : chain <:+ ts) :
    (chain ++ [t]).IsChain (Follows window) ↔
      chain.IsChain (Follows window) ∧ (chain ≠ [] → ∀ last ∈ ts.getLast?, Follows window last t) := by
  rw [List.isChain_append]
  simp only [List.IsChain.singleton, true_and, List.head?_cons, Option.mem_some_iff, forall_eq']
  refine and_congr_right fun _ => ?_
  by_cases hchain : chain = []
  · simp [hchain]
  · obtain ⟨front, rfl⟩ := hsuffix
    simp [hchain]

/-- The chains that end with a new time. -/
theorem mem_chainLengths_concat :
    n ∈ chainLengths window (ts ++ [t]) ↔ n = 0 ∨ ∃ chain, chain <:+ ts ∧
      chain.IsChain (Follows window) ∧
        (chain ≠ [] → ∀ last ∈ ts.getLast?, Follows window last t) ∧ n = chain.length + 1 := by
  constructor
  · rintro ⟨chain, hsuffix, hchain, rfl⟩
    rcases List.suffix_concat_iff.mp hsuffix with rfl | ⟨front, rfl, hfront⟩
    · exact .inl rfl
    · obtain ⟨hfrontChain, hlast⟩ := (isChain_concat_iff hfront).mp hchain
      exact .inr ⟨front, hfront, hfrontChain, hlast, by simp⟩
  · rintro (rfl | ⟨front, hfront, hchain, hlast, rfl⟩)
    · exact ⟨[], List.nil_suffix, .nil, rfl⟩
    · refine ⟨front ++ [t], List.suffix_append_self_iff.mpr hfront, ?_, by simp⟩
      exact (isChain_concat_iff hfront).mpr ⟨hchain, hlast⟩

/-- **A failure that follows the last one makes the longest chain longer by one.** -/
theorem isGreatest_chainLengths_of_follows {last : Time} (hlast : ts.getLast? = some last)
    (hfollows : Follows window last t) (h : IsGreatest (chainLengths window ts) n) :
    IsGreatest (chainLengths window (ts ++ [t])) (n + 1) := by
  obtain ⟨⟨chain, hsuffix, hchain, rfl⟩, hlongest⟩ := h
  constructor
  · apply mem_chainLengths_concat.mpr
    refine .inr ⟨chain, hsuffix, hchain, ?_, rfl⟩
    intro _ last' hlast'
    rw [hlast] at hlast'
    obtain rfl := Option.some.inj hlast'
    exact hfollows
  · intro m hm
    rcases mem_chainLengths_concat.mp hm with rfl | ⟨front, hfront, hfrontChain, -, rfl⟩
    · exact Nat.zero_le _
    · exact Nat.succ_le_succ (hlongest ⟨front, hfront, hfrontChain, rfl⟩)

/-- **Any other failure is a chain of its own.** -/
theorem isGreatest_chainLengths_of_not_follows
    (hfollows : ∀ last ∈ ts.getLast?, ¬ Follows window last t) :
    IsGreatest (chainLengths window (ts ++ [t])) 1 := by
  constructor
  · apply mem_chainLengths_concat.mpr
    exact .inr ⟨[], List.nil_suffix, .nil, by simp, rfl⟩
  · intro m hm
    rcases mem_chainLengths_concat.mp hm with rfl | ⟨front, hfront, -, hlast, rfl⟩
    · exact Nat.zero_le _
    · -- a longer chain would hold the failure before this one
      have hnil : front = [] := by
        by_contra hne
        obtain ⟨last, hmem⟩ := Option.isSome_iff_exists.mp (List.getLast?_isSome.mpr hne)
        have hts : ts.getLast? = some last := by
          obtain ⟨before, rfl⟩ := hfront
          rw [List.getLast?_append, hmem]
          rfl
        exact hfollows last hts (hlast hne last hts)
      simp [hnil]

/-- The longest chain is empty only if there are no failures. -/
theorem one_le_iff_of_isGreatest (h : IsGreatest (chainLengths window ts) n) :
    1 ≤ n ↔ ts ≠ [] := by
  obtain ⟨⟨chain, hsuffix, hchain, rfl⟩, hlongest⟩ := h
  constructor
  · rintro hpos rfl
    have hle := hsuffix.length_le
    simp at hle
    simp [hle] at hpos
  · intro hne
    obtain ⟨front, last, rfl⟩ := List.eq_nil_or_concat' ts |>.resolve_left hne
    apply hlongest
    exact ⟨[last], List.suffix_append .., .singleton _, rfl⟩

/-- Failures that lie within one window are one chain, and count with whatever comes before. -/
theorem length_le_of_within {burst : List Time} {start : Time} (before : List Time)
    (hwithin : ∀ t ∈ burst, start ≤ t ∧ t ≤ start + window)
    (h : IsGreatest (chainLengths window (before ++ burst)) n) : burst.length ≤ n := by
  apply h.2
  refine ⟨burst, List.suffix_append .., ?_, rfl⟩
  apply List.Pairwise.isChain
  apply List.pairwise_of_forall_mem_list
  intro t ht t' ht'
  obtain ⟨hstart, -⟩ := hwithin t ht
  obtain ⟨-, hend⟩ := hwithin t' ht'
  simp only [Follows, Duration, Time] at *
  omega

end Chains

/-! ## Policies -/

/-- **The two numbers of `FailurePolicy.throttling` tell the longest chain and the last
    failure.** -/
theorem throttling_after (maxFailures : Nat) (window : Duration) (events : List PolicyEvent) :
    ∃ n, (PolicyChoice.throttling maxFailures window).start.after events =
        .throttling (max maxFailures 1) window n (PolicyEvent.failureTimes events).getLast? ∧
      IsGreatest (chainLengths window (PolicyEvent.failureTimes events)) n := by
  induction events using List.reverseRecOn with
  | nil => exact ⟨0, rfl, isGreatest_chainLengths_nil⟩
  | append_singleton events event ih =>
      obtain ⟨n, hafter, hlongest⟩ := ih
      rw [after_concat, hafter]
      cases event with
      | reset => exact ⟨0, by simp [hear, reset], by simpa using isGreatest_chainLengths_nil⟩
      | recorded now success =>
          cases success with
          | true => exact ⟨n, by simp [hear, record], by simpa using hlongest⟩
          | false =>
              rw [PolicyEvent.failureTimes_failure]
              cases hlast : (PolicyEvent.failureTimes events).getLast? with
              | none =>
                  refine ⟨1, by simp [hear, record], ?_⟩
                  apply isGreatest_chainLengths_of_not_follows
                  simp [hlast]
              | some last =>
                  by_cases hfollows : Follows window last now
                  · refine ⟨n + 1, ?_, isGreatest_chainLengths_of_follows hlast hfollows hlongest⟩
                    have hgap : now - last ≤ window := hfollows
                    simp [hear, record, hgap]
                  · refine ⟨1, ?_, ?_⟩
                    · have hgap : ¬ now - last ≤ window := hfollows
                      simp [hear, record, hgap]
                    · apply isGreatest_chainLengths_of_not_follows
                      simpa [hlast] using hfollows

/-- A policy of `PolicyChoice.failImmediately` has failed if a failure counts. -/
theorem immediate_after (events : List PolicyEvent) :
    PolicyChoice.failImmediately.start.after events =
      .immediate (!(PolicyEvent.failureTimes events).isEmpty) := by
  induction events using List.reverseRecOn with
  | nil => rfl
  | append_singleton events event ih =>
      rw [after_concat, ih]
      cases event with
      | reset => simp [hear, reset]
      | recorded now success =>
          cases success
          · simp [hear, record]
          · simp [hear, record]

/-- **When a throttling policy gives a server up**, after any history. Its count,
    `FailurePolicy.failures?`, is the length of the longest chain of failures at the end
    (`chainLengths`), of those that were recorded since the last reset; each `Follows` the one
    before it within the window, and successes make no difference. The server is given up
    (`FailurePolicy.shouldMarkDead`) just if the count has reached the limit, which is at least 1.
    As many failures as the limit that lie within one window reach it, whatever came before, if
    nothing was reset between them. And with a limit of at most 1 a throttling policy says what one
    of `PolicyChoice.failImmediately` says. -/
theorem throttling_counts_chain (maxFailures : Nat) (window : Duration)
    (events : List PolicyEvent) :
    (∃ n, ((PolicyChoice.throttling maxFailures window).start.after events).failures? = some n ∧
      IsGreatest (chainLengths window (PolicyEvent.failureTimes events)) n ∧
      (((PolicyChoice.throttling maxFailures window).start.after events).shouldMarkDead = true ↔
        max 1 maxFailures ≤ n)) ∧
    (∀ before burst start, events = before ++ burst → .reset ∉ burst →
      max 1 maxFailures ≤ (burst.filterMap PolicyEvent.failureTime?).length →
      (∀ t ∈ burst.filterMap PolicyEvent.failureTime?, start ≤ t ∧ t ≤ start + window) →
      ((PolicyChoice.throttling maxFailures window).start.after events).shouldMarkDead = true) ∧
    (maxFailures ≤ 1 →
      ((PolicyChoice.throttling maxFailures window).start.after events).shouldMarkDead =
        (PolicyChoice.failImmediately.start.after events).shouldMarkDead) := by
  obtain ⟨n, hafter, hlongest⟩ := throttling_after maxFailures window events
  have hdead : ((PolicyChoice.throttling maxFailures window).start.after events).shouldMarkDead =
      true ↔ max 1 maxFailures ≤ n := by
    rw [hafter, Nat.max_comm 1]
    exact decide_eq_true_iff
  refine ⟨⟨n, by rw [hafter]; rfl, hlongest, hdead⟩, ?_, ?_⟩
  · rintro before burst start rfl hreset hmany hwithin
    rw [PolicyEvent.failureTimes_append before hreset] at hlongest
    apply hdead.mpr
    exact hmany.trans (length_le_of_within _ hwithin hlongest)
  · intro hlimit
    apply Bool.eq_iff_iff.mpr
    rw [hdead, immediate_after, Nat.max_eq_left hlimit, one_le_iff_of_isGreatest hlongest]
    simp [shouldMarkDead]

/-- Two failures as far apart as the window is long, with a success between them, after a failure
    that was reset. -/
def edgeOfWindow : List PolicyEvent :=
  [.recorded 0 false, .reset, .recorded 3 false, .recorded 5 true, .recorded 13 false]

/-- The failures of `edgeOfWindow` are a chain, and two are enough for a limit of 2; for a limit of
    0 one is. -/
theorem throttling_counts_chain_edgeOfWindow :
    ((PolicyChoice.throttling 2 10).start.after edgeOfWindow).failures? = some 2 ∧
      ((PolicyChoice.throttling 2 10).start.after edgeOfWindow).shouldMarkDead = true ∧
      (PolicyChoice.failImmediately.start.after edgeOfWindow).shouldMarkDead = true := by
  refine ⟨by decide, ?_, ?_⟩
  · exact (throttling_counts_chain 2 10 edgeOfWindow).2.1 (edgeOfWindow.take 2)
      (edgeOfWindow.drop 2) 3 (by decide) (by decide) (by decide) (by decide)
  · refine ((throttling_counts_chain 0 10 edgeOfWindow).2.2 (by decide)).symm.trans ?_
    decide

end FailurePolicy

end Memcache
