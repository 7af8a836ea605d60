import Mathlib
import Memcache.Sim.World

/-!
# `Memcache.Proofs.Client.Refusal` — a refused request leaves no trace

The checks of a request stand in different places: `Fleet.disposed`, the transformation of the key
by `KeyTransform.apply`, its form on the wire (`Key.validate`), the expiration, the value, an empty
set of keys. Each of them is part of `Client.plan`, and the plan is made before anything else. So a
call that ends in a `ClientError` has ended in its first turn (`Call.poll`), and the world after
that turn is the world before it. The other way round, a call in `Phase.asking` never ends in an
error: whatever goes wrong from then on is part of an `Answer`.

## Contents

* `Client.plan_of_invalid` — one bad key refuses a batched read as a whole;
* `Client.plan_of_unserializable` — a value without a stored form asks nothing;
* `Call.poll_of_refused`, `Call.poll_of_settled` — the one turn of a call that asks nothing;
* `Call.Begun` — what is true of every call once it asks servers;
* `World.refused_without_trace` — **a refused request leaves the world as it was**.
-/

namespace Memcache

/-! ## Plans that ask nothing -/

/-- The requests for the values of several keys, `Request.getMany` and `Request.getManyWithCas`. -/
def Request.ReadsMany (keys : List String) (r : Request) : Prop :=
  r = .getMany keys ∨ r = .getManyWithCas keys

namespace Client

variable {c : Client} {f : Fleet} {clock : WallTime} {r : Request}

/-- One key that `Client.wireKey` refuses stops `Client.callerKeys`, wherever it stands. The error
    is that of the first such key. -/
theorem callerKeys_of_invalid {keys : List String} {key : String} {e : ClientError}
    (hmem : key ∈ keys) (hinvalid : c.wireKey key = .error e) (table : Table String String) :
    ∃ e, c.callerKeys keys table = .error e ∧ ∃ first ∈ keys, c.wireKey first = .error e := by
  induction keys generalizing table with
  | nil => contradiction
  | cons first keys ih =>
      unfold callerKeys
      cases hfirst : c.wireKey first with
      | error e => exact ⟨e, rfl, first, List.mem_cons_self, hfirst⟩
      | ok wire =>
          have hlater : key ∈ keys := by
            rcases List.mem_cons.mp hmem with rfl | hlater
            · rw [hfirst] at hinvalid
              contradiction
            · exact hlater
          obtain ⟨e, herror, bad, hbad, hbade⟩ := ih hlater (table.insert wire first)
          exact ⟨e, herror, bad, List.mem_cons_of_mem _ hbad, hbade⟩

/-- **One key that cannot be sent refuses a batched read as a whole.** -/
theorem plan_of_invalid {keys : List String} {key : String} {e : ClientError}
    (hmem : key ∈ keys) (hinvalid : c.wireKey key = .error e) (hmany : r.ReadsMany keys) :
    ∃ e, c.plan clock f r = .error e ∧
      (f.disposed = false → ∃ first ∈ keys, c.wireKey first = .error e) := by
  obtain ⟨e, herror, hfirst⟩ := callerKeys_of_invalid hmem hinvalid []
  have hkeys : keys.isEmpty = false := by
    cases keys with
    | nil => contradiction
    | cons => rfl
  cases hopen : f.disposed with
  | true =>
      refine ⟨.disposed, ?_, nofun⟩
      unfold plan
      exact if_pos hopen
  | false =>
      refine ⟨e, ?_, fun _ => hfirst⟩
      unfold plan
      rcases hmany with rfl | rfl <;> simp [hopen, hkeys, herror]

/-- **A value that `Transcoder.serialize` refuses asks nothing of any server,** if the rest of the
    request is in order. -/
theorem plan_of_unserializable {mode : StoreMode} {key : String} {value : Value}
    {expiration : Expiration} {cas : UInt64} {e : TranscodeError}
    (hvalue : c.transcoder.serialize value = .error e) :
    (∃ e, c.plan clock f (.store mode key value expiration cas) = .error e) ∨
      c.plan clock f (.store mode key value expiration cas) =
        .ok (.settled (.changed (.fail .localFailure e.message))) := by
  unfold plan
  dsimp only
  cases f.disposed with
  | true => exact .inl ⟨_, if_pos rfl⟩
  | false =>
      rw [if_neg Bool.false_ne_true]
      cases c.wireKey key with
      | error e => exact .inl ⟨_, rfl⟩
      | ok wire =>
          cases encodeExpiration clock expiration with
          | error e => exact .inl ⟨_, rfl⟩
          | ok expires =>
              right
              simp only [hvalue]

end Client

namespace Sim

variable {α : Type} {w w' : World} {c : Call α} {r : Request} {limit? : Option Duration}

namespace Call

/-! ## The turn of a call -/

/-- The part of `Call.poll` in which the call waits for its tasks: those in `World.foreground` go
    on, then the call takes its answer, or its time is up. -/
def await (w : World) (c : Call α) (moved : Bool) : World × Call α × Bool :=
  let (w, moved) := (c.tickets.filter (w.foreground.contains ·)).foldl
    (fun (w, moved) ticket =>
      let (w, went) := w.runTask ticket World.patience
      (w, moved || went)) (w, moved)
  let (w, c) := proceed w c
  let (w, c) := match c.outturn?, c.deadline? with
    | none, some deadline => if deadline ≤ w.now then cutOff w c else (w, c)
    | _, _ => (w, c)
  (w, c, moved || c.outturn?.isSome)

theorem poll_fresh (h : c.phase = .fresh) :
    c.poll w = (begin w c).2.await (begin w c).1 true := by
  unfold poll
  rw [h]
  rfl

theorem poll_begun (hbegun : c.phase ≠ .fresh) (hopen : c.outturn? = none) :
    c.poll w = c.await w false := by
  unfold poll
  cases hphase : c.phase with
  | fresh => contradiction
  | «over» outturn =>
      unfold outturn? at hopen
      rw [hphase] at hopen
      contradiction
  | _ => rfl

/-- A call in `Phase.over` takes no part in its turn. -/
theorem await_over {outturn : Outturn α} (h : c.phase = .over outturn) :
    c.await w true = (w, c, true) := by
  obtain ⟨errand, limit?, deadline?, phase⟩ := c
  subst h
  rfl

/-- A call with a `Plan.settled` has its answer. -/
theorem await_settled {answer : Answer} (h : c.phase = .asking r (.settled answer) []) :
    c.await w true = (w, c.finish (.answered (.ok answer)), true) := by
  obtain ⟨errand, limit?, deadline?, phase⟩ := c
  subst h
  rfl

/-- The call once its `Call.deadline?` is set. -/
def timed (w : World) (c : Call α) : Call α :=
  { c with deadline? := c.limit?.map fun limit => w.now + limit }

theorem begin_request (h : c.errand = .request r) :
    begin w c =
      match w.client.plan w.clock w.fleet r with
      | .error e => (w, (c.timed w).finish (.answered (.error e)))
      | .ok plan => ask w (c.timed w) r plan := by
  obtain ⟨errand, limit?, deadline?, phase⟩ := c
  subst h
  rfl

/-- **A call that `Client.plan` refuses has one turn, and nothing happens in it.** -/
theorem poll_of_refused {e : ClientError} (herrand : c.errand = .request r)
    (hfresh : c.phase = .fresh) (hplan : w.client.plan w.clock w.fleet r = .error e) :
    c.poll w = (w, (c.timed w).finish (.answered (.error e)), true) := by
  rw [poll_fresh hfresh, begin_request herrand, hplan]
  exact await_over rfl

/-- A call with a `Plan.settled` has one turn as well, and the world stays as it is. -/
theorem poll_of_settled {answer : Answer} (herrand : c.errand = .request r)
    (hfresh : c.phase = .fresh) (hplan : w.client.plan w.clock w.fleet r = .ok (.settled answer)) :
    c.poll w = (w, (c.timed w).finish (.answered (.ok answer)), true) := by
  rw [poll_fresh hfresh, begin_request herrand, hplan]
  exact await_settled rfl

/-! ## Calls that have begun -/

/-- What is true of a call once it asks servers: it does not end in a `ClientError`. -/
structure Begun (c : Call α) : Prop where
  phase : c.phase ≠ .fresh
  outturn : ∀ e, c.phase ≠ .over (.answered (.error e))

theorem Begun.outturn? (h : c.Begun) (e : ClientError) :
    c.outturn? ≠ some (.answered (.error e)) := by
  intro hended
  unfold Call.outturn? at hended
  split at hended
  · next outturn hphase =>
      obtain rfl := Option.some.inj hended
      exact h.outturn e hphase
  · contradiction

/-- What becomes of a call that waited is an answer or nothing (`Call.proceed`). -/
theorem begun_proceed (h : c.Begun) : (proceed w c).2.Begun := by
  unfold proceed
  split
  · exact h
  · exact h
  all_goals
    split
    · exact ⟨nofun, nofun⟩
    · exact h

theorem begun_await (h : c.Begun) (moved : Bool) : (c.await w moved).2.1.Begun := by
  unfold await
  dsimp only
  split
  · split
    · exact ⟨nofun, nofun⟩
    · exact begun_proceed h
  · exact begun_proceed h

/-- What `Call.begin` does leaves a call fresh in no case, and ends it in an error only if there is
    no plan. -/
theorem begun_begin (h : ∀ r e, c.errand = .request r →
    w.client.plan w.clock w.fleet r ≠ .error e) : (begin w c).2.Begun := by
  obtain ⟨errand, limit?, deadline?, phase⟩ := c
  cases errand with
  | request r =>
      rw [begin_request rfl]
      cases hplan : w.client.plan w.clock w.fleet r with
      | error e => exact absurd hplan (h r e rfl)
      | ok plan => exact ⟨nofun, nofun⟩
  | _ => exact ⟨nofun, nofun⟩

theorem begun_poll (h : c.Begun) : (c.poll w).2.1.Begun := by
  cases hended : c.outturn? with
  | none =>
      rw [poll_begun h.phase hended]
      exact begun_await h false
  | some outturn =>
      unfold poll
      unfold Call.outturn? at hended
      split at hended
      · exact h
      · contradiction

/-- A request with a plan has begun when its first turn is over. -/
theorem begun_poll_of_plan {plan : Plan} (herrand : c.errand = .request r)
    (hfresh : c.phase = .fresh) (hplan : w.client.plan w.clock w.fleet r = .ok plan) :
    (c.poll w).2.1.Begun := by
  rw [poll_fresh hfresh]
  apply begun_await
  apply begun_begin
  intro r' e herrand'
  obtain rfl : r = r' := by
    simpa using herrand.symm.trans herrand'
  rw [hplan]
  exact nofun

/-- **A turn that ends a call in an error is its first, and nothing happens in it**
    (`Call.poll`). -/
theorem poll_answered_error {e : ClientError} (hopen : c.outturn? = none)
    (hended : (c.poll w).2.1.outturn? = some (.answered (.error e))) :
    (c.poll w).1 = w ∧ c.phase = .fresh := by
  by_cases hfresh : c.phase = .fresh
  · by_cases hplan : ∃ r e, c.errand = .request r ∧ w.client.plan w.clock w.fleet r = .error e
    · obtain ⟨r, e', herrand, hplan⟩ := hplan
      rw [poll_of_refused herrand hfresh hplan] at hended ⊢
      obtain rfl : e' = e := by
        simpa [finish, outturn?] using hended
      exact ⟨rfl, hfresh⟩
    · have hbegun : (begin w c).2.Begun := by
        apply begun_begin
        intro r e' herrand hrefused
        exact hplan ⟨r, e', herrand, hrefused⟩
      rw [poll_fresh hfresh] at hended
      exact absurd hended ((begun_await hbegun true).outturn? e)
  · have hbegun : c.Begun := by
      refine ⟨hfresh, ?_⟩
      intro e' hphase
      unfold outturn? at hopen
      rw [hphase] at hopen
      contradiction
    exact absurd hended ((begun_poll hbegun).outturn? e)

end Call

namespace World

/-! ## Runs of one call -/

/-- A call ends in its first turn, and neither that turn nor `World.run` does anything to the
    servers, the connections or the clock. -/
structure EndsAtOnce (w : World) (c : Call α) (outturn : Outturn α) : Prop where
  turn : c.poll w = (w, (c.timed w).finish outturn, true)
  run : w.run c = ({ w with foreground := [] }, some outturn)

/-- What `World.run` does ends with the first turn in which the call ends. -/
theorem run_of_poll {c' : Call α} {moved : Bool} {outturn : Outturn α}
    (hpoll : c.poll w = (w', c', moved)) (hended : c'.outturn? = some outturn) :
    w.run c = ({ w' with foreground := [] }, some outturn) := by
  obtain ⟨fuel, hfuel⟩ : ∃ fuel, lifetime = fuel + 1 := ⟨9999999999999, rfl⟩
  have hdrive : drive none lifetime w [c] = (w', [c']) := by
    rw [hfuel]
    simp [drive, pollAll, hpoll, hended]
  unfold run
  rw [hdrive]
  simp [hended]

theorem endsAtOnce_of_poll {outturn : Outturn α}
    (hpoll : c.poll w = (w, (c.timed w).finish outturn, true)) : w.EndsAtOnce c outturn :=
  ⟨hpoll, run_of_poll hpoll rfl⟩

theorem begun_pollAll {calls : List (Call α)} (h : ∀ c ∈ calls, c.Begun) :
    ∀ c ∈ (w.pollAll calls).2.1, c.Begun := by
  induction calls generalizing w with
  | nil => exact h
  | cons c calls ih =>
      rw [List.forall_mem_cons] at h
      exact List.forall_mem_cons.mpr ⟨Call.begun_poll h.1, ih h.2⟩

/-- Calls that are `Call.Begun` when their first turns are over do not end in an error, however long
    the world goes on. -/
theorem begun_drive {calls : List (Call α)} (h : ∀ c ∈ (w.pollAll calls).2.1, c.Begun)
    (fuel : Nat) : ∀ c ∈ (drive none (fuel + 1) w calls).2, c.Begun := by
  induction fuel generalizing w calls with
  | zero =>
      unfold drive
      dsimp only
      rw [if_neg (by simp)]
      split
      · exact h
      · split
        · exact h
        · split <;> exact h
  | succ fuel ih =>
      unfold drive
      dsimp only
      rw [if_neg (by simp)]
      split
      · exact h
      · split
        · exact ih (begun_pollAll h)
        · split
          · exact h
          · exact ih (begun_pollAll h)

/-- Only a request that `Client.plan` refuses ends in an error. -/
theorem run_answered_error {e : ClientError} (herrand : c.errand = .request r)
    (hfresh : c.phase = .fresh) (hended : (w.run c).2 = some (.answered (.error e))) :
    w.client.plan w.clock w.fleet r = .error e := by
  cases hplan : w.client.plan w.clock w.fleet r with
  | error e' =>
      rw [run_of_poll (Call.poll_of_refused herrand hfresh hplan) rfl] at hended
      simpa using hended
  | ok plan =>
      have hfirst : ∀ c' ∈ (w.pollAll [c]).2.1, c'.Begun := by
        intro c' hmem
        obtain rfl := List.mem_singleton.mp hmem
        exact Call.begun_poll_of_plan herrand hfresh hplan
      have hlast := begun_drive hfirst 9999999999999
      obtain ⟨c', hhead, hended⟩ := Option.bind_eq_some_iff.mp hended
      exact absurd hended ((hlast c' (List.mem_of_head? hhead)).outturn? e)

/-- **A refused request leaves the world as it was.** A turn of `Call.poll` that ends a call in a
    `ClientError` does nothing, whatever else goes on; a `World.run` that ends in an error consists
    of such a turn (`World.EndsAtOnce`). The same is true of every store of a value that
    `Transcoder.serialize` refuses, also where that is an answer and no error; and of every batched
    read with a key that `Client.wireKey` refuses, wherever it stands in the list: the call ends in
    an error, which is that of the first such key unless `Fleet.disposed` is set, and none of the
    other keys is asked for. -/
theorem refused_without_trace (α : Type) :
    (∀ (w : World) (c : Call α) (e : ClientError), c.outturn? = none →
      (c.poll w).2.1.outturn? = some (.answered (.error e)) →
        (c.poll w).1 = w ∧ c.phase = .fresh) ∧
    (∀ (w : World) (c : Call α) (r : Request), c.errand = .request r → c.phase = .fresh →
      (∀ e, (w.run c).2 = some (.answered (.error e)) →
        w.EndsAtOnce c (.answered (.error e))) ∧
      (∀ mode key value expiration cas e, r = .store mode key value expiration cas →
        w.client.transcoder.serialize value = .error e → ∃ answer,
          w.EndsAtOnce c (.answered answer)) ∧
      (∀ keys key e, r.ReadsMany keys → key ∈ keys → w.client.wireKey key = .error e →
        ∃ e, w.EndsAtOnce c (.answered (.error e)) ∧
          (w.fleet.disposed = false → ∃ first ∈ keys, w.client.wireKey first = .error e))) := by
  refine ⟨fun w c e hopen hended => Call.poll_answered_error hopen hended, ?_⟩
  intro w c r herrand hfresh
  refine ⟨?_, ?_, ?_⟩
  · intro e hended
    have hplan := run_answered_error herrand hfresh hended
    exact endsAtOnce_of_poll (Call.poll_of_refused herrand hfresh hplan)
  · rintro mode key value expiration cas e rfl hvalue
    rcases Client.plan_of_unserializable hvalue with ⟨e, hplan⟩ | hplan
    · exact ⟨_, endsAtOnce_of_poll (Call.poll_of_refused herrand hfresh hplan)⟩
    · exact ⟨_, endsAtOnce_of_poll (Call.poll_of_settled herrand hfresh hplan)⟩
  · intro keys key e hmany hmem hinvalid
    obtain ⟨e, hplan, hfirst⟩ := Client.plan_of_invalid hmem hinvalid hmany
    exact ⟨e, endsAtOnce_of_poll (Call.poll_of_refused herrand hfresh hplan), hfirst⟩

/-- A client that stores values of one octet, and one server. -/
def thrifty : World where
  client := { transcoder := .standard 1 }
  fleet := .ofServers [⟨"a:1"⟩] {} .failImmediately
  network := {}
  clock := 0

/-- A batched read of a good key and a bad one. -/
def halfBad : Call Unit where
  errand := .request (.getMany ["k", "two words"])

/-- A store of two octets. -/
def tooLarge : Call Unit where
  errand := .request (.store .set "k" (.bytes [1, 2]) .never 0)

/-- In this world both `halfBad` and `tooLarge` leave everything as it was. -/
theorem refused_without_trace_thrifty :
    (∃ e, thrifty.EndsAtOnce halfBad (.answered (.error e)) ∧ (halfBad.poll thrifty).1 = thrifty) ∧
      ∃ answer, thrifty.EndsAtOnce tooLarge (.answered answer) := by
  obtain ⟨hturn, hrun⟩ := refused_without_trace Unit
  have hbad : thrifty.client.wireKey "two words" =
      .error (.invalidKey (.invalidCharacter (Char.ofNat 32))) := by
    rfl
  obtain ⟨e, hends, -⟩ := (hrun thrifty halfBad _ rfl rfl).2.2 ["k", "two words"] "two words" _
    (.inl rfl) (by simp) hbad
  have hrefused := (hrun thrifty halfBad _ rfl rfl).1 e (by rw [hends.run])
  have hfirst := hturn thrifty halfBad e rfl (by rw [hrefused.turn]; rfl)
  obtain ⟨answer, hstore⟩ := (hrun thrifty tooLarge _ rfl rfl).2.1 .set "k" (.bytes [1, 2]) .never 0
    (.tooLarge 2 1) rfl rfl
  exact ⟨⟨e, hrefused, hfirst.1⟩, answer, hstore⟩

end World

end Sim

end Memcache
