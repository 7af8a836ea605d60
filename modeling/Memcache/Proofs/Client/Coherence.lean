import Mathlib
import Memcache.Client
import Memcache.Proofs.Node.Attempt
import Memcache.Proofs.Node.Course
import Memcache.Proofs.Table.Writes

/-!
# `Memcache.Proofs.Client.Coherence` — results that do not contradict themselves

An `Outcome` says in four ways whether it is a success: by `Report.success`, `Report.status`,
`Report.failed` of its causes and the absence of `Report.message?`. It is put together from what the
server reported, from what `Value.ofItem` could decode, and from what went wrong on the way.
Whatever that was, and in whichever states the nodes were found, the four agree
(`Outcome.Coherent`), a failure has neither a version token nor a value, a success that is to carry
a value carries one, and the same is true of everything that led to the result (`Outcome.causes`).

## Contents

* `Report.Coherent`, `Outcome.Coherent` — results that agree with themselves, kept by every way to
  make one from another;
* `Request.Plans` — the plans that a request can have; `Plan.Yields` — what can become of them;
* `Request.Answered` — the answer that a request is to have;
* `Client.answered_conclude` — **every answer is coherent, whatever the servers do**.
-/

namespace Memcache

/-! ## Reports and outcomes -/

/-- A report that agrees with itself, in `Report.success`, `Report.status`, `Report.cas` and
    `Report.message?`. -/
structure Report.Coherent (r : Report) : Prop where
  status : r.success = true ↔ r.status = .ok
  code : r.status = .ok ↔ r.status.code = 0
  message : r.status.code = 0 ↔ r.message? = none
  cas : r.success = false → r.cas = 0

theorem Report.coherent_pass (cas : UInt64) : (Report.pass cas).Coherent where
  status := ⟨fun _ => rfl, fun _ => rfl⟩
  code := ⟨fun _ => rfl, fun _ => rfl⟩
  message := ⟨fun _ => rfl, fun _ => rfl⟩
  cas := nofun

/-- A failure never has the `Status.code` of a success, also if it was made of one. -/
theorem Report.code_failed (status : Status) (message : String) :
    (Report.failed status message).status.code ≠ 0 := by
  unfold failed
  split
  · show Status.localFailure.code ≠ 0
    decide
  · next hfailed =>
      intro hcode
      have hok : status.isOk = true := by
        unfold Status.isOk
        rw [beq_iff_eq]
        exact hcode
      exact hfailed hok

theorem Report.coherent_failed (status : Status) (message : String) :
    (Report.failed status message).Coherent := by
  have hcode := Report.code_failed status message
  have hstatus : (Report.failed status message).status ≠ .ok := by
    intro hok
    rw [hok] at hcode
    exact hcode rfl
  exact ⟨⟨nofun, fun h => absurd h hstatus⟩,
    ⟨fun h => absurd h hstatus, fun h => absurd h hcode⟩,
    ⟨fun h => absurd h hcode, nofun⟩, fun _ => rfl⟩

/-- An outcome whose `Outcome.report` agrees with itself, and so do the `Outcome.causes` that led to
    it. -/
structure Outcome.Coherent {α : Type} (o : Outcome α) : Prop where
  report : o.report.Coherent
  value : o.success = false → o.value? = none
  causes : ∀ cause ∈ o.causes, cause.Coherent

/-- An outcome that has an `Outcome.value?` if it is a success. -/
def Outcome.Delivers {α : Type} (o : Outcome α) : Prop :=
  o.success = true → o.value?.isSome = true

namespace Outcome

variable {α β : Type} {o : Outcome α}

theorem coherent_pass (cas : UInt64) (value? : Option α) : (pass cas value?).Coherent where
  report := Report.coherent_pass cas
  value := nofun
  causes := nofun

theorem coherent_fail (status : Status) (message : String) :
    (fail status message : Outcome α).Coherent where
  report := Report.coherent_failed status message
  value := fun _ => rfl
  causes := nofun

/-- The `Outcome.cause?` of a coherent outcome is coherent, and so on. -/
theorem Coherent.cause? (h : o.Coherent) {cause : Outcome Unit} (hcause : o.cause? = some cause) :
    cause.Coherent := by
  unfold Outcome.cause? at hcause
  split at hcause
  · contradiction
  · next report causes hcauses =>
      obtain rfl := Option.some.inj hcause
      have hall := h.causes
      rw [hcauses] at hall
      refine ⟨hall _ List.mem_cons_self, fun _ => rfl, ?_⟩
      intro cause hmem
      exact hall cause (List.mem_cons_of_mem _ hmem)

theorem Coherent.withValue (h : o.Coherent) (value? : Option β) :
    (o.withValue value?).Coherent where
  report := h.report
  value := fun hfailed => if_neg (by rw [show o.success = false from hfailed]; decide)
  causes := h.causes

theorem Coherent.withCause {cause : Outcome β} (h : o.Coherent) (hcause : cause.Coherent) :
    (o.withCause cause).Coherent where
  report := h.report
  value := h.value
  causes := by
    intro r hr
    rcases List.mem_cons.mp hr with rfl | hr
    · exact hcause.report
    · exact hcause.causes r hr

theorem delivers_withValue {value? : Option β} (hvalue : o.success = true → value?.isSome = true) :
    (o.withValue value?).Delivers := by
  intro hsuccess
  have hpassed : o.success = true := hsuccess
  show (if o.success then value? else none).isSome = true
  rw [if_pos hpassed]
  exact hvalue hpassed

end Outcome

/-! ## Commands -/

/-- What `Node.outcome` makes of a reply is coherent, whatever is in the reply. -/
theorem Node.coherent_outcome (reply : Reply) : (Node.outcome reply).Coherent := by
  unfold Node.outcome
  split
  · exact Outcome.coherent_pass ..
  · exact Outcome.coherent_fail ..

theorem Node.success_outcome {reply : Reply} (h : (Node.outcome reply).success = true) :
    reply.status.isOk = true := by
  unfold Node.outcome at h
  split at h
  · assumption
  · contradiction

namespace Reported

variable {command : Command} {outcome : Outcome Unit} {reply : Reply}

/-- **Everything that a command can report is coherent** (`Reported`). -/
theorem coherent (h : Reported command outcome reply) : outcome.Coherent := by
  cases h with
  | turnedAway message houtcome => exact houtcome ▸ Outcome.coherent_fail ..
  | failed message houtcome => exact houtcome ▸ Outcome.coherent_fail ..
  | answered before p hdone houtcome => exact houtcome ▸ Node.coherent_outcome reply

/-- A counter change that is reported as a success has brought `Reply.counter?`. -/
theorem counter {mode : MutateMode} {key : String} {initial delta cas : UInt64} {expires : UInt32}
    (h : Reported (.mutate mode key initial delta expires cas) outcome reply)
    (hsuccess : outcome.success = true) : reply.counter?.isSome = true := by
  cases h with
  | turnedAway message houtcome =>
      rw [houtcome] at hsuccess
      contradiction
  | failed message houtcome =>
      rw [houtcome] at hsuccess
      contradiction
  | answered before p hdone houtcome =>
      rw [houtcome] at hsuccess
      exact (Command.status?_of_mutate hdone).2 (Node.success_outcome hsuccess)

end Reported

/-! ## Plans -/

/-- The plans that `Client.plan` can have for a request. -/
inductive Request.Plans : Request → Plan → Prop where
  | get {key wire : String} {server? : Option Endpoint} :
      Plans (.get key) (.single server? (.get wire))
  | getWithCas {key wire : String} {server? : Option Endpoint} :
      Plans (.getWithCas key) (.single server? (.get wire))
  | getMany {keys : List String} {b : Batch} : Plans (.getMany keys) (.batch b)
  | getManyWithCas {keys : List String} {b : Batch} : Plans (.getManyWithCas keys) (.batch b)
  | store {mode : StoreMode} {key wire : String} {value : Value} {expiration : Expiration}
      {cas : UInt64} {server? : Option Endpoint} {item : Item} {expires : UInt32} :
      Plans (.store mode key value expiration cas)
        (.single server? (.store mode wire item expires cas))
  /-- The value cannot be stored, and nothing is asked. -/
  | unstorable {mode : StoreMode} {key : String} {value : Value} {expiration : Expiration}
      {cas : UInt64} {message : String} :
      Plans (.store mode key value expiration cas)
        (.settled (.changed (.fail .localFailure message)))
  | mutate {mode : MutateMode} {key wire : String} {initial delta cas : UInt64}
      {expiration : Expiration} {server? : Option Endpoint} {expires : UInt32} :
      Plans (.mutate mode key initial delta expiration cas)
        (.single server? (.mutate mode wire initial delta expires cas))
  | concat {mode : ConcatMode} {key wire : String} {data : Bytes} {cas : UInt64}
      {server? : Option Endpoint} :
      Plans (.concat mode key data cas) (.single server? (.concat mode wire data cas))
  | remove {key wire : String} {server? : Option Endpoint} :
      Plans (.remove key) (.single server? (.delete wire 0))
  | flush {delay : Duration} {servers : List Endpoint} {n : UInt32} :
      Plans (.flush delay) (.broadcast servers (.flush n))
  | stats {filter : Option String} {servers : List Endpoint} :
      Plans (.stats filter) (.broadcast servers (.stats filter))

/-- A response is what became of a share of `Plan.shares`: of a task of its command, over any
    `Task.Run`, in any states of its node. -/
def Plan.Yields (plan : Plan) (response : Response) : Prop :=
  ∃ ticket command t, (response.server, command) ∈ plan.shares ∧ Task.Run ticket command t ∧
    t.result? = some (.executed response.outcome response.reply)

theorem Plan.Yields.reported {server? : Option Endpoint} {command : Command} {response : Response}
    (h : (Plan.single server? command).Yields response) :
    Reported command response.outcome response.reply := by
  obtain ⟨ticket, other, t, hmem, hrun, hresult⟩ := h
  obtain ⟨server, -, heq⟩ := List.mem_map.mp hmem
  obtain rfl := (Prod.mk.inj heq).2
  exact hrun.reported hresult

theorem Plan.Yields.coherent {plan : Plan} {response : Response} (h : plan.Yields response) :
    response.outcome.Coherent := by
  obtain ⟨ticket, command, t, -, hrun, hresult⟩ := h
  exact (hrun.reported hresult).coherent

/-! ## Answers -/

/-- The answer that a request is to have: one of its own kind, `Outcome.Coherent`, and with a value
    if it is a success that is about one (`Outcome.Delivers`). -/
def Request.Answered : Request → Answer → Prop
  | .get _, .read outcome => outcome.Coherent ∧ outcome.Delivers
  | .mutate _ _ _ _ _ _, .counted outcome => outcome.Coherent ∧ outcome.Delivers
  | .store _ _ _ _ _, .changed outcome => outcome.Coherent
  | .concat _ _ _ _, .changed outcome => outcome.Coherent
  | .remove _, .changed outcome => outcome.Coherent
  | .flush _, .flushed outcomes => ∀ entry ∈ outcomes, entry.2.Coherent
  | .getWithCas _, .readWithCas _ => True
  | .getMany _, .many _ => True
  | .getManyWithCas _, .manyWithCas _ => True
  | .stats _, .statistics _ => True
  | _, _ => False

namespace Client

variable {c : Client} {r : Request} {plan : Plan} {responses : List Response}

/-- **Every plan is one of these.** -/
theorem plans_of_plan {clock : WallTime} {f : Fleet} (h : c.plan clock f r = .ok plan) :
    r.Plans plan := by
  unfold Client.plan at h
  dsimp only at h
  split at h
  · cases h
  · cases r with
    | get key | getWithCas key | concat mode key data cas | remove key =>
        dsimp only at h
        split at h
        · cases h
        · obtain rfl := Except.ok.inj h
          constructor
    | getMany keys | getManyWithCas keys =>
        dsimp only at h
        split at h
        · cases h
        · split at h
          · cases h
          · obtain rfl := Except.ok.inj h
            constructor
    | store mode key value expiration cas =>
        dsimp only at h
        split at h
        · cases h
        · split at h
          · cases h
          · split at h
            · obtain rfl := Except.ok.inj h
              exact .unstorable
            · obtain rfl := Except.ok.inj h
              exact .store
    | mutate mode key initial delta expiration cas =>
        dsimp only at h
        split at h
        · cases h
        · split at h
          · cases h
          · obtain rfl := Except.ok.inj h
            exact .mutate
    | flush delay =>
        dsimp only at h
        split at h
        · cases h
        · obtain rfl := Except.ok.inj h
          exact .flush
    | stats filter =>
        obtain rfl := Except.ok.inj h
        exact .stats

/-- What `Client.readOutcome` reads is coherent, and a success brings the value, whatever the
    transcoder makes of the item. -/
theorem coherent_readOutcome {outcome : Outcome Unit} (reply : Reply) (h : outcome.Coherent) :
    (c.readOutcome outcome reply).Coherent ∧ (c.readOutcome outcome reply).Delivers := by
  unfold readOutcome
  split
  · split
    · exact ⟨Outcome.coherent_fail .., nofun⟩
    · split
      · exact ⟨h.withValue _, Outcome.delivers_withValue fun _ => rfl⟩
      -- the item is there, and cannot be decoded: the success is what led to the failure
      · exact ⟨(Outcome.coherent_fail ..).withCause h, nofun⟩
  · next hfailed =>
      exact ⟨h.withValue _, Outcome.delivers_withValue fun hsuccess => absurd hsuccess hfailed⟩

/-- Every entry of `flushOutcomes` is coherent if every outcome is. -/
theorem coherent_flushOutcomes (h : ∀ response ∈ responses, response.outcome.Coherent) :
    ∀ entry ∈ flushOutcomes responses, entry.2.Coherent := by
  have hfold : ∀ t : Table Endpoint (Outcome Unit), (∀ entry ∈ t, entry.2.Coherent) →
      ∀ entry ∈ responses.foldl (fun t r => t.insert r.server r.outcome) t,
        entry.2.Coherent := by
    induction responses with
    | nil =>
        intro t ht
        exact ht
    | cons response responses ih =>
        intro t ht
        apply ih
        · intro later hmem
          exact h later (List.mem_cons_of_mem _ hmem)
        · intro entry hmem
          rcases Table.mem_of_mem_insert hmem with rfl | hbefore
          · exact h response List.mem_cons_self
          · exact ht entry hbefore
  exact hfold [] nofun

/-- The answer to a request for one key, by `Client.concludeSingle`. -/
theorem answered_concludeSingle {server? : Option Endpoint} {command : Command}
    {outcome : Outcome Unit} {reply : Reply} (hplans : r.Plans (.single server? command))
    (hcoherent : outcome.Coherent) (hcounter : outcome.success = true →
      ∀ mode key initial delta expires cas, command = .mutate mode key initial delta expires cas →
        reply.counter?.isSome = true) :
    r.Answered (c.concludeSingle r outcome reply) := by
  cases hplans with
  | get => exact coherent_readOutcome reply hcoherent
  | getWithCas => exact trivial
  | store | concat | remove => exact hcoherent
  | mutate =>
      exact ⟨hcoherent.withValue _, Outcome.delivers_withValue fun hsuccess =>
        hcounter hsuccess _ _ _ _ _ _ rfl⟩

/-- **Every answer is coherent, whatever the servers do.** Let a request have a plan, whatever the
    fleet is like, and let each response be what became of a part of the plan (`Plan.Yields`),
    whatever states the node was in and whatever the network delivered. Then the answer of
    `Client.conclude` is of the request's kind; each outcome in it is `Outcome.Coherent`, and so are
    all the causes that led to it; and a read or a counter change that succeeds carries its value
    (`Outcome.Delivers`). -/
theorem answered_conclude (c : Client) (clock : WallTime) (f : Fleet) (r : Request) (plan : Plan)
    (responses : List Response) (hplan : c.plan clock f r = .ok plan)
    (hresponses : ∀ response ∈ responses, plan.Yields response) :
    r.Answered (c.conclude r plan responses) := by
  have hplans := plans_of_plan hplan
  have hcoherent : ∀ response ∈ responses, response.outcome.Coherent := by
    intro response hmem
    exact (hresponses response hmem).coherent
  cases plan with
  | settled answer =>
      cases hplans
      exact Outcome.coherent_fail ..
  | single server? command =>
      cases responses with
      | nil => exact answered_concludeSingle hplans (Outcome.coherent_fail ..) nofun
      | cons response rest =>
          refine answered_concludeSingle hplans (hcoherent response List.mem_cons_self) ?_
          rintro hsuccess mode key initial delta expires cas rfl
          exact (hresponses response List.mem_cons_self).reported.counter hsuccess
  | batch b => cases hplans <;> exact trivial
  | broadcast servers command =>
      cases hplans with
      | flush => exact coherent_flushOutcomes hcoherent
      | stats => exact trivial

end Client

/-! ## A read that fails after it succeeded -/

/-- A `Task.Course` is one of the runs of its task. -/
theorem Task.Course.run {ticket : Ticket} {command : Command} {n : Node} {t : Task}
    {effects : List Effect} {heard : Bytes} (h : Task.Course ticket command n t effects heard) :
    Task.Run ticket command t := by
  induction h with
  | begun => exact .begun
  | stepped now arrival? _ _ hturn ih => exact .stepped now arrival? _ ih hturn
  | others _ _ _ ih => exact ih

/-- One server that has the whole circle. -/
def lone : Fleet :=
  { Fleet.ofServers [⟨"a:1"⟩] {} .failImmediately with
    ring := ⟨[⟨"a:1"⟩], [(0xffffffff, 0)]⟩ }

/-- The answer to a read: a text that is none. -/
def brokenText : Bytes :=
  ({ magic := Magic.response, opcode := Opcode.get, cas := 5, extras := be 4 Flags.text.toNat
     value := [0xff] } : Packet).encode

/-- The server's success with the text as its item. -/
def brokenReply : Reply :=
  { status? := some .ok, cas := 5, item? := some ⟨Flags.text, [0xff]⟩ }

/-- The server reports success, and the item cannot be decoded: the read is a failure without a
    token and a value, and what led to it is a success with its token. -/
theorem Client.answered_conclude_brokenText :
    ∃ plan response answer, ({} : Client).plan 0 lone (.get "k") = .ok plan ∧
      plan.Yields response ∧
      ({} : Client).conclude (.get "k") plan [response] = answer ∧
      (Request.get "k").Answered answer ∧
      answer = .read
        { report := .fail .localFailure "stored string is not valid UTF-8"
          causes := [.pass 5] } := by
  have hplan : ({} : Client).plan 0 lone (.get "k") =
      .ok (.single (some ⟨"a:1"⟩) (.get "k")) := by decide +kernel
  have hscan : ((Command.get "k").exchange 0).scan brokenText =
      ({ command := .get "k", reply := brokenReply, base := 0 }, [], .ended (.ok ())) := by cbv
  obtain ⟨n, t, hcourse, hresult⟩ := Task.Course.exists_answered ⟨"a:1"⟩ {} .failImmediately 0 0
    (congrArg (·.2.2) hscan)
  rw [hscan] at hresult
  have hyields : (Plan.single (some ⟨"a:1"⟩) (.get "k")).Yields
      ⟨⟨"a:1"⟩, Node.outcome brokenReply, brokenReply⟩ :=
    ⟨0, .get "k", t, List.mem_cons_self, hcourse.run, hresult⟩
  refine ⟨_, _, _, hplan, hyields, rfl, ?_, by decide +kernel⟩
  refine answered_conclude {} 0 lone (.get "k") _ _ hplan ?_
  intro response hmem
  obtain rfl := List.mem_singleton.mp hmem
  exact hyields

end Memcache
