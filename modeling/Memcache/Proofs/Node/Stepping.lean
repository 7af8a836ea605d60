import Memcache.Task

/-!
# `Memcache.Proofs.Node.Stepping` — what a step of a task can be

`Task.step` is a function of the `Stage` in which it finds the task, of the pool and of what the
network has brought, the `Arrival`. Read the other way round it is a short list, `Task.Step`: which
turns there are, and what has to have happened for each. Every property that all steps keep is
proved along this list, and does not look into the function.

## Contents

* `Pool.Resumes`, `Pool.resume_eq_some_iff` — what the pool can answer to who has waited;
* `Task.Listened`, `Task.listen_eq_some_iff` — **what becomes of a wait for an answer** on a lent
  connection;
* `Task.Step`, `Task.step_eq_some_iff` — **what a step can be**; `Task.turn_of_fresh`.
-/

namespace Memcache

/-! ## The pool's answer after a wait -/

namespace Pool

variable {p : Pool} {t : Ticket} {answer : Pool × Admission}

/-- **What `Pool.resume` can answer to who has waited,** and the pool that it leaves. -/
inductive Resumes (p : Pool) (t : Ticket) : Pool × Admission → Prop where
  | granted (hclaim : p.claims.lookup t = some .granted) (hopen : p.closed = false) :
      Resumes p t (p.proceed t)
  /-- The permit has come too late: the pool is `closed`, and `surrender` hands it on. -/
  | refused (hclaim : p.claims.lookup t = some .granted) (hclosed : p.closed = true) :
      Resumes p t (p.surrender t, .refused)
  | dismissed (hclaim : p.claims.lookup t = some .waiting) (hclosed : p.closed = true) :
      Resumes p t ({ p with claims := p.claims.erase t }, .refused)

theorem resume_eq_some_iff : p.resume t = some answer ↔ p.Resumes t answer := by
  constructor
  · intro hanswer
    unfold resume at hanswer
    split at hanswer
    · next hclaim =>
        obtain rfl := Option.some.inj hanswer
        by_cases hclosed : p.closed = true
        · rw [if_pos hclosed]
          exact .refused hclaim hclosed
        · rw [if_neg hclosed]
          exact .granted hclaim (Bool.eq_false_iff.mpr hclosed)
    · next hclaim =>
        obtain ⟨hclosed, hanswer⟩ := Option.ite_none_right_eq_some.mp hanswer
        obtain rfl := Option.some.inj hanswer
        exact .dismissed hclaim hclosed
    · contradiction
  · intro hresumes
    unfold resume
    cases hresumes with
    | granted hclaim hopen =>
        rw [hclaim]
        exact congrArg some (if_neg (Bool.eq_false_iff.mp hopen))
    | refused hclaim hclosed =>
        rw [hclaim]
        exact congrArg some (if_pos hclosed)
    | dismissed hclaim hclosed =>
        rw [hclaim]
        exact if_pos hclosed

end Pool

/-! ## Tasks -/

namespace Task

variable {now : Time} {ticket : Ticket} {arrival? : Option Arrival} {n : Node} {t : Task}
  {turn : Turn}

/-- **What `Task.listen` makes of a wait for an answer.** The lent connection takes in the octets
    that have come, or the wait ends as `interruption?` says. -/
inductive Listened (now : Time) (ticket : Ticket) (arrival? : Option Arrival) (n : Node) (t : Task)
    (x : Exchange) (deadline : Time) : Turn → Prop where
  | heard {bs : Bytes} {lease : Lease} (harrival : arrival? = some (.octets bs))
      (hlease : n.pool.lease? (t.holder ticket) = some lease) :
      Listened now ticket arrival? n t x deadline
        (t.heard now ticket
          { n with
            pool := n.pool.putLease (t.holder ticket)
              { lease with connection := (x.receive lease.connection bs).2.1 } }
          (x.receive lease.connection bs).1 (x.receive lease.connection bs).2.2)
  | interrupted {e : ConnectionError}
      (hunheard : ∀ bs lease, arrival? = some (.octets bs) →
        n.pool.lease? (t.holder ticket) ≠ some lease)
      (hbroken : interruption? now deadline n arrival? = some e) :
      Listened now ticket arrival? n t x deadline (t.ended now ticket n x.reply (.error e))

theorem listen_eq_some_iff {x : Exchange} {deadline : Time} :
    t.listen now ticket arrival? n x deadline = some turn ↔
      t.Listened now ticket arrival? n x deadline turn := by
  unfold listen
  constructor
  · intro hturn
    split at hturn
    · next bs lease hlease =>
        obtain rfl := Option.some.inj hturn
        exact .heard rfl hlease
    · next hunheard =>
        obtain ⟨e, hbroken, rfl⟩ := Option.map_eq_some_iff.mp hturn
        exact .interrupted hunheard hbroken
  · intro hlistened
    cases hlistened with
    | heard harrival hlease => rw [harrival, hlease]
    | interrupted hunheard hbroken =>
        split
        · next bs lease hlease => exact absurd hlease (hunheard bs lease rfl)
        · rw [hbroken]
          rfl

/-- **What `Task.step` can be,** by the stage in which it finds the task. -/
inductive Step (now : Time) (ticket : Ticket) (arrival? : Option Arrival) (n : Node) (t : Task) :
    Turn → Prop where
  | begun (hstage : t.stage = .fresh) : Step now ticket arrival? n t (t.start now ticket n)
  /-- The pool has answered by `Pool.resume`, after a wait. -/
  | resumed {deadline : Time} {pool : Pool} {a : Admission} (hstage : t.stage = .queued deadline)
      (hresume : n.pool.resume ticket = some (pool, a)) :
      Step now ticket arrival? n t (t.admitted now ticket { n with pool := pool } a)
  /-- The pool has not answered by `deadline`. -/
  | overdue {deadline : Time} (hstage : t.stage = .queued deadline)
      (hresume : n.pool.resume ticket = none) (hlate : deadline ≤ now) :
      Step now ticket arrival? n t
        (t.denied now { n with pool := n.pool.withdraw ticket }
          (.queueTimeout n.pool.settings.queueTimeout))
  | connected {deadline : Time} {link : Nat} (hstage : t.stage = .dialling deadline)
      (harrival : arrival? = some (.connected link)) :
      Step now ticket arrival? n t (t.connected now ticket n link)
  | refused {deadline : Time} (hstage : t.stage = .dialling deadline)
      (harrival : arrival? = some .refused) :
      Step now ticket arrival? n t (t.unreachable now ticket n (.io .refused))
  /-- The network has neither connected nor refused by `deadline`. -/
  | unconnected {deadline : Time} (hstage : t.stage = .dialling deadline)
      (hquiet : ∀ link, arrival? ≠ some (.connected link)) (hunrefused : arrival? ≠ some .refused)
      (hlate : deadline ≤ now) :
      Step now ticket arrival? n t (t.unreachable now ticket n (.connectTimeout n.endpoint))
  | listened {x : Exchange} {deadline : Time} {turn : Turn} (hstage : t.stage = .talking x deadline)
      (hlistened : t.Listened now ticket arrival? n x deadline turn) :
      Step now ticket arrival? n t turn
  /-- A connection of the task's own takes in the octets that have come. -/
  | sounded {c : Connection} {x : Exchange} {deadline : Time} {bs : Bytes}
      (hstage : t.stage = .probing c x deadline) (harrival : arrival? = some (.octets bs)) :
      Step now ticket arrival? n t
        (t.sounded now n (x.receive c bs).2.1 (x.receive c bs).1 (x.receive c bs).2.2)
  /-- The wait for octets on it ends as `interruption?` says. -/
  | broken {c : Connection} {x : Exchange} {deadline : Time} {e : ConnectionError}
      (hstage : t.stage = .probing c x deadline) (hquiet : ∀ bs, arrival? ≠ some (.octets bs))
      (hbroken : interruption? now deadline n arrival? = some e) :
      Step now ticket arrival? n t (t.probed now n (.error e))

/-- **All turns are listed in `Step`, and no others.** -/
theorem step_eq_some_iff :
    t.step now ticket arrival? n = some turn ↔ t.Step now ticket arrival? n turn := by
  constructor
  · intro hturn
    unfold step at hturn
    split at hturn
    · next hstage =>
        obtain rfl := Option.some.inj hturn
        exact .begun hstage
    · next deadline hstage =>
        split at hturn
        · next pool a hresume =>
            obtain rfl := Option.some.inj hturn
            exact .resumed hstage hresume
        · next hresume =>
            obtain ⟨hlate, hturn⟩ := Option.ite_none_right_eq_some.mp hturn
            obtain rfl := Option.some.inj hturn
            exact .overdue hstage hresume hlate
    · next deadline hstage =>
        split at hturn
        · next link =>
            obtain rfl := Option.some.inj hturn
            exact .connected hstage rfl
        · obtain rfl := Option.some.inj hturn
          exact .refused hstage rfl
        · next hquiet hunrefused =>
            obtain ⟨hlate, hturn⟩ := Option.ite_none_right_eq_some.mp hturn
            obtain rfl := Option.some.inj hturn
            exact .unconnected hstage hquiet hunrefused hlate
    · next x deadline hstage => exact .listened hstage (listen_eq_some_iff.mp hturn)
    · next c x deadline hstage =>
        split at hturn
        · obtain rfl := Option.some.inj hturn
          exact .sounded hstage rfl
        · next hquiet =>
            obtain ⟨e, hbroken, rfl⟩ := Option.map_eq_some_iff.mp hturn
            exact .broken hstage hquiet hbroken
    · contradiction
  · intro hstep
    unfold step
    cases hstep with
    | begun hstage => rw [hstage]
    | resumed hstage hresume =>
        rw [hstage]
        dsimp only
        rw [hresume]
    | overdue hstage hresume hlate =>
        rw [hstage]
        dsimp only
        rw [hresume]
        exact if_pos hlate
    | connected hstage harrival => rw [hstage, harrival]
    | refused hstage harrival => rw [hstage, harrival]
    | unconnected hstage hquiet hunrefused hlate =>
        rw [hstage]
        dsimp only
        split
        · next link => exact absurd rfl (hquiet link)
        · exact absurd rfl hunrefused
        · exact if_pos hlate
    | listened hstage hlistened =>
        rw [hstage]
        exact listen_eq_some_iff.mpr hlistened
    | sounded hstage harrival => rw [hstage, harrival]
    | broken hstage hquiet hbroken =>
        rw [hstage]
        dsimp only
        split
        · next bs => exact absurd rfl (hquiet bs)
        · rw [hbroken]
          rfl

/-- A task in `Stage.fresh` takes the turn `Task.start`. -/
theorem turn_of_fresh (hstage : t.stage = .fresh)
    (hturn : t.step now ticket arrival? n = some turn) : turn = t.start now ticket n := by
  cases step_eq_some_iff.mp hturn with
  | begun _ => rfl
  | resumed h _ | overdue h _ _ | connected h _ | refused h _ | unconnected h _ _ _ | listened h _
  | sounded h _ | broken h _ _ =>
      rw [hstage] at h
      contradiction

end Task

end Memcache
