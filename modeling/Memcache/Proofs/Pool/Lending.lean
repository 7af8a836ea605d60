import Memcache.Proofs.Pool.Workload

/-!
# `Memcache.Proofs.Pool.Lending` — what the flag of a lease tells

A connection that comes back to its pool by `Pool.release` becomes idle only if `Lease.sound` is
set. This is one flag, and three calls of the holder write it: a command that begins clears it, a
command that succeeds sets it (`Pool.settle`), and giving the connection up clears it
(`Pool.discard`). None of them looks at what the flag was before.

Here each of the calls is looked at by itself, and so is the request that gets the connection. A
connection is sound when it is lent. A command either goes on, or has ended and left the flag to
tell how. And a connection that is dropped is idle if the flag says so and the pool takes it.

## Contents

* `Use`, `Use.leavesSound` — how a call ended, and what all calls together leave;
* `Pool.IsIdle`, `Pool.isIdle_release_iff` — **what becomes of a connection that is dropped**;
* `Turn.Lends`, `Task.lends_step` — **a connection is sound when it is lent**;
* `Turn.Marks`, `Task.marks_step` — **a command goes on, or leaves its mark on the lease**.
-/

namespace Memcache

/-! ## Calls -/

/-- How a call on a lent connection ended. -/
inductive Use where
  /-- A command came to its end. -/
  | ran (result : Except ConnectionError Unit)
  /-- A command was given up while it was under way. -/
  | cutOff
  /-- The holder gave the connection up. -/
  | discarded

namespace Use

/-- True of `ran` with a result that is no error. -/
def succeeded : Use → Bool
  | .ran result => Verdict.succeeded result
  | .cutOff | .discarded => false

/-- What calls leave: `true`, for a sound connection, if there were none or the last one
    `succeeded`. -/
def leavesSound (uses : List Use) : Bool :=
  uses.getLast?.all succeeded

@[simp] theorem leavesSound_append (uses : List Use) (use : Use) :
    leavesSound (uses ++ [use]) = use.succeeded := by
  simp [leavesSound]

/-- If no call `succeeded` after one that has not, the last call speaks for all. -/
theorem all_succeeded {uses : List Use}
    (hlasting : uses.Pairwise fun earlier later =>
      later.succeeded = true → earlier.succeeded = true)
    (hlast : leavesSound uses = true) : ∀ use ∈ uses, use.succeeded = true := by
  rcases List.eq_nil_or_concat uses with rfl | ⟨before, last, rfl⟩
  · exact nofun
  · rw [List.concat_eq_append] at hlasting hlast ⊢
    rw [leavesSound_append] at hlast
    obtain ⟨-, -, hbefore⟩ := List.pairwise_append.mp hlasting
    intro use huse
    rcases List.mem_append.mp huse with hearlier | hsame
    · exact hbefore use hearlier last (List.mem_singleton_self last) hlast
    · rw [List.mem_singleton.mp hsame]
      exact hlast

end Use

/-! ## A connection that comes back -/

namespace Pool

variable {p : Pool} {t : Ticket} {lease : Lease}

/-- The connection `link` is in `Pool.idle`. -/
def IsIdle (p : Pool) (link : Nat) : Prop :=
  ∃ c ∈ p.idle, c.link = link

theorem idle_surrender (p : Pool) (t : Ticket) : (p.surrender t).idle = p.idle := by
  unfold surrender freePermit
  split
  · rfl
  · rfl

/-- A connection that is `lent` is not idle. -/
theorem Sound.not_isIdle (h : p.Sound) (ht : p.claims.lookup t = some (.lent lease)) :
    ¬ p.IsIdle lease.connection.link := by
  rintro ⟨c, hc, hlink⟩
  have hidle : 0 < p.idle.countP (·.link == lease.connection.link) :=
    List.countP_pos_iff.mpr ⟨c, hc, by simp [hlink]⟩
  have hpage := Table.tally_split (Claim.lends lease.connection.link) t h.keys
  have huses := h.uses lease.connection.link
  rw [ht] at hpage
  simp only [Option.any_some, Claim.lends, beq_self_eq_true, Bool.toNat_true] at hpage
  unfold Pool.uses at huses
  omega

/-- A lent connection is idle after `Pool.release` if its lease is `sound` and the pool takes it: it
    is open, and has room. -/
theorem isIdle_release_iff (h : p.Sound) (ht : p.claims.lookup t = some (.lent lease)) :
    (p.release t).IsIdle lease.connection.link ↔
      lease.sound = true ∧ p.closed = false ∧ p.idle.length < p.settings.maxConnections := by
  have hbefore := h.not_isIdle ht
  unfold release IsIdle
  rw [lease?_eq_some_iff.mpr ht]
  dsimp only
  rw [idle_surrender]
  by_cases hsound : lease.sound = true
  · rw [if_pos hsound, stock]
    by_cases hfull : p.closed = true ∨ p.settings.maxConnections ≤ p.idle.length
    · rw [if_pos hfull]
      refine iff_of_false hbefore ?_
      rintro ⟨-, hopen, hroom⟩
      rcases hfull with hclosed | hfull
      · rw [hopen] at hclosed
        contradiction
      · exact Nat.not_le_of_lt hroom hfull
    · rw [if_neg hfull]
      obtain ⟨hopen, hroom⟩ := not_or.mp hfull
      refine iff_of_true ?_ ⟨hsound, Bool.eq_false_iff.mpr hopen, Nat.lt_of_not_le hroom⟩
      exact ⟨lease.connection, List.mem_append_right _ (List.mem_singleton_self _), rfl⟩
  · rw [if_neg hsound]
    exact iff_of_false hbefore fun hback => hsound hback.1

end Pool

/-! ## A connection that is lent -/

namespace Pool

variable {p : Pool} {t : Ticket}

theorem sound_of_proceed (h : (p.proceed t).2 = .lent) :
    ∃ c, (p.proceed t).1.claims.lookup t = some (.lent ⟨c, true⟩) := by
  unfold proceed at h ⊢
  cases hidle : p.idle with
  | nil =>
      rw [hidle] at h
      contradiction
  | cons c rest => exact ⟨c, by simp [Table.lookup_insert]⟩

theorem sound_of_enter (h : (p.enter t).2 = .lent) :
    ∃ c, (p.enter t).1.claims.lookup t = some (.lent ⟨c, true⟩) := by
  unfold enter at h ⊢
  split at h
  · contradiction
  · split at h
    · contradiction
    · next hopen hpermits =>
        rw [if_neg hopen, if_neg hpermits]
        exact sound_of_proceed h

theorem sound_of_resume {answer : Pool × Admission} (hanswer : p.resume t = some answer)
    (h : answer.2 = .lent) : ∃ c, answer.1.claims.lookup t = some (.lent ⟨c, true⟩) := by
  cases resume_eq_some_iff.mp hanswer with
  | granted _ _ => exact sound_of_proceed h
  | refused _ _ | dismissed _ _ => contradiction

end Pool

/-- A turn that ends in `borrowed` without an error has lent a connection whose lease is `sound`. -/
def Turn.Lends (turn : Turn) (ticket : Ticket) : Prop :=
  turn.task.stage = .finished (.borrowed (.ok ())) →
    ∃ c, turn.node.pool.claims.lookup ticket = some (.lent ⟨c, true⟩)

namespace Task

variable {ticket : Ticket} {now : Time} {n : Node} {t : Task}

section Borrow
variable (hpurpose : t.purpose = .borrow)
include hpurpose

theorem lends_denied {e : PoolError} : (t.denied now n e).Lends ticket := by
  intro hlent
  unfold denied at hlent
  rw [hpurpose] at hlent
  cases hlent

theorem lends_equipped (hsound : ∃ c, n.pool.claims.lookup ticket = some (.lent ⟨c, true⟩)) :
    (t.equipped now ticket n).Lends ticket := by
  intro _
  unfold equipped
  rw [hpurpose]
  exact hsound

theorem lends_admitted {a : Admission}
    (ha : a = .lent → ∃ c, n.pool.claims.lookup ticket = some (.lent ⟨c, true⟩)) :
    (t.admitted now ticket n a).Lends ticket := by
  cases a with
  | lent => exact lends_equipped hpurpose (ha rfl)
  | queued | opening => exact nofun
  | refused => exact lends_denied hpurpose

/-- A command ends without a loan. -/
theorem lends_ended {reply : Reply} {result : Except ConnectionError Unit} :
    (t.ended now ticket n reply result).Lends ticket := by
  intro hlent
  unfold ended account at hlent
  rw [hpurpose] at hlent
  cases result with
  | ok u => cases hlent
  | error e => cases hlent

theorem lends_heard {x : Exchange} {v : Verdict} : (t.heard now ticket n x v).Lends ticket := by
  cases v with
  | waiting => exact nofun
  | ended result => exact lends_ended hpurpose

theorem lends_listen {x : Exchange} {deadline : Time} {arrival? : Option Arrival} {turn : Turn}
    (hlistened : t.Listened now ticket arrival? n x deadline turn) : turn.Lends ticket := by
  cases hlistened with
  | heard _ _ => exact lends_heard hpurpose
  | interrupted _ _ => exact lends_ended hpurpose

/-- **A connection is sound when it is lent**, at once, after a wait, or when it has been opened. -/
theorem lends_step {arrival? : Option Arrival} {turn : Turn} (hfits : t.Fits ticket n.pool)
    (hturn : t.step now ticket arrival? n = some turn) : turn.Lends ticket := by
  have hholds : t.stage.Holds (n.pool.claims.lookup ticket) :=
    (fits_of_acquires (by rw [hpurpose]; rfl)).mp hfits
  cases step_eq_some_iff.mp hturn with
  | begun _ =>
      unfold start acquire
      rw [hpurpose]
      exact lends_admitted (n := { n with pool := _ }) hpurpose Pool.sound_of_enter
  | resumed _ hresume =>
      exact lends_admitted (n := { n with pool := _ }) hpurpose (Pool.sound_of_resume hresume)
  | overdue _ _ _ => exact lends_denied hpurpose
  | @connected _ link hstage _ =>
      rw [hstage] at hholds
      have hopening : n.pool.claims.lookup ticket = some .opening := hholds
      unfold connected
      rw [hpurpose]
      refine lends_equipped (n := { n with pool := n.pool.opened ticket link }) hpurpose ?_
      exact ⟨{ link := link }, by simp [Pool.opened, Table.lookup_modify, hopening]⟩
  | refused _ _ | unconnected _ _ _ _ =>
      unfold unreachable
      rw [hpurpose]
      exact lends_denied hpurpose
  | listened _ hlistened => exact lends_listen hpurpose hlistened
  | sounded hstage _ | broken hstage _ _ =>
      rw [hstage] at hholds
      exact absurd hholds id

end Borrow

end Task

/-! ## A command on a lent connection -/

theorem Pool.lookup_putLease {p : Pool} {t : Ticket} {old : Lease} (lease : Lease)
    (ht : p.claims.lookup t = some (.lent old)) :
    (p.putLease t lease).claims.lookup t = some (.lent lease) := by
  simp [putLease, Table.lookup_modify, ht]

/-- A turn of a command on a lent connection. The lease is there still, of the same `link`; and
    either the command goes on in `Stage.talking`, or it has ended and the flag `sound` tells
    how. -/
def Turn.Marks (turn : Turn) (holder : Ticket) (link : Nat) : Prop :=
  ∃ lease, turn.node.pool.claims.lookup holder = some (.lent lease) ∧
    lease.connection.link = link ∧
    ((∃ x deadline, turn.task.stage = .talking x deadline) ∨
      ∃ result reply, turn.task.stage = .finished (.ran result reply) ∧
        lease.sound = Verdict.succeeded result)

namespace Task

variable {ticket holder : Ticket} {now : Time} {n : Node} {t : Task} {command : Command}
  {link : Nat}

section Use
variable (hpurpose : t.purpose = .use holder command)
include hpurpose

theorem marks_ended {c : Connection} {reply : Reply} {result : Except ConnectionError Unit}
    (hlent : n.pool.claims.lookup holder = some (.lent ⟨c, false⟩)) (hlink : c.link = link) :
    (t.ended now ticket n reply result).Marks holder link := by
  unfold ended
  rw [hpurpose]
  dsimp only [Turn.Marks]
  unfold Pool.settle
  rw [Pool.lease?_eq_some_iff.mpr hlent]
  cases result with
  | error e => exact ⟨⟨c, false⟩, hlent, hlink, .inr ⟨_, _, rfl, rfl⟩⟩
  | ok u =>
      have hsound := Pool.lookup_putLease ⟨c, true⟩ hlent
      exact ⟨⟨c, true⟩, hsound, hlink, .inr ⟨_, _, rfl, rfl⟩⟩

theorem marks_heard {c : Connection} {x : Exchange} {v : Verdict}
    (hlent : n.pool.claims.lookup holder = some (.lent ⟨c, false⟩)) (hlink : c.link = link) :
    (t.heard now ticket n x v).Marks holder link := by
  cases v with
  | waiting => exact ⟨⟨c, false⟩, hlent, hlink, .inl ⟨_, _, rfl⟩⟩
  | ended result => exact marks_ended hpurpose hlent hlink

/-- A command clears `Lease.sound` by `Task.engage`, before anything else can happen. -/
theorem marks_engage {lease : Lease} (hlent : n.pool.claims.lookup holder = some (.lent lease))
    (hlink : lease.connection.link = link) :
    (t.engage now ticket holder n command).Marks holder link := by
  unfold engage
  rw [Pool.lease?_eq_some_iff.mpr hlent]
  have hcleared := Pool.lookup_putLease ⟨(lease.connection.begin command).1, false⟩ hlent
  exact marks_heard (n := { n with pool := _ }) hpurpose hcleared hlink

theorem marks_listen {c : Connection} {x : Exchange} {deadline : Time} {arrival? : Option Arrival}
    {turn : Turn} (hlent : n.pool.claims.lookup holder = some (.lent ⟨c, false⟩))
    (hlink : c.link = link) (hlistened : t.Listened now ticket arrival? n x deadline turn) :
    turn.Marks holder link := by
  have hholder : t.holder ticket = holder := holder_of_use hpurpose
  cases hlistened with
  | interrupted _ _ => exact marks_ended hpurpose hlent hlink
  | @heard bs lease _ hlease =>
      rw [hholder] at hlease ⊢
      obtain rfl : lease = ⟨c, false⟩ :=
        Option.some.inj (hlease.symm.trans (Pool.lease?_eq_some_iff.mpr hlent))
      have hread := Pool.lookup_putLease ⟨(x.receive c bs).2.1, false⟩ hlent
      exact marks_heard (n := { n with pool := _ }) hpurpose hread hlink

/-- **A command goes on, or leaves its mark on the lease.** -/
theorem marks_step {lease : Lease} {arrival? : Option Arrival} {turn : Turn}
    (hfits : t.Fits ticket n.pool) (hlent : n.pool.claims.lookup holder = some (.lent lease))
    (hlink : lease.connection.link = link)
    (hturn : t.step now ticket arrival? n = some turn) : turn.Marks holder link := by
  have hborrows : t.stage.Borrows (n.pool.claims.lookup holder) := by
    unfold Fits at hfits
    rw [hpurpose] at hfits
    exact hfits.2
  cases step_eq_some_iff.mp hturn with
  | begun _ =>
      unfold start
      rw [hpurpose]
      exact marks_engage hpurpose hlent hlink
  | listened hstage hlistened =>
      rw [hstage] at hborrows
      obtain ⟨c, hc⟩ := hborrows
      obtain rfl : lease = ⟨c, false⟩ := by simpa [hlent] using hc
      exact marks_listen hpurpose hlent hlink hlistened
  | resumed hstage _ | overdue hstage _ _ | connected hstage _ | refused hstage _
  | unconnected hstage _ _ _ | sounded hstage _ | broken hstage _ _ =>
      rw [hstage] at hborrows
      exact absurd hborrows id

end Use

end Task

end Memcache
