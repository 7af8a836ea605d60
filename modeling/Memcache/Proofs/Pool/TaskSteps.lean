import Memcache.Proofs.Connection.Reading
import Memcache.Proofs.Node.Stepping
import Memcache.Proofs.Pool.Moves

/-!
# `Memcache.Proofs.Pool.TaskSteps` — what a task has of its pool, from wait to wait

At each wait of a task its `Stage` tells which `Claim` its ticket has: a place in the queue or a
permit in `Stage.queued`, a permit in `Stage.dialling`, a connection that is not sound in
`Stage.talking` (`Task.Fits`). One `Task.step` calls several functions of the pool, and perhaps
empties it because the node died. All of that is the doing of one ticket, and at the next wait the
ticket holds again what the stage tells.

## Contents

* `Task.Fits` — stage and claim go together;
* `Turn.Keeps` — a step that is one ticket's doing and ends with a task that fits;
* `Task.keeps_ended`, `Task.keeps_engage`, `Task.keeps_admitted`, … — one lemma for each part of a
  step;
* `Task.keeps_step` — **every step of every task keeps the books**.
-/

namespace Memcache

/-! ## Stages and claims -/

/-- True of `borrow` and `execute`, for which a connection is acquired under the task's own
    ticket. -/
def Purpose.acquires : Purpose → Bool
  | .borrow | .execute _ => true
  | _ => false

/-- True of `warmUp`, which opens connections ahead of need. -/
def Purpose.isWarmUp : Purpose → Bool
  | .warmUp _ => true
  | _ => false

/-- True of probes and warm-ups, for which the pool lends nothing. -/
def Purpose.isClaimless : Purpose → Bool
  | .probe | .revive | .warmUp _ => true
  | _ => false

theorem Purpose.exists_warmUp {purpose : Purpose} (h : purpose.isWarmUp = true) :
    ∃ counted, purpose = .warmUp counted := by
  cases purpose with
  | warmUp counted => exact ⟨counted, rfl⟩
  | borrow | use _ _ | execute _ | probe | revive => contradiction

theorem Purpose.isClaimless_of_isWarmUp {purpose : Purpose} (h : purpose.isWarmUp = true) :
    purpose.isClaimless = true := by
  obtain ⟨counted, rfl⟩ := exists_warmUp h
  rfl

namespace Stage

/-- What the ticket of a task holds that acquires a connection, by its stage. -/
def Holds : Stage → Option Claim → Prop
  | .fresh, c? => c? = none
  | .queued _, c? => c? = some .waiting ∨ c? = some .granted
  | .dialling _, c? => c? = some .opening
  | .talking _ _, c? => ∃ c, c? = some (.lent ⟨c, false⟩)
  | .probing _ _ _, _ => False
  | .finished (.borrowed (.ok _)), c? => ∃ lease, c? = some (.lent lease)
  | .finished _, c? => c? = none

/-- What the ticket holds whose connection a task uses, by the task's stage. -/
def Borrows : Stage → Option Claim → Prop
  | .fresh, c? => ∃ lease, c? = some (.lent lease)
  | .talking _ _, c? => ∃ c, c? = some (.lent ⟨c, false⟩)
  | .finished _, _ => True
  | _, _ => False

/-- True of the stages of a task that has nothing of the pool: it is neither `queued` nor
    `talking`. -/
def Claimless : Stage → Prop
  | .queued _ | .talking _ _ => False
  | _ => True

end Stage

namespace Task

/-- **Stage and claim go together**, as `Holds`, `Borrows` or `Claimless` says for the purpose of
    the task. -/
def Fits (ticket : Ticket) (p : Pool) (t : Task) : Prop :=
  match t.purpose with
  | .borrow | .execute _ => t.stage.Holds (p.claims.lookup ticket)
  | .use holder _ => p.claims.lookup ticket = none ∧ t.stage.Borrows (p.claims.lookup holder)
  | .probe | .revive | .warmUp _ => p.claims.lookup ticket = none ∧ t.stage.Claimless

theorem fits_of_acquires {ticket : Ticket} {p : Pool} {t : Task} (h : t.purpose.acquires = true) :
    t.Fits ticket p ↔ t.stage.Holds (p.claims.lookup ticket) := by
  unfold Fits
  cases hpurpose : t.purpose with
  | borrow | execute _ => exact Iff.rfl
  | use _ _ | probe | revive | warmUp _ =>
      rw [hpurpose] at h
      contradiction

theorem fits_of_isClaimless {ticket : Ticket} {p : Pool} {t : Task} (h : t.purpose.isClaimless = true) :
    t.Fits ticket p ↔ p.claims.lookup ticket = none ∧ t.stage.Claimless := by
  unfold Fits
  cases hpurpose : t.purpose with
  | probe | revive | warmUp _ => exact Iff.rfl
  | borrow | execute _ | use _ _ =>
      rw [hpurpose] at h
      contradiction

/-- The three kinds of tasks: those that acquire, those that use another ticket's connection, and
    those that are claimless. -/
theorem Fits.cases {ticket : Ticket} {p : Pool} {t : Task} (h : t.Fits ticket p) :
    (t.purpose.acquires = true ∧ t.stage.Holds (p.claims.lookup ticket)) ∨
      (∃ other command, t.purpose = .use other command ∧ p.claims.lookup ticket = none ∧
        t.stage.Borrows (p.claims.lookup other)) ∨
      (t.purpose.isClaimless = true ∧ p.claims.lookup ticket = none ∧ t.stage.Claimless) := by
  unfold Fits at h
  cases hpurpose : t.purpose with
  | borrow | execute _ =>
      rw [hpurpose] at h
      exact .inl ⟨rfl, h⟩
  | use other command =>
      rw [hpurpose] at h
      exact .inr (.inl ⟨other, command, rfl, h.1, h.2⟩)
  | probe | revive | warmUp _ =>
      rw [hpurpose] at h
      exact .inr (.inr ⟨rfl, h.1, h.2⟩)

/-- A ticket without a claim fits any end of its task but that of a successful loan. -/
theorem fits_finish {ticket : Ticket} {p : Pool} {t : Task} {result : TaskResult}
    (hnone : p.claims.lookup ticket = none) (hresult : ∀ u, result ≠ .borrowed (.ok u)) :
    (t.finish result).Fits ticket p := by
  have hholds : (Stage.finished result).Holds (p.claims.lookup ticket) := by
    cases result with
    | borrowed r =>
        cases r with
        | ok u => exact absurd rfl (hresult u)
        | error _ => exact hnone
    | ran _ _ | executed _ _ | probed _ | warmed _ => exact hnone
  unfold Fits finish
  cases t.purpose with
  | borrow | execute _ => exact hholds
  | use _ _ | probe | revive | warmUp _ => exact ⟨hnone, trivial⟩

end Task

/-- A turn of a task `ticket`: the pool `Evolves` by the doings of `k`, and the task fits
    afterwards. -/
structure Turn.Keeps (ahead : Bool) (k ticket : Ticket) (p : Pool) (purpose : Purpose)
    (turn : Turn) : Prop where
  evolves : p.Evolves ahead k turn.node.pool
  fits : turn.task.Fits ticket turn.node.pool
  purpose : turn.task.purpose = purpose

/-- What was done before the turn counts as part of it. -/
theorem Turn.Keeps.after {ahead : Bool} {k ticket : Ticket} {p q : Pool} {purpose : Purpose}
    {turn : Turn} (h : turn.Keeps ahead k ticket q purpose) (hpq : p.Evolves ahead k q) :
    turn.Keeps ahead k ticket p purpose where
  evolves := hpq.trans h.evolves
  fits := h.fits
  purpose := h.purpose

/-- What is in `Turn.effects` makes no difference. -/
theorem Turn.Keeps.sending {ahead : Bool} {k ticket : Ticket} {p : Pool} {purpose : Purpose}
    {turn : Turn} (h : turn.Keeps ahead k ticket p purpose) (effects : List Effect) :
    Turn.Keeps ahead k ticket p purpose { turn with effects := effects } :=
  ⟨h.evolves, h.fits, h.purpose⟩

/-! ## Ends -/

/-- Accounting for an attempt by `Node.record` leaves the pool alone, or empties it. -/
theorem Node.record_pool (now : Time) (success : Bool) (n : Node) :
    (n.record now success).1.pool = n.pool ∨ (n.record now success).1.pool = n.pool.clearIdle := by
  unfold record markDead
  dsimp only
  split
  · split
    · exact .inr rfl
    · exact .inl rfl
  · exact .inl rfl

namespace Task

variable {ahead : Bool} {k ticket : Ticket} {now : Time} {n : Node} {t : Task}

theorem keeps_finish {result : TaskResult} (hnone : n.pool.claims.lookup ticket = none)
    (hresult : ∀ u, result ≠ .borrowed (.ok u)) :
    Turn.Keeps ahead k ticket n.pool t.purpose { node := n, task := t.finish result } :=
  ⟨.refl .., fits_finish hnone hresult, rfl⟩

theorem keeps_account {success : Bool} {result : TaskResult}
    (hnone : n.pool.claims.lookup ticket = none) (hresult : ∀ u, result ≠ .borrowed (.ok u)) :
    (t.account now n success result).Keeps ahead k ticket n.pool t.purpose := by
  unfold account
  -- a node that dies of its failures drops its idle connections, and no claims
  rcases n.record_pool now success with hpool | hpool
  · refine ⟨?_, ?_, rfl⟩
    · show n.pool.Evolves ahead k (n.record now success).1.pool
      rw [hpool]
      exact .refl ..
    · refine fits_finish ?_ hresult
      rw [hpool]
      exact hnone
  · refine ⟨?_, ?_, rfl⟩
    · show n.pool.Evolves ahead k (n.record now success).1.pool
      rw [hpool]
      exact Pool.evolves_clearIdle ..
    · refine fits_finish ?_ hresult
      rw [hpool]
      exact hnone

theorem keeps_denied {e : PoolError} (hnone : n.pool.claims.lookup ticket = none) :
    (t.denied now n e).Keeps ahead k ticket n.pool t.purpose := by
  unfold denied
  split
  · exact keeps_account hnone nofun
  · exact keeps_finish hnone nofun

/-- The end of a probe, `Task.probed`, leaves the pool alone. -/
theorem pool_of_probed {result : Except ConnectionError Unit} :
    (t.probed now n result).node.pool = n.pool := by
  unfold probed Node.markAlive Node.touch
  dsimp only
  split
  · split <;> rfl
  · rfl
  · rfl

theorem keeps_probed {result : Except ConnectionError Unit}
    (hnone : n.pool.claims.lookup ticket = none) :
    (t.probed now n result).Keeps ahead k ticket n.pool t.purpose := by
  refine ⟨pool_of_probed ▸ .refl .., ?_, rfl⟩
  rw [pool_of_probed]
  exact fits_finish hnone nofun

/-! ## Talking on a lent connection -/

/-- Only a command on a lent connection has a `Task.holder` that is not its own ticket. -/
theorem holder_of_ne_use (h : ∀ other command, t.purpose ≠ .use other command) :
    t.holder ticket = ticket := by
  unfold holder
  split
  · next other command hpurpose => exact absurd hpurpose (h other command)
  · rfl

theorem holder_of_acquires (h : t.purpose.acquires = true) : t.holder ticket = ticket := by
  apply holder_of_ne_use
  intro other command hpurpose
  rw [hpurpose] at h
  contradiction

theorem holder_of_isClaimless (h : t.purpose.isClaimless = true) : t.holder ticket = ticket := by
  apply holder_of_ne_use
  intro other command hpurpose
  rw [hpurpose] at h
  contradiction

theorem holder_of_use {other : Ticket} {command : Command} (h : t.purpose = .use other command) :
    t.holder ticket = other := by
  unfold holder
  rw [h]

/-- A task has the use of a lent connection: that of its own ticket, or that of another one while
    its own ticket has no claim. -/
structure OnLoan (ticket : Ticket) (p : Pool) (t : Task) (lease : Lease) : Prop where
  lent : p.claims.lookup (t.holder ticket) = some (.lent lease)
  own : t.purpose.acquires = true ∨
    (∃ holder command, t.purpose = .use holder command) ∧ p.claims.lookup ticket = none

/-- The loan goes on when `putLease` replaces the lease by one of the same connection. -/
theorem OnLoan.putLease {p : Pool} {lease : Lease} (h : t.OnLoan ticket p lease) (lease' : Lease)
    (hlink : lease'.connection.link = lease.connection.link)
    (hempty : lease'.sound = true → lease'.connection.buffer.contents = []) :
    p.Evolves ahead (t.holder ticket) (p.putLease (t.holder ticket) lease') ∧
      t.OnLoan ticket (p.putLease (t.holder ticket) lease') lease' := by
  obtain ⟨hevolves, hlent⟩ : p.Evolves ahead (t.holder ticket) _ ∧ _ :=
    Pool.evolves_putLease lease' h.lent hlink hempty
  refine ⟨hevolves, hlent, ?_⟩
  rcases h.own with hacquires | ⟨huse, hnone⟩
  · exact .inl hacquires
  · refine .inr ⟨huse, ?_⟩
    -- a command's own ticket holds nothing, so it is not the one that the lease is under
    have hne : ticket ≠ t.holder ticket := by
      intro heq
      rw [heq, h.lent] at hnone
      contradiction
    rcases hevolves.others ticket hne with hsame | ⟨hwaiting, -⟩
    · exact hsame.trans hnone
    · rw [hnone] at hwaiting
      contradiction

/-- The loan goes on when `Pool.settle` has ended a command. -/
theorem OnLoan.settle {p : Pool} {lease : Lease} {success : Bool} (h : t.OnLoan ticket p lease)
    (hempty : success = true → lease.connection.buffer.contents = []) :
    ∃ lease', p.Evolves ahead (t.holder ticket) (p.settle (t.holder ticket) success) ∧
      t.OnLoan ticket (p.settle (t.holder ticket) success) lease' := by
  unfold Pool.settle
  rw [Pool.lease?_eq_some_iff.mpr h.lent]
  cases success with
  | false => exact ⟨lease, .refl .., h⟩
  | true => exact ⟨_, h.putLease { lease with sound := true } rfl hempty⟩

/-- A command that has ended: its lease becomes `sound` only if it succeeded, and then nothing is
    left to be read. -/
theorem keeps_ended {lease : Lease} {reply : Reply} {result : Except ConnectionError Unit}
    (hsound : n.pool.Sound) (hloan : t.OnLoan ticket n.pool lease)
    (hempty : result = .ok () → lease.connection.buffer.contents = []) :
    (t.ended now ticket n reply result).Keeps ahead (t.holder ticket) ticket n.pool t.purpose := by
  have hsuccess : Verdict.succeeded result = true → lease.connection.buffer.contents = [] := by
    cases result with
    | ok u => exact fun _ => hempty rfl
    | error e => exact nofun
  obtain ⟨lease', hsettle, hloan'⟩ : ∃ lease', n.pool.Evolves ahead _ _ ∧ _ :=
    hloan.settle hsuccess
  unfold ended
  rcases hloan'.own with hacquires | ⟨⟨other, command, huse⟩, hnone⟩
  · -- the task's own connection is given back, and then the attempt is accounted for
    have hholder : t.holder ticket = ticket := holder_of_acquires hacquires
    rw [hholder] at hsettle hloan' ⊢
    have hlent := hholder ▸ hloan'.lent
    obtain ⟨hrelease, hnone⟩ : Pool.Evolves ahead ticket _ _ ∧ _ :=
      Pool.evolves_release (hsettle.sound hsound) hlent
    have hback := hsettle.trans hrelease
    dsimp only
    split
    · next hpurpose =>
        rw [hpurpose] at hacquires
        contradiction
    · split
      · exact Turn.Keeps.after (keeps_account hnone nofun) hback
      · exact Turn.Keeps.after (keeps_account hnone nofun) hback
  -- the connection stays with its holder
  · have hholder : t.holder ticket = other := holder_of_use huse
    rw [hholder] at hsettle hnone ⊢
    dsimp only
    split
    · next hpurpose =>
        obtain ⟨rfl, rfl⟩ : _ ∧ _ := by simpa using huse.symm.trans hpurpose
        exact ⟨hsettle, fits_finish hnone nofun, rfl⟩
    · next hpurpose => exact absurd huse (hpurpose _ _)

/-- A task that is `talking` on a connection whose lease is not `sound` fits. -/
theorem OnLoan.fits {p : Pool} {c : Connection} {x : Exchange} {deadline : Time}
    (h : t.OnLoan ticket p ⟨c, false⟩) :
    Fits ticket p { t with stage := .talking x deadline } := by
  rcases h.own with hacquires | ⟨⟨other, command, huse⟩, hnone⟩
  · refine (fits_of_acquires (t := { t with stage := .talking x deadline }) hacquires).mpr ?_
    refine ⟨c, ?_⟩
    rw [← h.lent, holder_of_acquires hacquires]
  · unfold Fits
    rw [huse]
    refine ⟨hnone, c, ?_⟩
    rw [← h.lent, holder_of_use huse]

/-- A task that fits while it is `talking` has such a connection on loan. -/
theorem Fits.onLoan {p : Pool} {x : Exchange} {deadline : Time} (h : t.Fits ticket p)
    (hstage : t.stage = .talking x deadline) : ∃ c, t.OnLoan ticket p ⟨c, false⟩ := by
  rcases h.cases with ⟨hacquires, hholds⟩ | ⟨other, command, huse, hnone, hborrows⟩ | ⟨-, -, hclaimless⟩
  · rw [hstage] at hholds
    obtain ⟨c, hc⟩ := hholds
    exact ⟨c, (holder_of_acquires hacquires).symm ▸ hc, .inl hacquires⟩
  · rw [hstage] at hborrows
    obtain ⟨c, hc⟩ := hborrows
    exact ⟨c, (holder_of_use huse).symm ▸ hc, .inr ⟨⟨other, command, huse⟩, hnone⟩⟩
  · rw [hstage] at hclaimless
    exact absurd hclaimless id

/-- A command that has taken in what there was, by `Task.heard`. While it waits for more its lease
    is not `sound`. -/
theorem keeps_heard {c : Connection} {x : Exchange} {v : Verdict} (hsound : n.pool.Sound)
    (hloan : t.OnLoan ticket n.pool ⟨c, false⟩)
    (hempty : v = .ended (.ok ()) → c.buffer.contents = []) :
    (t.heard now ticket n x v).Keeps ahead (t.holder ticket) ticket n.pool t.purpose := by
  unfold heard
  cases v with
  | ended result =>
      refine keeps_ended hsound hloan fun hok => hempty ?_
      rw [hok]
  | waiting => exact ⟨.refl .., hloan.fits, rfl⟩

/-- A command that begins, by `Task.engage`, makes its lease one that is not `sound`. -/
theorem keeps_engage {lease : Lease} {command : Command} (hsound : n.pool.Sound)
    (hloan : t.OnLoan ticket n.pool lease) :
    (t.engage now ticket (t.holder ticket) n command).Keeps ahead (t.holder ticket) ticket n.pool
      t.purpose := by
  unfold engage
  rw [Pool.lease?_eq_some_iff.mpr hloan.lent]
  obtain ⟨hput, hloan'⟩ : n.pool.Evolves ahead _ _ ∧ _ :=
    hloan.putLease ⟨(lease.connection.begin command).1, false⟩ rfl nofun
  -- the lease is marked before anything can go wrong, so what is left unread does no harm
  refine Turn.Keeps.sending (Turn.Keeps.after ?_ hput) _
  apply keeps_heard (n := { n with pool := _ }) (hput.sound hsound) hloan'
  exact Exchange.contents_of_digest_ok rfl

/-- A task that is `talking` goes on, or ends. -/
theorem keeps_listen {c : Connection} {x : Exchange} {deadline : Time} {arrival? : Option Arrival}
    {turn : Turn} (hsound : n.pool.Sound) (hloan : t.OnLoan ticket n.pool ⟨c, false⟩)
    (hlistened : t.Listened now ticket arrival? n x deadline turn) :
    turn.Keeps ahead (t.holder ticket) ticket n.pool t.purpose := by
  cases hlistened with
  | interrupted _ _ => exact keeps_ended hsound hloan nofun
  | @heard bs lease _ hlease =>
      obtain rfl : lease = ⟨c, false⟩ :=
        Option.some.inj (hlease.symm.trans (Pool.lease?_eq_some_iff.mpr hloan.lent))
      obtain ⟨hput, hloan'⟩ : n.pool.Evolves ahead _ _ ∧ _ :=
        hloan.putLease ⟨(x.receive c bs).2.1, false⟩ rfl nofun
      refine Turn.Keeps.after ?_ hput
      apply keeps_heard (n := { n with pool := _ }) (hput.sound hsound) hloan'
      exact Exchange.contents_of_digest_ok rfl

/-! ## Acquiring a connection -/

/-- A task that has got its connection keeps it, or runs its command on it, by `Task.equipped`. -/
theorem keeps_equipped {lease : Lease} (hsound : n.pool.Sound)
    (hacquires : t.purpose.acquires = true)
    (hlent : n.pool.claims.lookup ticket = some (.lent lease)) :
    (t.equipped now ticket n).Keeps ahead ticket ticket n.pool t.purpose := by
  have hholder : t.holder ticket = ticket := holder_of_acquires hacquires
  have hloan : t.OnLoan ticket n.pool lease := ⟨hholder.symm ▸ hlent, .inl hacquires⟩
  unfold equipped
  split
  · next command hpurpose =>
      have hengage : (t.engage now ticket (t.holder ticket) n command).Keeps ahead _ ticket _ _ :=
        keeps_engage hsound hloan
      rwa [hholder] at hengage
  · refine ⟨.refl .., ?_, rfl⟩
    refine (fits_of_acquires (t := t.finish (.borrowed (.ok ()))) hacquires).mpr ?_
    exact ⟨lease, hlent⟩

theorem keeps_dial {p : Pool} (hpool : p = n.pool)
    (hfits : Fits ticket p { t with stage := .dialling (now + n.pool.settings.connectTimeout) }) :
    (t.dial now n).Keeps ahead k ticket p t.purpose := by
  subst hpool
  exact ⟨.refl .., hfits, rfl⟩

/-- A task goes on with the answer of the pool, by `Task.admitted`. -/
theorem keeps_admitted {a : Admission} (hsound : n.pool.Sound)
    (hacquires : t.purpose.acquires = true) (hleaves : a.Leaves (n.pool.claims.lookup ticket)) :
    (t.admitted now ticket n a).Keeps ahead ticket ticket n.pool t.purpose := by
  cases a with
  | queued =>
      refine ⟨.refl .., ?_, rfl⟩
      exact (fits_of_acquires (t := { t with stage := .queued _ }) hacquires).mpr (.inl hleaves)
  | lent =>
      obtain ⟨lease, hlent, -⟩ := hleaves
      exact keeps_equipped hsound hacquires hlent
  | opening =>
      apply keeps_dial rfl
      exact (fits_of_acquires (t := { t with stage := .dialling _ }) hacquires).mpr hleaves
  | refused => exact keeps_denied hleaves

theorem keeps_acquire (hsound : n.pool.Sound) (hacquires : t.purpose.acquires = true)
    (hnone : n.pool.claims.lookup ticket = none) :
    (t.acquire now ticket n).Keeps ahead ticket ticket n.pool t.purpose := by
  obtain ⟨henter, hleaves⟩ : n.pool.Evolves ahead ticket _ ∧ _ := Pool.evolves_enter hsound hnone
  exact Turn.Keeps.after
    (keeps_admitted (n := { n with pool := _ }) (henter.sound hsound) hacquires hleaves) henter

/-! ## Connections of the network -/

/-- A probe has taken in what there was, by `Task.sounded`. -/
theorem keeps_sounded {c : Connection} {x : Exchange} {v : Verdict}
    (hnone : n.pool.claims.lookup ticket = none) (hclaimless : t.purpose.isClaimless = true) :
    (t.sounded now n c x v).Keeps ahead k ticket n.pool t.purpose := by
  unfold sounded
  cases v with
  | ended result => exact keeps_probed hnone
  | waiting =>
      refine ⟨.refl .., ?_, rfl⟩
      exact (fits_of_isClaimless (t := { t with stage := .probing c x _ }) hclaimless).mpr ⟨hnone, trivial⟩

/-- A warm-up opens another connection, or ends, by `Task.stockUp`; the pool it leaves alone. -/
theorem keeps_stockUp (hnone : n.pool.claims.lookup ticket = none)
    (hclaimless : t.purpose.isClaimless = true) :
    (t.stockUp now n).Keeps ahead k ticket n.pool t.purpose := by
  unfold stockUp
  split
  · apply keeps_dial rfl
    exact (fits_of_isClaimless (t := { t with stage := .dialling _ }) hclaimless).mpr ⟨hnone, trivial⟩
  · exact keeps_finish hnone nofun

/-- A new connection goes to the ticket that it was opened for, or to the pool, or to neither. -/
theorem keeps_connected {link : Nat} {deadline : Time} (hsound : n.pool.Sound)
    (hfits : t.Fits ticket n.pool) (hstage : t.stage = .dialling deadline)
    (hfresh : n.pool.uses link = 0) :
    (t.connected now ticket n link).Keeps t.purpose.isWarmUp ticket ticket n.pool t.purpose := by
  -- a connection that was opened for the ticket itself
  have hown : t.purpose.acquires = true → n.pool.claims.lookup ticket = some .opening →
      (t.equipped now ticket { n with pool := n.pool.opened ticket link }).Keeps
        t.purpose.isWarmUp ticket ticket n.pool t.purpose := by
    intro hacquires hopening
    obtain ⟨hopened, hlent⟩ : n.pool.Evolves _ ticket (n.pool.opened ticket link) ∧ _ :=
      Pool.evolves_opened hopening hfresh
    exact Turn.Keeps.after (keeps_equipped (n := { n with pool := n.pool.opened ticket link })
      (hopened.sound hsound) hacquires hlent) hopened
  obtain ⟨purpose, stage, opened⟩ := t
  subst hstage
  cases purpose with
  | borrow => exact hown rfl hfits
  | execute _ => exact hown rfl hfits
  | probe => exact Turn.Keeps.sending (keeps_sounded (t := ⟨.probe, _, _⟩) hfits.1 rfl) _
  | revive => exact Turn.Keeps.sending (keeps_sounded (t := ⟨.revive, _, _⟩) hfits.1 rfl) _
  | warmUp counted =>
      have hstock : n.pool.Evolves true ticket (n.pool.stock { link := link }) :=
        Pool.evolves_stock hfresh
      have hnone : (n.pool.stock { link := link }).claims.lookup ticket = none := by
        rw [Pool.claims_stock]
        exact hfits.1
      exact Turn.Keeps.after (keeps_stockUp (n := { n with pool := _ })
        (t := ⟨.warmUp counted, _, opened + 1⟩) hnone rfl) hstock
  -- a command on a lent connection never dials
  | use other command => exact absurd hfits.2 id

/-- A connection could not be opened: whoever asked for it has its permit taken back. -/
theorem keeps_unreachable {e : ConnectionError} {deadline : Time} (hsound : n.pool.Sound)
    (hfits : t.Fits ticket n.pool) (hstage : t.stage = .dialling deadline) :
    (t.unreachable now ticket n e).Keeps ahead ticket ticket n.pool t.purpose := by
  obtain ⟨hwithdraw, hnone⟩ : n.pool.Evolves ahead ticket (n.pool.withdraw ticket) ∧ _ :=
    Pool.evolves_withdraw hsound
  have hdenied : (t.denied now { n with pool := n.pool.withdraw ticket } (.connect e)).Keeps ahead
      ticket ticket n.pool t.purpose :=
    Turn.Keeps.after (keeps_denied (n := { n with pool := n.pool.withdraw ticket }) hnone) hwithdraw
  obtain ⟨purpose, stage, opened⟩ := t
  subst hstage
  unfold unreachable
  cases purpose with
  | borrow => exact hdenied
  | execute _ => exact hdenied
  | probe => exact keeps_probed hfits.1
  | revive => exact keeps_probed hfits.1
  | warmUp counted =>
      cases counted with
      | true => exact keeps_account hfits.1 nofun
      | false => exact keeps_finish (t := ⟨.warmUp false, _, _⟩) hfits.1 nofun
  | use other command => exact absurd hfits.2 id

/-! ## Steps -/

/-- A task begins, by `Task.start`. -/
theorem keeps_start (hsound : n.pool.Sound) (hfits : t.Fits ticket n.pool)
    (hstage : t.stage = .fresh) :
    (t.start now ticket n).Keeps ahead (t.holder ticket) ticket n.pool t.purpose := by
  obtain ⟨purpose, stage, opened⟩ := t
  subst hstage
  cases purpose with
  | borrow => exact keeps_acquire (t := ⟨.borrow, _, _⟩) hsound rfl hfits
  | execute command =>
      unfold start
      dsimp only
      split
      · exact keeps_acquire (t := ⟨.execute command, _, _⟩) hsound rfl hfits
      · exact keeps_finish (t := ⟨.execute command, _, _⟩) hfits nofun
  | use other command =>
      obtain ⟨hnone, lease, hlent⟩ := hfits
      exact keeps_engage (t := ⟨.use other command, _, _⟩) hsound
        ⟨hlent, .inr ⟨⟨other, command, rfl⟩, hnone⟩⟩
  | probe => exact keeps_dial (t := ⟨.probe, _, _⟩) rfl ⟨hfits.1, trivial⟩
  | revive => exact keeps_dial (t := ⟨.revive, _, _⟩) rfl ⟨hfits.1, trivial⟩
  | warmUp counted => exact keeps_stockUp (t := ⟨.warmUp counted, _, _⟩) hfits.1 rfl

/-- A task that has waited for its permit goes on with the answer of `Pool.resume`. -/
theorem keeps_resumed {pool : Pool} {a : Admission} (hsound : n.pool.Sound)
    (hacquires : t.purpose.acquires = true) (hresume : n.pool.resume ticket = some (pool, a)) :
    (t.admitted now ticket { n with pool := pool } a).Keeps ahead ticket ticket n.pool
      t.purpose := by
  obtain ⟨hevolves, hleaves⟩ : n.pool.Evolves ahead ticket pool ∧ _ :=
    Pool.evolves_resume hsound hresume
  exact Turn.Keeps.after (keeps_admitted (n := { n with pool := pool })
    (hevolves.sound hsound) hacquires hleaves) hevolves

/-- A task that has waited for too long leaves the queue by `Pool.withdraw`. -/
theorem keeps_overdue {e : PoolError} (hsound : n.pool.Sound) :
    (t.denied now { n with pool := n.pool.withdraw ticket } e).Keeps ahead ticket ticket n.pool
      t.purpose := by
  obtain ⟨hwithdraw, hnone⟩ : n.pool.Evolves ahead ticket (n.pool.withdraw ticket) ∧ _ :=
    Pool.evolves_withdraw hsound
  exact Turn.Keeps.after
    (keeps_denied (n := { n with pool := n.pool.withdraw ticket }) hnone) hwithdraw

/-- Who is `queued` for a permit of the pool `acquires` a connection. -/
theorem Fits.acquires_of_queued {deadline : Time} (hfits : t.Fits ticket n.pool)
    (hstage : t.stage = .queued deadline) : t.purpose.acquires = true := by
  rcases hfits.cases with ⟨hacquires, -⟩ | ⟨_, _, -, -, hborrows⟩ | ⟨-, -, hclaimless⟩
  · exact hacquires
  · rw [hstage] at hborrows
    exact absurd hborrows id
  · rw [hstage] at hclaimless
    exact absurd hclaimless id

/-- Who is `dialling` does it for its own ticket. -/
theorem Fits.holder_of_dialling {deadline : Time} (hfits : t.Fits ticket n.pool)
    (hstage : t.stage = .dialling deadline) : t.holder ticket = ticket := by
  rcases hfits.cases with ⟨hacquires, -⟩ | ⟨_, _, -, -, hborrows⟩ | ⟨hclaimless, -, -⟩
  · exact holder_of_acquires hacquires
  · rw [hstage] at hborrows
    exact absurd hborrows id
  · exact holder_of_isClaimless hclaimless

/-- Who is `probing` on a connection of its own holds none of the pool's. -/
theorem Fits.claimless_of_probing {c : Connection} {x : Exchange} {deadline : Time}
    (hfits : t.Fits ticket n.pool) (hstage : t.stage = .probing c x deadline) :
    t.purpose.isClaimless = true ∧ n.pool.claims.lookup ticket = none := by
  rcases hfits.cases with ⟨-, hholds⟩ | ⟨_, _, -, -, hborrows⟩ | ⟨hclaimless, hnone, -⟩
  · rw [hstage] at hholds
    exact absurd hholds id
  · rw [hstage] at hborrows
    exact absurd hborrows id
  · exact ⟨hclaimless, hnone⟩

/-- **Every `Task.step` keeps the books**, if a connection that arrives is not one that the pool has
    already. -/
theorem keeps_step {turn : Turn} {arrival? : Option Arrival} (hsound : n.pool.Sound)
    (hfits : t.Fits ticket n.pool)
    (hfresh : ∀ link, arrival? = some (.connected link) → n.pool.uses link = 0)
    (hturn : t.step now ticket arrival? n = some turn) :
    turn.Keeps t.purpose.isWarmUp (t.holder ticket) ticket n.pool t.purpose := by
  cases step_eq_some_iff.mp hturn with
  | begun hstage => exact keeps_start hsound hfits hstage
  | resumed hstage hresume =>
      have hacquires := hfits.acquires_of_queued hstage
      rw [holder_of_acquires hacquires]
      exact keeps_resumed hsound hacquires hresume
  | overdue hstage _ _ =>
      rw [holder_of_acquires (hfits.acquires_of_queued hstage)]
      exact keeps_overdue hsound
  | connected hstage harrival =>
      rw [hfits.holder_of_dialling hstage]
      exact keeps_connected hsound hfits hstage (hfresh _ harrival)
  | refused hstage _ | unconnected hstage _ _ _ =>
      rw [hfits.holder_of_dialling hstage]
      exact keeps_unreachable hsound hfits hstage
  | listened hstage hlistened =>
      obtain ⟨c, hloan⟩ := hfits.onLoan hstage
      exact keeps_listen hsound hloan hlistened
  | sounded hstage _ =>
      obtain ⟨hclaimless, hnone⟩ := hfits.claimless_of_probing hstage
      exact keeps_sounded hnone hclaimless
  | broken hstage _ _ =>
      exact keeps_probed (hfits.claimless_of_probing hstage).2

end Task

end Memcache
