import Memcache.Proofs.Node.Stepping
import Memcache.Proofs.Pool.Ledger

/-!
# `Memcache.Proofs.Pool.Moves` — every function of a pool keeps its books

The functions of a pool are made of a few moves: a permit is granted (`Pool.grant`), a ticket with a
permit goes on (`Pool.proceed`), a connection comes back (`Pool.stock`), a permit is relinquished.
Each changes one page of the books. Two of the functions do two moves at once, and callers on other
threads may come between them: `Pool.enter` takes a permit before it looks for a connection, and
`Pool.release` keeps the permit until the connection is idle.

## Contents

* `Pool.grant`, `Pool.restock`, `Pool.relinquish` — the moves that no function does alone;
* `Pool.enter_eq`, `Pool.release_eq`, `Pool.surrender_cases` — the functions made of them;
* `Pool.evolves_enter`, `Pool.evolves_resume`, `Pool.evolves_withdraw`, … — **what each function
  leaves its ticket with, and that the books stay in order**.
-/

namespace Memcache

/-- What the answer of a pool says about the claim of who asked. -/
def Admission.Leaves : Admission → Option Claim → Prop
  | .queued, c? => c? = some .waiting
  | .lent, c? => ∃ lease, c? = some (.lent lease) ∧ lease.connection.buffer.contents = []
  | .opening, c? => c? = some .opening
  | .refused, c? => c? = none

namespace Pool

variable {p p' : Pool} {k t u : Ticket} {ahead : Bool}

/-! ## Pages that change -/

theorem Shift.of_claims_eq (hsettings : p'.settings = p.settings) (hclaims : p'.claims = p.claims) :
    p.Shift k p' where
  settings := hsettings
  keys h := hclaims ▸ h
  others := by rw [hclaims]

theorem Shift.of_insert {c : Claim} (hsettings : p'.settings = p.settings)
    (hclaims : p'.claims = p.claims.insert k c) : p.Shift k p' where
  settings := hsettings
  keys h := by
    rw [hclaims]
    exact Table.nodup_keys_insert h
  others := by rw [hclaims, Table.erase_insert]

theorem Shift.of_modify {f : Claim → Claim} (hsettings : p'.settings = p.settings)
    (hclaims : p'.claims = p.claims.modify k f) : p.Shift k p' where
  settings := hsettings
  keys h := by
    rw [hclaims, Table.keys_modify]
    exact h
  others := by rw [hclaims, Table.erase_modify]

theorem Shift.of_erase (hsettings : p'.settings = p.settings)
    (hclaims : p'.claims = p.claims.erase k) : p.Shift k p' where
  settings := hsettings
  keys h := by
    rw [hclaims]
    exact Table.nodup_keys_erase h
  others := by rw [hclaims, Table.erase_erase]

/-! ## Permits -/

/-- Gives a free permit to a ticket, whose claim becomes `granted`. -/
def grant (p : Pool) (t : Ticket) : Pool :=
  { p with permits := p.permits - 1, claims := p.claims.insert t .granted }

theorem lookup_grant : (p.grant t).claims.lookup t = some .granted := by
  simp [grant, Table.lookup_insert]

/-- Granting a permit `Evolves` by the ticket that gets it, and by anybody if the ticket is
    `waiting`. -/
theorem evolves_grant (hpermits : 0 < p.permits)
    (ht : p.claims.lookup t = none ∧ t = k ∨ p.claims.lookup t = some .waiting) :
    p.Evolves ahead k (p.grant t) := by
  have hs : p.Shift t (p.grant t) := .of_insert rfl rfl
  have hbare : Claim.Bare ((p.grant t).claims.lookup t) := by
    rw [lookup_grant]
    trivial
  have hnone : Claim.permits (p.claims.lookup t) = 0 := by
    rcases ht with ⟨ht, -⟩ | ht
    · rw [ht]
      rfl
    · rw [ht]
      rfl
  refine ⟨rfl, ?_, ?_, ?_⟩
  -- a ticket that gets a permit by the doings of another one has been waiting for it
  · intro u hu
    by_cases hut : u = t
    · subst hut
      rcases ht with ⟨-, hk⟩ | ht
      · exact absurd hk hu
      · exact .inr ⟨ht, lookup_grant⟩
    · exact .inl (hs.lookup hut)
  · intro h
    apply h.shift_bare hs rfl hbare
    rw [lookup_grant, hnone]
    show p.permits - 1 + 1 = p.permits + 0
    omega
  · intro _ hsound h
    exact h.shift_bare hsound.keys hs rfl hbare

/-- Takes back the permit of a ticket, with whatever else it holds; unlike `surrender` it hands it
    to nobody. -/
def relinquish (p : Pool) (t : Ticket) : Pool :=
  { p with permits := p.permits + 1, claims := p.claims.erase t }

theorem lookup_relinquish : (p.relinquish t).claims.lookup t = none := by
  simp [relinquish, Table.lookup_erase]

theorem evolves_relinquish (ht : Claim.permits (p.claims.lookup t) = 1) :
    p.Evolves ahead t (p.relinquish t) := by
  have hs : p.Shift t (p.relinquish t) := .of_erase rfl rfl
  refine hs.evolves_bare ahead rfl ?_ ?_
  · rw [lookup_relinquish]
    trivial
  · rw [lookup_relinquish, ht]
    rfl

/-- A permit is handed over by `handOver` to a ticket that is `waiting` for it. -/
theorem handOver_eq_some {claims claims' : Table Ticket Claim} (h : handOver claims = some claims')
    (hkeys : claims.keys.Nodup) :
    ∃ u, claims.lookup u = some .waiting ∧ claims' = claims.insert u .granted := by
  induction claims generalizing claims' with
  | nil => contradiction
  | cons e rest ih =>
      obtain ⟨k, c⟩ := e
      obtain ⟨hk, hrest⟩ : k ∉ Table.keys rest ∧ (Table.keys rest).Nodup := by
        simpa [Table.keys] using hkeys
      -- the first ticket that waits is the one, and those before it are passed over
      by_cases hc : c = .waiting
      · subst hc
        refine ⟨k, if_pos rfl, ?_⟩
        rw [handOver] at h
        rw [← Option.some.inj h, Table.insert, if_pos rfl]
      · obtain ⟨rest', hrest', rfl⟩ : ∃ rest', handOver rest = some rest' ∧
            (k, c) :: rest' = claims' := by
          cases c with
          | waiting => exact absurd rfl hc
          | granted | opening | lent _ => simpa [handOver, Option.map_eq_some_iff] using h
        obtain ⟨u, hu, rfl⟩ := ih hrest' hrest
        have hne : k ≠ u := by
          intro heq
          rw [Table.lookup_of_not_mem_keys (heq ▸ hk)] at hu
          contradiction
        refine ⟨u, ?_, ?_⟩
        · rw [Table.lookup, if_neg hne]
          exact hu
        · rw [Table.insert, if_neg hne]

/-- By `surrender` a permit that is given back becomes free, and perhaps goes at once to a ticket
    that waits. -/
theorem surrender_cases (hkeys : p.claims.keys.Nodup) :
    p.surrender t = p.relinquish t ∨
      ∃ u, (p.relinquish t).claims.lookup u = some .waiting ∧
        p.surrender t = (p.relinquish t).grant u := by
  have hkeys' : (p.claims.erase t).keys.Nodup := Table.nodup_keys_erase hkeys
  unfold surrender freePermit
  -- a closed pool keeps the permit for itself
  by_cases hclosed : p.closed = true
  · rw [if_pos hclosed]
    exact .inl rfl
  · rw [if_neg hclosed]
    dsimp only
    cases hover : handOver (p.claims.erase t) with
    | none => exact .inl rfl
    | some claims =>
        obtain ⟨u, hu, rfl⟩ := handOver_eq_some hover hkeys'
        exact .inr ⟨u, hu, rfl⟩

/-- A claim that holds a permit is given up by `surrender`. -/
theorem evolves_surrender (h : p.Sound) (ht : Claim.permits (p.claims.lookup t) = 1) :
    p.Evolves ahead t (p.surrender t) ∧ (p.surrender t).claims.lookup t = none := by
  have hrelinquish : p.Evolves ahead t (p.relinquish t) := evolves_relinquish ht
  rcases surrender_cases (t := t) h.keys with heq | ⟨u, hu, heq⟩
  · rw [heq]
    exact ⟨hrelinquish, lookup_relinquish⟩
  · rw [heq]
    refine ⟨hrelinquish.trans (evolves_grant (Nat.succ_pos _) (.inr hu)), ?_⟩
    have hne : t ≠ u := by
      rintro rfl
      rw [lookup_relinquish] at hu
      contradiction
    rw [grant, Table.lookup_insert, if_neg hne]
    exact lookup_relinquish

/-- A place in the queue is given up. -/
theorem evolves_erase (ht : p.claims.lookup t = some .waiting) :
    p.Evolves ahead t { p with claims := p.claims.erase t } := by
  have hs : p.Shift t { p with claims := p.claims.erase t } := .of_erase rfl rfl
  have hnone : (p.claims.erase t).lookup t = none := by simp [Table.lookup_erase]
  refine hs.evolves_bare ahead rfl ?_ ?_
  · rw [hnone]
    trivial
  · rw [hnone, ht]
    rfl

/-! ## The way to a connection -/

theorem connecting_lt_pledged (hkeys : p.claims.keys.Nodup)
    (ht : p.claims.lookup t = some .granted) : p.connecting < p.pledged := by
  have hrest : (p.claims.erase t).tally Claim.isOpening ≤
      (p.claims.erase t).tally Claim.isPledge := by
    apply List.countP_mono_left
    intro e _ he
    cases hc : e.2 with
    | opening => rfl
    | waiting | granted | lent _ => simp [hc, Claim.isOpening] at he
  unfold connecting pledged
  rw [Table.tally_split _ t hkeys, Table.tally_split _ t hkeys, ht]
  show 0 + _ < 1 + _
  omega

/-- A connection is opened for a ticket with a permit when none is `idle`. The pool stays `Capped`,
    since that permit is one that no connection is there for. -/
theorem evolves_openNew (h : p.Sound) (ht : p.claims.lookup t = some .granted)
    (hidle : p.idle = []) :
    p.Evolves ahead t { p with idle := [], claims := p.claims.insert t .opening } := by
  let p' : Pool := { p with idle := [], claims := p.claims.insert t .opening }
  have hs : p.Shift t p' := .of_insert rfl rfl
  have hopening : p'.claims.lookup t = some .opening := by
    simp [p', Table.lookup_insert]
  refine hs.evolves ahead ?_ ?_
  · intro h
    refine h.shift hs ?_ (fun link => .inl ?_) (Nat.zero_le _) ?_ ?_
    · rw [hopening, ht]
      rfl
    · rw [hopening, ht, hidle]
      exact Nat.le_refl _
    · intro c hc
      contradiction
    · intro lease hlease _
      rw [hopening] at hlease
      cases hlease
  · intro _ _ _
    have hlent := hs.tally h.keys Claim.isLent
    have hconnecting := hs.tally h.keys Claim.isOpening
    have hspare := connecting_lt_pledged h.keys ht
    have hpermits := h.permits
    rw [hopening, ht] at hlent hconnecting
    simp only [Option.any_some, Claim.isLent, Claim.isOpening, Bool.toNat_false,
      Bool.toNat_true] at hlent hconnecting
    show 0 + p'.lent + p'.connecting ≤ size p.settings
    unfold Pool.lent Pool.pledged Pool.connecting at *
    omega

/-- An idle connection is lent to a ticket with a permit, and is idle no longer. -/
theorem evolves_lend {c : Connection} {rest : List Connection} (h : p.Sound)
    (ht : p.claims.lookup t = some .granted) (hidle : p.idle = c :: rest) :
    p.Evolves ahead t
      { p with idle := rest, claims := p.claims.insert t (.lent { connection := c }) } := by
  let p' : Pool := { p with idle := rest, claims := p.claims.insert t (.lent { connection := c }) }
  have hs : p.Shift t p' := .of_insert rfl rfl
  have hlent : p'.claims.lookup t = some (.lent { connection := c }) := by
    simp [p', Table.lookup_insert]
  refine hs.evolves ahead ?_ ?_
  · intro _
    refine h.shift hs ?_ (fun link => .inl ?_) ?_ ?_ ?_
    · rw [hlent, ht]
      rfl
    · rw [hlent, ht, hidle, List.countP_cons]
      simp only [Option.any_some, Claim.lends, p']
      cases c.link == link <;> simp
    · have hroom := h.room
      rw [hidle, List.length_cons] at hroom
      exact Nat.le_of_succ_le hroom
    · intro c' hc'
      exact h.idle c' (hidle ▸ List.mem_cons_of_mem c hc')
    · intro lease hlease _
      rw [hlent] at hlease
      cases hlease
      exact h.idle c (hidle ▸ List.mem_cons_self)
  · intro _ hsound h
    apply h.shift hsound.keys hs
    rw [hlent, ht, hidle, List.length_cons]
    simp [Claim.isLent, Claim.isOpening, p']

/-- A ticket with a permit goes on by `proceed`: **a connection is opened only when none is
    idle**. -/
theorem evolves_proceed (h : p.Sound) (ht : p.claims.lookup t = some .granted) :
    p.Evolves ahead t (p.proceed t).1 ∧
      Admission.Leaves (p.proceed t).2 ((p.proceed t).1.claims.lookup t) := by
  have hinsert : ∀ claim, (p.claims.insert t claim).lookup t = some claim := by
    intro claim
    rw [Table.lookup_insert, if_pos rfl]
  unfold proceed
  cases hidle : p.idle with
  | nil => exact ⟨evolves_openNew h ht hidle, hinsert .opening⟩
  | cons c rest =>
      refine ⟨evolves_lend h ht hidle, { connection := c }, hinsert _, ?_⟩
      exact h.idle c (hidle ▸ List.mem_cons_self)

/-- A ticket without a claim joins the queue. -/
theorem evolves_wait (ht : p.claims.lookup t = none) :
    p.Evolves ahead t { p with claims := p.claims.insert t .waiting } := by
  have hs : p.Shift t { p with claims := p.claims.insert t .waiting } := .of_insert rfl rfl
  have hwaiting : (p.claims.insert t .waiting).lookup t = some .waiting := by
    simp [Table.lookup_insert]
  refine hs.evolves_bare ahead rfl ?_ ?_
  · rw [hwaiting]
    trivial
  · rw [hwaiting, ht]
    rfl

/-- Who finds a free permit in `enter` takes it by `grant`, and then goes on with it by
    `proceed`. -/
theorem enter_eq (hopen : p.closed = false) (hpermits : p.permits ≠ 0) :
    p.enter t = (p.grant t).proceed t := by
  unfold enter proceed grant
  rw [if_neg (by rw [hopen]; exact Bool.false_ne_true), if_neg hpermits]
  cases p.idle with
  | nil => simp
  | cons c rest => simp

/-- A connection is asked for by `enter`; the answer says which claim it `Leaves`. -/
theorem evolves_enter (h : p.Sound) (ht : p.claims.lookup t = none) :
    p.Evolves ahead t (p.enter t).1 ∧
      Admission.Leaves (p.enter t).2 ((p.enter t).1.claims.lookup t) := by
  by_cases hclosed : p.closed = true
  · rw [enter, if_pos hclosed]
    exact ⟨.refl .., ht⟩
  · by_cases hpermits : p.permits = 0
    · rw [enter, if_neg hclosed, if_pos hpermits]
      refine ⟨evolves_wait ht, ?_⟩
      show (p.claims.insert t .waiting).lookup t = some .waiting
      simp [Table.lookup_insert]
    · rw [enter_eq (Bool.eq_false_iff.mpr hclosed) hpermits]
      have hgrant : p.Evolves ahead t (p.grant t) :=
        evolves_grant (Nat.pos_of_ne_zero hpermits) (.inl ⟨ht, rfl⟩)
      obtain ⟨hproceed, hleaves⟩ := evolves_proceed (hgrant.sound h) lookup_grant
      exact ⟨hgrant.trans hproceed, hleaves⟩

/-- After a wait `resume` goes on; the answer says which claim it `Leaves`. -/
theorem evolves_resume {answer : Pool × Admission} (h : p.Sound)
    (hanswer : p.resume t = some answer) :
    p.Evolves ahead t answer.1 ∧ answer.2.Leaves (answer.1.claims.lookup t) := by
  cases resume_eq_some_iff.mp hanswer with
  | granted ht _ => exact evolves_proceed h ht
  | refused ht _ =>
      obtain ⟨hsurrender, hnone⟩ : p.Evolves ahead t (p.surrender t) ∧ _ :=
        evolves_surrender h (by rw [ht]; rfl)
      exact ⟨hsurrender, hnone⟩
  | dismissed ht _ =>
      refine ⟨evolves_erase ht, ?_⟩
      show (p.claims.erase t).lookup t = none
      simp [Table.lookup_erase]

/-- The connection that was `opening` is there, and is in no other place. -/
theorem evolves_opened {link : Nat} (ht : p.claims.lookup t = some .opening)
    (hfresh : p.uses link = 0) :
    p.Evolves ahead t (p.opened t link) ∧
      (p.opened t link).claims.lookup t = some (.lent { connection := { link := link } }) := by
  have hs : p.Shift t (p.opened t link) :=
    .of_modify (f := fun _ => .lent { connection := { link := link } }) rfl rfl
  have hlent : (p.opened t link).claims.lookup t =
      some (.lent { connection := { link := link } }) := by
    simp [opened, Table.lookup_modify, ht]
  refine ⟨hs.evolves ahead ?_ ?_, hlent⟩
  · intro h
    refine h.shift hs ?_ ?_ h.room h.idle ?_
    · rw [hlent, ht]
      rfl
    · intro other
      rw [hlent, ht]
      by_cases hother : link = other
      · subst hother
        -- the connection was in no place, so the ticket's page is all that uses it
        have hidle : p.idle.countP (·.link == link) = 0 := Nat.eq_zero_of_add_eq_zero_right hfresh
        refine .inr ⟨hfresh, ?_⟩
        simp [opened, Claim.lends, hidle]
      · refine .inl ?_
        show p.idle.countP _ + (link == other).toNat ≤ p.idle.countP _ + 0
        rw [beq_false_of_ne hother]
        exact Nat.le_refl _
    · intro lease hlease _
      rw [hlent] at hlease
      cases hlease
      rfl
  · intro _ hsound h
    apply h.shift hsound.keys hs
    rw [hlent, ht]
    exact Nat.le_refl _

/-! ## Leases -/

theorem lease?_eq_some_iff {lease : Lease} :
    p.lease? t = some lease ↔ p.claims.lookup t = some (.lent lease) := by
  unfold lease?
  cases p.claims.lookup t with
  | none => simp
  | some c => cases c <;> simp

/-- A lease is replaced by one of the same connection, with nothing to be read on it if it is
    `sound`. -/
theorem evolves_putLease {old : Lease} (lease : Lease) (ht : p.claims.lookup t = some (.lent old))
    (hlink : lease.connection.link = old.connection.link)
    (hempty : lease.sound = true → lease.connection.buffer.contents = []) :
    p.Evolves ahead t (p.putLease t lease) ∧
      (p.putLease t lease).claims.lookup t = some (.lent lease) := by
  have hs : p.Shift t (p.putLease t lease) := by
    unfold putLease
    refine ⟨rfl, ?_, ?_⟩
    · intro h
      dsimp only
      rw [Table.keys_modify]
      exact h
    · dsimp only
      rw [Table.erase_modify]
  have hlent : (p.putLease t lease).claims.lookup t = some (.lent lease) := by
    simp [putLease, Table.lookup_modify, ht]
  refine ⟨hs.evolves ahead ?_ ?_, hlent⟩
  · intro h
    refine h.shift hs ?_ (fun link => .inl ?_) h.room h.idle ?_
    · rw [hlent, ht]
      rfl
    · rw [hlent, ht]
      simp only [Option.any_some, Claim.lends, hlink]
      exact Nat.le_refl _
    · intro lease' hlease hsound
      rw [hlent] at hlease
      cases hlease
      exact hempty hsound
  · intro _ hsound h
    apply h.shift hsound.keys hs
    rw [hlent, ht]
    exact Nat.le_refl _

/-! ## The way back -/

theorem stock_cases (p : Pool) (c : Connection) :
    p.stock c = p ∨
      p.idle.length < p.settings.maxConnections ∧ p.stock c = { p with idle := p.idle ++ [c] } := by
  unfold stock
  by_cases hfull : p.closed = true ∨ p.settings.maxConnections ≤ p.idle.length
  · exact .inl (if_pos hfull)
  · exact .inr ⟨Nat.lt_of_not_le fun hle => hfull (.inr hle), if_neg hfull⟩

@[simp] theorem claims_stock (p : Pool) (c : Connection) : (p.stock c).claims = p.claims := by
  rcases stock_cases p c with heq | ⟨-, heq⟩
  · rw [heq]
  · rw [heq]

/-- Makes a lent connection idle, if its lease is `sound`. The permit is kept for the time being. -/
def restock (p : Pool) (t : Ticket) (lease : Lease) : Pool :=
  { (if lease.sound then p.stock lease.connection else p) with
    claims := p.claims.modify t fun _ => .granted }

theorem restock_cases (p : Pool) (t : Ticket) (lease : Lease) :
    p.restock t lease = { p with claims := p.claims.modify t fun _ => .granted } ∨
      lease.sound = true ∧ p.idle.length < p.settings.maxConnections ∧
        p.restock t lease =
          { p with
            idle := p.idle ++ [lease.connection]
            claims := p.claims.modify t fun _ => .granted } := by
  unfold restock
  by_cases hsound : lease.sound = true
  · rw [if_pos hsound]
    rcases stock_cases p lease.connection with heq | ⟨hroom, heq⟩
    · rw [heq]
      exact .inl rfl
    · rw [heq]
      exact .inr ⟨hsound, hroom, rfl⟩
  · rw [if_neg hsound]
    exact .inl rfl

/-- A connection that comes back by `restock` leaves its ticket with the permit, `granted`. -/
theorem evolves_restock {lease : Lease} (ht : p.claims.lookup t = some (.lent lease)) :
    p.Evolves ahead t (p.restock t lease) ∧
      (p.restock t lease).claims.lookup t = some .granted := by
  have hgranted : (p.claims.modify t fun _ => .granted).lookup t = some .granted := by
    simp [Table.lookup_modify, ht]
  rcases restock_cases p t lease with heq | ⟨hsound, hroom, heq⟩
  · rw [heq]
    let p' : Pool := { p with claims := p.claims.modify t fun _ => .granted }
    have hs : p.Shift t p' := .of_modify (f := fun _ => .granted) rfl rfl
    refine ⟨hs.evolves_bare ahead rfl ?_ ?_, hgranted⟩
    · rw [hgranted]
      trivial
    · rw [hgranted, ht]
      rfl
  · rw [heq]
    -- the connection is counted among the idle ones from now on, and no longer on the page
    let p' : Pool :=
      { p with
        idle := p.idle ++ [lease.connection]
        claims := p.claims.modify t fun _ => .granted }
    have hs : p.Shift t p' := .of_modify (f := fun _ => .granted) rfl rfl
    refine ⟨hs.evolves ahead ?_ ?_, hgranted⟩
    · intro h
      refine h.shift hs ?_ (fun link => .inl ?_) ?_ ?_ ?_
      · rw [hgranted, ht]
        rfl
      · rw [hgranted, ht]
        simp only [Option.any_some, Claim.lends, p', List.countP_append, List.countP_singleton]
        cases lease.connection.link == link <;> simp
      · show (p.idle ++ [lease.connection]).length ≤ _
        rw [List.length_append, List.length_singleton]
        exact hroom
      · intro c hc
        rcases List.mem_append.mp hc with hold | hnew
        · exact h.idle c hold
        · rw [List.mem_singleton.mp hnew]
          exact h.lent t lease ht hsound
      · intro lease' hlease _
        rw [hgranted] at hlease
        cases hlease
    · intro _ hsound h
      apply h.shift hsound.keys hs
      rw [hgranted, ht]
      simp [p', Claim.isLent, Claim.isOpening]

/-- **First the connection becomes idle, then the permit is free:** `release` is `restock` and then
    `surrender`. -/
theorem release_eq {lease : Lease} (ht : p.claims.lookup t = some (.lent lease)) :
    p.release t = (p.restock t lease).surrender t := by
  unfold release surrender restock
  rw [lease?_eq_some_iff.mpr ht]
  by_cases hsound : lease.sound = true
  · simp only [hsound, if_true, Table.erase_modify]
    rcases stock_cases p lease.connection with heq | ⟨-, heq⟩
    · rw [heq]
    · rw [heq]
  · simp only [if_neg hsound, Table.erase_modify]

theorem evolves_release {lease : Lease} (h : p.Sound)
    (ht : p.claims.lookup t = some (.lent lease)) :
    p.Evolves ahead t (p.release t) ∧ (p.release t).claims.lookup t = none := by
  obtain ⟨hrestock, hgranted⟩ : p.Evolves ahead t (p.restock t lease) ∧ _ := evolves_restock ht
  obtain ⟨hsurrender, hnone⟩ : (p.restock t lease).Evolves ahead t _ ∧ _ :=
    evolves_surrender (hrestock.sound h) (by rw [hgranted]; rfl)
  rw [release_eq ht]
  exact ⟨hrestock.trans hsurrender, hnone⟩

/-- A claim is ended from outside by `withdraw`, whatever it is. -/
theorem evolves_withdraw (h : p.Sound) :
    p.Evolves ahead t (p.withdraw t) ∧ (p.withdraw t).claims.lookup t = none := by
  unfold withdraw
  cases ht : p.claims.lookup t with
  | none => exact ⟨.refl .., ht⟩
  | some c =>
      cases c with
      | waiting =>
          refine ⟨evolves_erase ht, ?_⟩
          show (p.claims.erase t).lookup t = none
          simp [Table.lookup_erase]
      | granted | opening => exact evolves_surrender h (by rw [ht]; rfl)
      | lent lease => exact evolves_release h ht

/-! ## Idle connections -/

theorem evolves_clearIdle (ahead : Bool) (k : Ticket) (p : Pool) :
    p.Evolves ahead k p.clearIdle := by
  have hs : p.Shift k p.clearIdle := .of_claims_eq rfl rfl
  refine hs.evolves ahead ?_ ?_
  · intro h
    refine h.shift hs rfl (fun link => .inl ?_) (Nat.zero_le _) nofun ?_
    · show 0 + _ ≤ _
      rw [Nat.zero_add]
      exact Nat.le_add_left _ _
    · intro lease hlease
      exact h.lent k lease hlease
  · intro _ hsound h
    apply h.shift hsound.keys hs
    refine Nat.add_le_add_right (Nat.add_le_add_right ?_ _) _
    exact Nat.zero_le _

theorem evolves_close (ahead : Bool) (k : Ticket) (p : Pool) : p.Evolves ahead k p.close := by
  have hclear := evolves_clearIdle ahead k p
  refine ⟨rfl, hclear.others, ?_, ?_⟩
  · intro h
    obtain ⟨hkeys, hpermits, huses, hroom, hidle, hlent⟩ := hclear.sound h
    exact ⟨hkeys, hpermits, huses, hroom, hidle, hlent⟩
  · intro hahead hsound h
    exact hclear.capped hahead hsound h

/-- A connection opened `ahead` of need becomes idle by `stock` if it is in no other place. The
    books stay `Sound`, but there may be more connections than permits afterwards. -/
theorem evolves_stock {link : Nat} (hfresh : p.uses link = 0) :
    p.Evolves true k (p.stock { link := link }) := by
  rcases stock_cases p { link := link } with heq | ⟨hroom, heq⟩
  · rw [heq]
    exact .refl ..
  · rw [heq]
    let p' : Pool := { p with idle := p.idle ++ [{ link := link }] }
    have hs : p.Shift k p' := .of_claims_eq rfl rfl
    refine hs.evolves true ?_ nofun
    intro h
    refine h.shift hs rfl ?_ ?_ ?_ (h.lent k)
    · intro other
      have hcount : p'.idle.countP (·.link == other) =
          p.idle.countP (·.link == other) + (link == other).toNat := by
        simp only [p', List.countP_append, List.countP_singleton]
        cases link == other <;> rfl
      rw [hcount]
      by_cases hother : link = other
      · subst hother
        refine .inr ⟨hfresh, ?_⟩
        -- the page does not change, but the uses are counted with it and without it
        have hpage := Table.tally_split (Claim.lends link) k h.keys
        unfold Pool.uses at hfresh
        simp only [beq_self_eq_true, Bool.toNat_true]
        show p.idle.countP _ + 1 + ((p.claims.lookup k).any _).toNat ≤ 1
        omega
      · refine .inl ?_
        rw [beq_false_of_ne hother]
        exact Nat.le_refl _
    · show (p.idle ++ [_]).length ≤ _
      rw [List.length_append, List.length_singleton]
      exact hroom
    · intro c hc
      rcases List.mem_append.mp hc with hold | hnew
      · exact h.idle c hold
      · rw [List.mem_singleton.mp hnew]
        rfl

end Pool

end Memcache
