import Memcache.Pool

/-!
# `Memcache.Proofs.Pool.Ledger` — what the books of a pool say

A pool keeps books on three things: `Pool.permits`, connections, and what each ticket holds of both,
in `Pool.claims`. The books are sound when every permit is free or with one ticket, when every
connection is in one place, and when no connection that is or may become idle has octets left to be
read (`Pool.Sound`). Each function changes the claim of one ticket, and perhaps passes a permit on
to one that waits; so the books are split into the page of that ticket and all the others, and only
the page is looked at (`Pool.Shift`).

## Contents

* `Pool.lent`, `Pool.pledged`, `Pool.connecting`, `Pool.uses` — the totals;
* `Pool.Sound` — **the books are in order**; `Pool.Capped` — **no more connections than permits**;
* `Pool.Shift`, `Sound.shift`, `Capped.shift` — one page changes;
* `Pool.Evolves` — what the doings of one ticket may do to a pool.
-/

namespace Memcache

/-! ## Totals -/

namespace Claim

/-- True of `Claim.lent`: a permit and a connection. -/
def isLent : Claim → Bool
  | .lent _ => true
  | _ => false

/-- True of `granted` and `opening`: a permit and no connection yet. -/
def isPledge : Claim → Bool
  | .granted | .opening => true
  | _ => false

/-- True of `opening`: a permit, and a connection under way. -/
def isOpening : Claim → Bool
  | .opening => true
  | _ => false

/-- True of a lease of the connection `link`. -/
def lends (link : Nat) : Claim → Bool
  | .lent lease => lease.connection.link == link
  | _ => false

/-- How many permits somebody holds by a claim, or by none: one unless it is `waiting`. -/
def permits : Option Claim → Nat
  | none | some .waiting => 0
  | some .granted | some .opening | some (.lent _) => 1

theorem permits_eq (c? : Option Claim) :
    permits c? = (c?.any isLent).toNat + (c?.any isPledge).toNat := by
  cases c? with
  | none => rfl
  | some c => cases c <;> rfl

/-- No connection, neither `lent` nor `opening`. -/
def Bare : Option Claim → Prop
  | none | some .waiting | some .granted => True
  | some .opening | some (.lent _) => False

theorem Bare.any_eq_false {c? : Option Claim} (h : Bare c?) :
    c?.any isLent = false ∧ c?.any isOpening = false ∧ ∀ link, c?.any (lends link) = false := by
  cases c? with
  | none => exact ⟨rfl, rfl, fun _ => rfl⟩
  | some c =>
      cases c with
      | waiting | granted => exact ⟨rfl, rfl, fun _ => rfl⟩
      | opening | lent _ => exact absurd h id

end Claim

namespace Pool

/-- How many connections are lent. -/
def lent (p : Pool) : Nat :=
  p.claims.tally Claim.isLent

/-- How many tickets hold a permit but no connection yet. -/
def pledged (p : Pool) : Nat :=
  p.claims.tally Claim.isPledge

/-- How many tickets are having a connection opened. -/
def connecting (p : Pool) : Nat :=
  p.claims.tally Claim.isOpening

/-- In how many places a connection is: in `idle`, or lent to a ticket. -/
def uses (p : Pool) (link : Nat) : Nat :=
  p.idle.countP (·.link == link) + p.claims.tally (Claim.lends link)

/-! ## Sound books -/

/-- **The books are in order.** -/
structure Sound (p : Pool) : Prop where
  keys : p.claims.keys.Nodup
  /-- Every permit is free, or with a connection, or with somebody who has none yet. -/
  permits : p.permits + p.lent + p.pledged = size p.settings
  /-- No connection is in two places. -/
  uses : ∀ link, p.uses link ≤ 1
  room : p.idle.length ≤ p.settings.maxConnections
  /-- Nothing is left to be read on what may be lent again. -/
  idle : ∀ c ∈ p.idle, c.buffer.contents = []
  lent : ∀ k lease, p.claims.lookup k = some (.lent lease) → lease.sound = true →
    lease.connection.buffer.contents = []

/-- **Connections that are `idle`, `lent` or `connecting` are no more than permits.** -/
def Capped (p : Pool) : Prop :=
  p.idle.length + p.lent + p.connecting ≤ size p.settings

theorem sound_new (endpoint : Endpoint) (settings : PoolSettings) :
    (Pool.new endpoint settings).Sound where
  keys := List.nodup_nil
  permits := rfl
  uses _ := Nat.zero_le _
  room := Nat.zero_le _
  idle _ hc := by contradiction
  lent _ _ hk := by contradiction

theorem capped_new (endpoint : Endpoint) (settings : PoolSettings) :
    (Pool.new endpoint settings).Capped :=
  Nat.zero_le _

/-! ## One page -/

/-- All tickets but `k` have what they had. -/
structure Shift (k : Ticket) (p p' : Pool) : Prop where
  settings : p'.settings = p.settings
  keys : p.claims.keys.Nodup → p'.claims.keys.Nodup
  others : p'.claims.erase k = p.claims.erase k

section Shift
variable {k : Ticket} {p p' : Pool}

theorem Shift.lookup (hs : p.Shift k p') {u : Ticket} (hu : u ≠ k) :
    p'.claims.lookup u = p.claims.lookup u :=
  Table.lookup_eq_of_erase_eq hs.others hu

/-- The number of claims of a `kind` changes by what the page of `k` changes it. -/
theorem Shift.tally (hs : p.Shift k p') (hkeys : p.claims.keys.Nodup) (kind : Claim → Bool) :
    p'.claims.tally kind + ((p.claims.lookup k).any kind).toNat =
      p.claims.tally kind + ((p'.claims.lookup k).any kind).toNat := by
  -- both totals are the page and all the others, and the others are the same
  rw [Table.tally_split kind k hkeys, Table.tally_split kind k (hs.keys hkeys), hs.others]
  omega

/-- **Sound books stay `Sound`** when the page of `k` changes, if the page keeps the number of
    permits, puts no connection into another place, and makes nothing idle that is still to be
    read. -/
theorem Sound.shift (h : p.Sound) (hs : p.Shift k p')
    (hpermits : p'.permits + Claim.permits (p'.claims.lookup k) =
      p.permits + Claim.permits (p.claims.lookup k))
    (huses : ∀ link,
      p'.idle.countP (·.link == link) + ((p'.claims.lookup k).any (Claim.lends link)).toNat ≤
          p.idle.countP (·.link == link) + ((p.claims.lookup k).any (Claim.lends link)).toNat ∨
        p.uses link = 0 ∧
          p'.idle.countP (·.link == link) + ((p'.claims.lookup k).any (Claim.lends link)).toNat ≤
            1)
    (hroom : p'.idle.length ≤ p.settings.maxConnections)
    (hidle : ∀ c ∈ p'.idle, c.buffer.contents = [])
    (hlent : ∀ lease, p'.claims.lookup k = some (.lent lease) → lease.sound = true →
      lease.connection.buffer.contents = []) : p'.Sound := by
  refine ⟨hs.keys h.keys, ?_, ?_, ?_, hidle, ?_⟩
  · have hlentTotal := hs.tally h.keys Claim.isLent
    have hpledged := hs.tally h.keys Claim.isPledge
    have hold := h.permits
    rw [Claim.permits_eq, Claim.permits_eq] at hpermits
    rw [hs.settings]
    unfold Pool.lent Pool.pledged at *
    omega
  · intro link
    have htotal := hs.tally h.keys (Claim.lends link)
    have hold := h.uses link
    -- either the page uses the connection no more than before, or nobody used it at all
    have hpage := huses link
    unfold Pool.uses at *
    omega
  · rw [hs.settings]
    exact hroom
  · intro u lease hu hsound
    by_cases huk : u = k
    · exact hlent lease (huk ▸ hu) hsound
    · exact h.lent u lease ((hs.lookup huk).symm.trans hu) hsound

/-- A pool stays `Capped` when the page of `k` does not add to its connections. -/
theorem Capped.shift (h : p.Capped) (hkeys : p.claims.keys.Nodup) (hs : p.Shift k p')
    (hpage : p'.idle.length + ((p'.claims.lookup k).any Claim.isLent).toNat +
        ((p'.claims.lookup k).any Claim.isOpening).toNat ≤
      p.idle.length + ((p.claims.lookup k).any Claim.isLent).toNat +
        ((p.claims.lookup k).any Claim.isOpening).toNat) : p'.Capped := by
  have hlentTotal := hs.tally hkeys Claim.isLent
  have hopening := hs.tally hkeys Claim.isOpening
  unfold Capped Pool.lent Pool.connecting at *
  rw [hs.settings]
  omega

/-- A page that is left `Bare` does no harm if it keeps the number of permits. -/
theorem Sound.shift_bare (h : p.Sound) (hs : p.Shift k p') (hidle : p'.idle = p.idle)
    (hbare : Claim.Bare (p'.claims.lookup k))
    (hpermits : p'.permits + Claim.permits (p'.claims.lookup k) =
      p.permits + Claim.permits (p.claims.lookup k)) : p'.Sound := by
  obtain ⟨-, -, hlends⟩ := hbare.any_eq_false
  refine h.shift hs hpermits (fun link => .inl ?_) (hidle ▸ h.room) (hidle ▸ h.idle) ?_
  · rw [hidle, hlends link]
    exact Nat.le_add_right _ _
  · intro lease hlease _
    rw [hlease] at hbare
    exact absurd hbare id

theorem Capped.shift_bare (h : p.Capped) (hkeys : p.claims.keys.Nodup) (hs : p.Shift k p')
    (hidle : p'.idle = p.idle) (hbare : Claim.Bare (p'.claims.lookup k)) : p'.Capped := by
  obtain ⟨hlent, hopening, -⟩ := hbare.any_eq_false
  apply h.shift hkeys hs
  rw [hidle, hlent, hopening]
  show p.idle.length + 0 + 0 ≤ _
  omega

end Shift

/-! ## The doings of one ticket -/

/-- What the doings of the ticket `k` may do to a pool: the others keep what they have, or are
    `granted` the permit that they wait for; the books stay `Sound`; and unless connections are
    opened `ahead` of need, the pool stays `Capped`. -/
structure Evolves (ahead : Bool) (k : Ticket) (p p' : Pool) : Prop where
  settings : p'.settings = p.settings
  others : ∀ u, u ≠ k → p'.claims.lookup u = p.claims.lookup u ∨
    p.claims.lookup u = some .waiting ∧ p'.claims.lookup u = some .granted
  sound : p.Sound → p'.Sound
  capped : ahead = false → p.Sound → p.Capped → p'.Capped

theorem Evolves.refl (ahead : Bool) (k : Ticket) (p : Pool) : p.Evolves ahead k p where
  settings := rfl
  others _ _ := .inl rfl
  sound h := h
  capped _ _ h := h

theorem Evolves.trans {ahead : Bool} {k : Ticket} {p q r : Pool} (hpq : p.Evolves ahead k q)
    (hqr : q.Evolves ahead k r) : p.Evolves ahead k r where
  settings := hqr.settings.trans hpq.settings
  others u hu := by
    rcases hpq.others u hu with hsame | ⟨hwaiting, hgranted⟩
    · rcases hqr.others u hu with hsame' | ⟨hwaiting, hgranted⟩
      · exact .inl (hsame'.trans hsame)
      · exact .inr ⟨hsame.symm.trans hwaiting, hgranted⟩
    · rcases hqr.others u hu with hsame' | ⟨hwaiting', -⟩
      · exact .inr ⟨hwaiting, hsame'.trans hgranted⟩
      -- a permit that was granted is not waited for again
      · rw [hgranted] at hwaiting'
        contradiction
  sound h := hqr.sound (hpq.sound h)
  capped hahead hsound h := hqr.capped hahead (hpq.sound hsound) (hpq.capped hahead hsound h)

/-- Who does not wait for a permit keeps what it has. -/
theorem Evolves.lookup_eq {ahead : Bool} {k u : Ticket} {p p' : Pool} (h : p.Evolves ahead k p')
    (hu : u ≠ k) (hwaiting : p.claims.lookup u ≠ some .waiting) :
    p'.claims.lookup u = p.claims.lookup u := by
  rcases h.others u hu with hsame | ⟨hwaits, -⟩
  · exact hsame
  · exact absurd hwaits hwaiting

/-- A page that changes as it should, a `Shift`, is such a doing. -/
theorem Shift.evolves {k : Ticket} {p p' : Pool} (hs : p.Shift k p') (ahead : Bool)
    (hsound : p.Sound → p'.Sound) (hcapped : ahead = false → p.Sound → p.Capped → p'.Capped) :
    p.Evolves ahead k p' where
  settings := hs.settings
  others _ hu := .inl (hs.lookup hu)
  sound := hsound
  capped := hcapped

/-- A page that is left `Bare` is one, if it keeps the number of permits. -/
theorem Shift.evolves_bare {k : Ticket} {p p' : Pool} (hs : p.Shift k p') (ahead : Bool)
    (hidle : p'.idle = p.idle) (hbare : Claim.Bare (p'.claims.lookup k))
    (hpermits : p'.permits + Claim.permits (p'.claims.lookup k) =
      p.permits + Claim.permits (p.claims.lookup k)) : p.Evolves ahead k p' :=
  hs.evolves ahead (fun h => h.shift_bare hs hidle hbare hpermits) fun _ hsound h =>
    h.shift_bare hsound.keys hs hidle hbare

end Pool

end Memcache
