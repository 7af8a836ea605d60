import Mathlib.Data.Option.Basic
import Memcache.Sim.Network

/-!
# `Memcache.Proofs.Network.Unasked` — networks that were asked nothing

Between two states of a network attempts to connect may have begun and ended, and connections may
have been accepted, without a single octet having been sent. This is seen at the hosts, which have
noted down no request in `Host.log` and answered none, and at the connections: each `Link` is as it
was, or is new and has nothing on it. `Network.dial` and `Network.pollDial` leave a network in such
a state, whatever comes of them.

## Contents

* `Network.Unasked` — **nothing was sent** between two states of a network;
* `Network.Beside`, `Network.beside_dial`, `Network.beside_poll` — **an attempt to connect**, which
  does not meddle with the others either;
* `Network.pollDial_eq_none_congr`, `Network.pollDial_cases` — what may come of it.
-/

namespace Memcache.Sim

/-! ## Nothing was sent -/

/-- The host has noted down no request in `Host.log` and answered none. -/
structure Host.Unasked (h h' : Host) : Prop where
  log : h'.log = h.log
  reactions : h'.reactions = h.reactions
  server : h'.server = h.server

/-- **Nothing was sent** between two states of a network: `Network.hosts` have heard nothing, and
    each of `Network.links` is as it was, or new and without anything on it. -/
structure Network.Unasked (n n' : Network) : Prop where
  hosts : ∀ address, Option.Rel Host.Unasked (n.hosts.lookup address) (n'.hosts.lookup address)
  links : ∀ link l, n'.links.lookup link = some l →
    n.links.lookup link = some l ∨ l = { host := l.host, number := l.number }

namespace Host

variable {h h' h'' : Host}

theorem Unasked.refl (h : Host) : h.Unasked h :=
  ⟨rfl, rfl, rfl⟩

theorem Unasked.trans (hfirst : h.Unasked h') (hlater : h'.Unasked h'') : h.Unasked h'' where
  log := hlater.log.trans hfirst.log
  reactions := hlater.reactions.trans hfirst.reactions
  server := hlater.server.trans hfirst.server

theorem rel_refl (h? : Option Host) : Option.Rel Unasked h? h? := by
  cases h? with
  | none => exact .none
  | some h => exact .some (.refl h)

end Host

namespace Network

variable {n n' n'' : Network} {now : Time} {ticket : Ticket}

theorem Unasked.refl (n : Network) : n.Unasked n where
  hosts _ := Host.rel_refl _
  links _ _ h := .inl h

theorem Unasked.trans (hfirst : n.Unasked n') (hlater : n'.Unasked n'') : n.Unasked n'' where
  hosts address := by
    have hnear := hfirst.hosts address
    have hfar := hlater.hosts address
    generalize n.hosts.lookup address = before at hnear ⊢
    generalize n'.hosts.lookup address = middle at hnear hfar
    generalize n''.hosts.lookup address = after at hfar ⊢
    cases hnear with
    | none => exact hfar
    | some hbefore =>
        cases hfar with
        | some hafter => exact .some (hbefore.trans hafter)
  links link l h := by
    rcases hlater.links link l h with hkept | hnew
    · exact hfirst.links link l hkept
    · exact .inr hnew

/-- A network with other attempts to connect in `Network.dials`. -/
theorem unasked_dials (n : Network) (dials : Table Ticket Dial) :
    n.Unasked { n with dials := dials } where
  hosts _ := Host.rel_refl _
  links _ _ h := .inl h

/-- A host that was called, and no more. -/
theorem unasked_insert {address : String} {h h' : Host} {dials : Table Ticket Dial}
    (hhost : n.hosts.lookup address = some h) (hsame : h.Unasked h') :
    n.Unasked { n with hosts := n.hosts.insert address h', dials := dials } where
  hosts other := by
    show Option.Rel _ _ ((n.hosts.insert address h').lookup other)
    rw [Table.lookup_insert]
    split
    · next heq =>
        rw [heq, hhost]
        exact .some hsame
    · exact Host.rel_refl _
  links _ _ hl := .inl hl

/-- A new connection, by `Network.accept`, has nothing on it. -/
theorem unasked_accept (address : String) : n.Unasked (n.accept address).1 where
  hosts other := by
    unfold accept
    dsimp only
    rw [Table.lookup_modify]
    split
    · cases n.hosts.lookup other with
      | none => exact .none
      | some h => exact .some ⟨rfl, rfl, rfl⟩
    · exact Host.rel_refl _
  links link l hl := by
    have hinsert : (n.links.insert n.links.length _).lookup link = some l := hl
    rw [Table.lookup_insert] at hinsert
    split at hinsert
    · obtain rfl := Option.some.inj hinsert
      exact .inr rfl
    · exact .inl hinsert

/-! ## Attempts to connect -/

/-- Nothing was sent, and all attempts in `Network.dials` but that of the `ticket` stand as they
    stood. -/
structure Beside (ticket : Ticket) (n n' : Network) : Prop where
  unasked : n.Unasked n'
  dials : ∀ other, other ≠ ticket → n'.dials.lookup other = n.dials.lookup other

theorem Beside.refl (ticket : Ticket) (n : Network) : n.Beside ticket n :=
  ⟨.refl n, fun _ _ => rfl⟩

theorem Beside.trans (hfirst : n.Beside ticket n') (hlater : n'.Beside ticket n'') :
    n.Beside ticket n'' where
  unasked := hfirst.unasked.trans hlater.unasked
  dials other hother := (hlater.dials other hother).trans (hfirst.dials other hother)

/-- **To begin an attempt to connect, by `Network.dial`, is to send nothing.** -/
theorem beside_dial (address : String) : n.Beside ticket (n.dial now ticket address) := by
  have hothers : ∀ dial other, other ≠ ticket →
      (n.dials.insert ticket dial).lookup other = n.dials.lookup other :=
    fun _ _ hother => (Table.lookup_insert ..).trans (if_neg hother)
  unfold dial
  split
  · exact ⟨unasked_dials .., hothers _⟩
  · next h hhost =>
      dsimp only
      split
      · exact ⟨unasked_insert hhost ⟨rfl, rfl, rfl⟩, hothers _⟩
      · exact ⟨unasked_insert hhost ⟨rfl, rfl, rfl⟩, hothers _⟩

/-- **To look for the end of an attempt, by `Network.pollDial`, is to send nothing.** -/
theorem beside_pollDial : n.Beside ticket (n.pollDial now ticket).2 := by
  have hdone : n.Beside ticket { n with dials := n.dials.erase ticket } :=
    ⟨unasked_dials .., fun _ hother => (Table.lookup_erase ..).trans (if_neg hother)⟩
  unfold pollDial
  dsimp only
  split
  · exact hdone
  · split
    · exact hdone.trans ⟨unasked_accept _, fun _ _ => rfl⟩
    · exact .refl ..
  · exact .refl ..

/-- A task that waits for no octets (`Awaited`) takes none. -/
theorem beside_poll {awaited : Awaited} (h : awaited = .nothing ∨ awaited = .connection) :
    n.Beside ticket (n.poll now ticket awaited).2 := by
  rcases h with rfl | rfl
  · exact .refl ..
  · exact beside_pollDial

/-- A task that has no `Effect` but `Effect.dial` sends nothing. -/
theorem beside_performs {effects : List Effect} (h : ∀ effect ∈ effects, ∃ e, effect = .dial e) :
    n.Beside ticket (effects.foldl (fun n effect => n.perform now ticket effect) n) := by
  induction effects generalizing n with
  | nil => exact .refl ..
  | cons effect effects ih =>
      rw [List.forall_mem_cons] at h
      obtain ⟨⟨e, rfl⟩, hlater⟩ := h
      exact (beside_dial _).trans (ih hlater)

/-- Whether an attempt has come to an end hangs on its entry in `Network.dials` alone. -/
theorem pollDial_eq_none_congr (h : n'.dials.lookup ticket = n.dials.lookup ticket)
    (hnone : (n.pollDial now ticket).1 = none) : (n'.pollDial now ticket).1 = none := by
  unfold pollDial at hnone ⊢
  dsimp only at hnone ⊢
  rw [h]
  split
  · next hdial => simp [hdial] at hnone
  · next address time hdial =>
      rw [hdial] at hnone
      split
      · next hready => simp [hready] at hnone
      · rfl
  · rfl

/-- What comes of an attempt is a connection or a refusal. -/
theorem pollDial_cases (now : Time) (ticket : Ticket) (n : Network) :
    (n.pollDial now ticket).1 = none ∨ (n.pollDial now ticket).1 = some .refused ∨
      ∃ link, (n.pollDial now ticket).1 = some (.connected link) := by
  unfold pollDial
  dsimp only
  split
  · exact .inr (.inl rfl)
  · split
    · exact .inr (.inr ⟨_, rfl⟩)
    · exact .inl rfl
  · exact .inl rfl

end Network

end Memcache.Sim
