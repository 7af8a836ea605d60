import Mathlib
import Memcache.Client
import Memcache.Proofs.Expiration.Reading
import Memcache.Proofs.Value.Storage

/-!
# `Memcache.Proofs.Client.Flushing` — when a delayed flush takes place

The delay of a `Request.flush` is encoded as `Expiration.after` is, and `flushExtras` are left out
if the number is 0. A server reads it as it reads an expiration, but for one number: where 0 means
that an item never ends, it means that a flush takes place at once (`Packet.flushSecond`). So a
flush is as punctual as an item, except that a delay without an end that can be told, which
`Expiration.encodeAfter` writes as 0, is no delay at all.

## Contents

* `Packet.flushSecond` — when a server carries a flush out;
* `Command.drain_flush` — the one packet of a flush; `Client.plan_flush` — what is sent to whom;
* `Client.flush_on_time` — **a flush is not early if its delay has an end that can be told**;
* `Client.endless_flush_early` — **otherwise it is**.
-/

namespace Memcache

/-! ## What a server makes of a flush -/

/-- **The second in which a server carries out a flush that it reads at `now`.** Without a delay in
    its `extras`, and with one of 0, that is at once. -/
def Packet.flushSecond (now : WallTime) (p : Packet) : Int :=
  match read32 p.extras with
  | .ok n => if n = 0 then now.second else Expiration.secondOf now n
  | .error _ => now.second

namespace Command

variable {delay tag : UInt32}

/-- The one packet of a `Command.flush`. -/
def flushRequest (delay tag : UInt32) : Packet where
  opcode := Opcode.flush
  extras := if 0 < delay then flushExtras delay else []
  tag := tag

theorem extras_flushRequest (h : delay ≠ 0) :
    (flushRequest delay tag).extras = be 4 delay.toNat :=
  if_pos (UInt32.pos_iff_ne_zero.mpr h)

theorem length_extras_flushRequest : (flushRequest delay tag).extras.length ≤ 4 := by
  by_cases h : delay = 0
  · subst h
    exact Nat.zero_le 4
  · rw [extras_flushRequest h, length_be]

/-- **A server finds it in the octets of the request**, and nothing else. -/
theorem drain_flush (delay tag : UInt32) :
    Decoder.requests.drain ((flush delay).encode tag) = ⟨[flushRequest delay tag], [], none⟩ := by
  have hextras : (flushRequest delay tag).extras.length ≤ 4 := length_extras_flushRequest
  have hkey : (flushRequest delay tag).key.length = 0 := rfl
  have hbody : (flushRequest delay tag).bodyLength = (flushRequest delay tag).extras.length := rfl
  have hmax : Decoder.requests.maxBody = 2097152 := rfl
  have hencode : (flush delay).encode tag = (flushRequest delay tag).encode :=
    List.flatMap_singleton ..
  rw [hencode]
  apply Decoder.drain_encode rfl
  all_goals omega

/-- A flush without a delay is carried out at once, in `WallTime.second` of `now`. -/
theorem flushSecond_zero (now : WallTime) : (flushRequest 0 tag).flushSecond now = now.second :=
  rfl

/-- Any other is carried out when an item would end, `Expiration.secondOf`. -/
theorem flushSecond_of_ne_zero (now : WallTime) (h : delay ≠ 0) :
    (flushRequest delay tag).flushSecond now = Expiration.secondOf now delay := by
  rw [Packet.flushSecond, extras_flushRequest h, read32_of_be]
  exact if_neg h

end Command

namespace Client

open Expiration

variable {c : Client} {f : Fleet} {now : WallTime} {d : Duration} {n : UInt32}

/-- All servers in `Fleet.working` are sent the same flush. -/
theorem plan_flush (hlive : f.disposed = false) (hwritten : encodeAfter now d = .ok n) :
    c.plan now f (.flush d) = .ok (.broadcast f.working (.flush n)) := by
  have hencode : encodeExpiration now (.after d) = .ok n := by
    have hafter : Expiration.encodeAt now (.after d) = .ok n := hwritten
    rw [encodeExpiration, hafter]
  unfold plan
  dsimp only
  rw [hlive, if_neg Bool.false_ne_true, hencode]

/-- **A delayed flush is not early, if its delay has an end that can be told.** All servers in
    `Fleet.working` are sent the same command, and find the one packet of a flush in its octets.
    Unless the delay is `Expiration.Endless`, which is to say longer than thirty days and with an
    end whose second does not fit in 32 bits, a server carries the flush out (`Packet.flushSecond`)
    no earlier than in that second, and no later than after the seconds that cover the delay.
    Otherwise the packet has no delay, and the flush is carried out at once. -/
theorem flush_on_time (c : Client) (f : Fleet) (now : WallTime) (d : Duration)
    (hlive : f.disposed = false) (hnow : 0 ≤ now) (hd : 0 < d) :
    ∃ command, c.plan now f (.flush d) = .ok (.broadcast f.working command) ∧
      ∀ tag, ∃ p, Decoder.requests.drain (command.encode tag) = ⟨[p], [], none⟩ ∧
        p.opcode = Opcode.flush ∧ p.tag = tag ∧
        (¬ Endless now d → WallTime.second (now + d) ≤ p.flushSecond now ∧
          p.flushSecond now ≤ now.second + d.ceilSeconds) ∧
        (Endless now d → p.extras = [] ∧ p.flushSecond now = now.second ∧
          now.second < WallTime.second (now + d)) := by
  obtain ⟨n, hwritten, hread⟩ := exists_endOf_after hnow hd
  refine ⟨.flush n, plan_flush hlive hwritten, fun tag => ?_⟩
  refine ⟨Command.flushRequest n tag, Command.drain_flush n tag, rfl, rfl, ?_, ?_⟩
  · intro hends
    have hne : n ≠ 0 := by
      rintro rfl
      exact hends (endAfter_eq_top_iff.mp hread.symm)
    rw [endOf_of_ne_zero hne] at hread
    have hearly := second_le_endAfter now d
    have hlate := endAfter_le hends
    rw [← hread, WithTop.coe_le_coe] at hearly hlate
    rw [Command.flushSecond_of_ne_zero now hne]
    exact ⟨hearly, hlate⟩
  · intro hendless
    have hzero : n = 0 := by
      by_contra hne
      rw [endAfter_eq_top_iff.mpr hendless, endOf_of_ne_zero hne] at hread
      exact absurd hread WithTop.coe_ne_top
    subst hzero
    refine ⟨rfl, Command.flushSecond_zero now, ?_⟩
    have hfar := maxDistance_le_second now hendless.1
    unfold maxDistance at hfar
    omega

/-- One server, and nothing done yet. -/
def oneServer : Fleet :=
  .ofServers [⟨"a:1"⟩] {} .failImmediately

/-- A flush that is to take place forty days after the second 1700000000 is carried out in the second
    that this is. -/
theorem flush_on_time_fortyDays :
    oneServer.disposed = false ∧
      ∃ p, Decoder.requests.drain ((Command.flush 1703456000).encode 7) = ⟨[p], [], none⟩ ∧
        p.tag = 7 ∧ 1703456000 ≤ p.flushSecond 1700000000000000000 ∧
        p.flushSecond 1700000000000000000 ≤ 1703456000 := by
  refine ⟨rfl, ?_⟩
  obtain ⟨command, hplan, hsent⟩ := flush_on_time {} oneServer 1700000000000000000 3456000000000000
    rfl (by decide) (by decide)
  have hflush : Client.plan {} 1700000000000000000 oneServer (.flush 3456000000000000) =
      .ok (.broadcast oneServer.working (.flush 1703456000)) := plan_flush rfl rfl
  obtain rfl : command = .flush 1703456000 := by
    simpa using hplan.symm.trans hflush
  obtain ⟨p, hdrain, -, htag, htime, -⟩ := hsent 7
  obtain ⟨hearly, hlate⟩ := htime (by decide)
  exact ⟨p, hdrain, htag, hearly, hlate⟩

/-- So it is not true of every delay: with `Duration.longest`, all living servers are flushed at
    once. -/
theorem endless_flush_early :
    ¬ ∀ (c : Client) (f : Fleet) (now : WallTime) (d : Duration), f.disposed = false → 0 ≤ now →
      0 < d → ∃ command, c.plan now f (.flush d) = .ok (.broadcast f.working command) ∧
        ∀ tag, ∃ p, Decoder.requests.drain (command.encode tag) = ⟨[p], [], none⟩ ∧
          WallTime.second (now + d) ≤ p.flushSecond now := by
  intro hclaim
  obtain ⟨command, hplan, hsent⟩ :=
    hclaim {} oneServer 1700000000000000000 Duration.longest rfl (by decide) (by decide)
  have hflush : Client.plan {} 1700000000000000000 oneServer (.flush Duration.longest) =
      .ok (.broadcast oneServer.working (.flush 0)) := plan_flush rfl rfl
  obtain rfl : command = .flush 0 := by
    simpa using hplan.symm.trans hflush
  obtain ⟨p, hdrain, hearly⟩ := hsent 0
  rw [Command.drain_flush] at hdrain
  obtain rfl : Command.flushRequest 0 0 = p := by
    simpa using hdrain
  rw [Command.flushSecond_zero] at hearly
  exact absurd hearly (by decide)

end Client

end Memcache
