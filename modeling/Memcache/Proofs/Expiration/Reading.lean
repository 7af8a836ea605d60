import Mathlib
import Memcache.Expiration

/-!
# `Memcache.Proofs.Expiration.Reading` — expirations as a server reads them

One number of 32 bits carries three meanings, and its size tells which: 0 is never, up to
`Expiration.maxRelative` is a distance from the second in which the server reads it, and anything
larger is a second of the calendar. What `Expiration.encodeAfter` writes for a length of time goes
by the same rule, but it is rounded up on one side of thirty days and down on the other, and turns
into never where 32 bits end.

For lengths of time all this fits together: an end is not read as earlier than it was asked for, it
is off by less than a second, and longer times have later ends (`Expiration.endAfter`). Just beyond
thirty days a moment can be written that is read as a distance; but this happens only in the first
second of the calendar, where the two are the same.

For moments it does not. `Expiration.encodeAt` writes a moment in the first thirty days of the
calendar as its second, and such a number is read as a distance.

## Contents

* `WallTime.second`, `Duration.ceilSeconds` — rounding down and up;
* `Expiration.secondOf`, `Expiration.endOf` — what a server makes of a number;
* `Expiration.exists_unixSeconds`, `unixSeconds_eq_ok_iff`, `encodeAfter_cases` — what is written;
* `Expiration.endAfter`, `exists_endOf_after` — the end of a length of time, and **the server reads
  it as that**; `endAfter_mono` — **longer times have later ends**;
* `Expiration.after_ends_as_asked` — **a length of time means what was asked**;
* `Expiration.at_ends_as_asked` — **a moment does, but not in the first thirty days**.
-/

namespace Memcache

/-! ## Seconds -/

/-- The second of the calendar into which a moment falls. -/
def WallTime.second (t : WallTime) : Int :=
  t / 1000000000

/-- The number of seconds that it takes to cover a length of time. -/
def Duration.ceilSeconds (d : Duration) : Nat :=
  (d + 999999999) / 1000000000

theorem WallTime.second_mono {t u : WallTime} (h : t ≤ u) : t.second ≤ u.second :=
  Int.ediv_le_ediv (by decide) h

theorem WallTime.second_nonneg {t : WallTime} (h : 0 ≤ t) : 0 ≤ t.second :=
  Int.ediv_nonneg h (by decide)

theorem Duration.ceilSeconds_mono {d d' : Duration} (h : d ≤ d') : d.ceilSeconds ≤ d'.ceilSeconds :=
  Nat.div_le_div_right (Nat.add_le_add_right h _)

theorem Duration.ceilSeconds_pos {d : Duration} (h : 0 < d) : 0 < d.ceilSeconds :=
  Nat.div_pos (Nat.add_le_add_right h 999999999) (by decide)

/-- A length of time is over no later than the seconds that cover it. -/
theorem WallTime.second_add_le (now : WallTime) (d : Duration) :
    WallTime.second (now + d) ≤ now.second + d.ceilSeconds := by
  unfold WallTime.second Duration.ceilSeconds
  omega

namespace Expiration

/-! ## What a server reads -/

/-- The largest number of seconds that is read as a distance: thirty days,
    `Expiration.maxRelative`. -/
def maxDistance : Nat := 2592000

/-- The second that a number other than 0 stands for, when it is read at `now`. -/
def secondOf (now : WallTime) (n : UInt32) : Int :=
  if n.toNat ≤ maxDistance then now.second + n.toNat else n.toNat

/-- **When an item ends, as a server reads it at `now`.** -/
def endOf (now : WallTime) (n : UInt32) : WithTop Int :=
  if n = 0 then ⊤ else secondOf now n

variable {now t : WallTime} {d d' : Duration} {n : UInt32}

theorem endOf_of_ne_zero (h : n ≠ 0) : endOf now n = secondOf now n :=
  if_neg h

theorem endOf_of_pos (h : 0 < n.toNat) : endOf now n = secondOf now n := by
  apply endOf_of_ne_zero
  rintro rfl
  exact absurd h (Nat.lt_irrefl 0)

/-! ## What is written -/

/-- A moment whose second fits is written by `unixSeconds` as that second, but for the first, which
    is written as the one after it. -/
theorem exists_unixSeconds (hepoch : 0 ≤ t) (hfits : t.second < UInt32.size) :
    ∃ n : UInt32, unixSeconds t = .ok n ∧ (n.toNat : Int) = max t.second 1 := by
  have hsecond : ((t.toNat / 1000000000 : Nat) : Int) = t.second := by
    rw [Int.natCast_ediv, Int.toNat_of_nonneg hepoch]
    rfl
  rw [← hsecond] at hfits ⊢
  have hlt : t.toNat / 1000000000 < UInt32.size := Int.ofNat_lt.mp hfits
  refine ⟨UInt32.ofNat (max (t.toNat / 1000000000) 1), ?_, ?_⟩
  · rw [unixSeconds, if_neg (Int.not_lt.mpr hepoch)]
    dsimp only
    rw [if_pos hlt]
  · rw [UInt32.toNat_ofNat_of_lt' (Nat.max_lt.mpr ⟨hlt, by decide⟩)]
    exact Nat.cast_max ..

/-- A moment whose second does not fit is refused as `ExpirationError.outOfRange`. -/
theorem unixSeconds_of_le (hepoch : 0 ≤ t) (hbeyond : UInt32.size ≤ t.second) :
    ∃ seconds, unixSeconds t = .error (.outOfRange seconds) := by
  have hsecond : ((t.toNat / 1000000000 : Nat) : Int) = t.second := by
    rw [Int.natCast_ediv, Int.toNat_of_nonneg hepoch]
    rfl
  rw [← hsecond] at hbeyond
  refine ⟨t.toNat / 1000000000, ?_⟩
  rw [unixSeconds, if_neg (Int.not_lt.mpr hepoch)]
  dsimp only
  rw [if_neg (Nat.not_lt.mpr (Int.ofNat_le.mp hbeyond))]

/-- **What `unixSeconds` writes for a moment.** -/
theorem unixSeconds_eq_ok_iff :
    unixSeconds t = .ok n ↔
      0 ≤ t ∧ t.second < UInt32.size ∧ (n.toNat : Int) = max t.second 1 := by
  constructor
  · intro hwritten
    have hepoch : 0 ≤ t := by
      by_contra hbefore
      rw [unixSeconds, if_pos (Int.not_le.mp hbefore)] at hwritten
      cases hwritten
    have hfits : t.second < UInt32.size := by
      by_contra hbeyond
      obtain ⟨seconds, hrefused⟩ := unixSeconds_of_le hepoch (Int.not_lt.mp hbeyond)
      rw [hrefused] at hwritten
      cases hwritten
    obtain ⟨m, hm, hvalue⟩ := exists_unixSeconds hepoch hfits
    obtain rfl := Except.ok.inj (hwritten.symm.trans hm)
    exact ⟨hepoch, hfits, hvalue⟩
  · rintro ⟨hepoch, hfits, hvalue⟩
    obtain ⟨m, hm, hvalue'⟩ := exists_unixSeconds hepoch hfits
    obtain rfl : n = m := UInt32.toNat_inj.mp (Int.ofNat_inj.mp (hvalue.trans hvalue'.symm))
    exact hm

/-- A length of time whose end cannot be told: it is longer than `Expiration.maxRelative`, and its
    end is too late for a moment. -/
def Endless (now : WallTime) (d : Duration) : Prop :=
  maxRelative < d ∧ (UInt32.size : Int) ≤ WallTime.second (now + d)

instance : Decidable (Endless now d) :=
  inferInstanceAs (Decidable (_ ∧ _))

theorem Endless.mono (h : Endless now d) (hle : d ≤ d') : Endless now d' :=
  ⟨Nat.lt_of_lt_of_le h.1 hle,
    h.2.trans (WallTime.second_mono (Int.add_le_add_left (Int.ofNat_le.mpr hle) now))⟩

/-- The end of `Duration.longest` cannot be told. -/
theorem endless_of_longest (hnow : 0 ≤ now) (hlongest : Duration.longest ≤ d) : Endless now d := by
  have hend : Endless now Duration.longest := by
    have hfirst : (Duration.longest : Int) ≤ now + Duration.longest := Int.le_add_of_nonneg_left hnow
    exact ⟨by decide, le_trans (by decide) (WallTime.second_mono hfirst)⟩
  exact hend.mono hlongest

/-- Nor can one at which the clock has ended, `WallTime.limit`. -/
theorem endless_of_limit (hlong : maxRelative < d) (hlimit : WallTime.limit ≤ now + d) :
    Endless now d :=
  ⟨hlong, le_trans (by decide) (WallTime.second_mono hlimit)⟩

/-- Beyond `Expiration.maxRelative` the end is at least `maxDistance` away. -/
theorem maxDistance_le_second (now : WallTime) (hlong : maxRelative < d) :
    now.second + maxDistance ≤ WallTime.second (now + d) := by
  have hrelative : maxRelative = 2592000000000000 := by rfl
  unfold WallTime.second maxDistance
  simp only [Duration, WallTime] at *
  omega

/-- Up to `Expiration.maxRelative` the seconds that cover a length of time are no more than
    `maxDistance`. -/
theorem ceilSeconds_le_maxDistance (hshort : d ≤ maxRelative) : d.ceilSeconds ≤ maxDistance :=
  Duration.ceilSeconds_mono hshort

/-- **What `encodeAfter` writes for a length of time:** 0 if it is `Endless`, else the distance or
    the moment. -/
theorem encodeAfter_cases (hnow : 0 ≤ now) (hd : 0 < d) :
    (Endless now d ∧ encodeAfter now d = .ok 0) ∨
      ¬ Endless now d ∧ ∃ n : UInt32, encodeAfter now d = .ok n ∧
        (d ≤ maxRelative ∧ n.toNat = d.ceilSeconds ∨
          maxRelative < d ∧ (n.toNat : Int) = WallTime.second (now + d)) := by
  unfold encodeAfter
  split
  · next hlongest =>
      exact .inl ⟨endless_of_longest hnow (hlongest.resolve_left (Nat.ne_of_gt hd)), rfl⟩
  · split
    · next hshort =>
        have hfits : d.ceilSeconds < UInt32.size :=
          Nat.lt_of_le_of_lt (ceilSeconds_le_maxDistance hshort) (by decide)
        refine .inr ⟨fun hendless => absurd hendless.1 (Nat.not_lt.mpr hshort), _, rfl, .inl ?_⟩
        exact ⟨hshort, UInt32.toNat_ofNat_of_lt' hfits⟩
    · next hlong =>
        have hlong : maxRelative < d := Nat.not_le.mp hlong
        have hepoch : 0 ≤ now + d := Int.add_nonneg hnow (Int.natCast_nonneg d)
        split
        · next hlimit => exact .inl ⟨endless_of_limit hlong hlimit, rfl⟩
        · by_cases hfits : WallTime.second (now + d) < UInt32.size
          · obtain ⟨n, hwritten, hn⟩ := exists_unixSeconds hepoch hfits
            rw [hwritten]
            refine .inr ⟨fun hendless => absurd hendless.2 (Int.not_le.mpr hfits), n, rfl, .inr ?_⟩
            -- the first second of the calendar is not that late
            have hlate : 1 ≤ WallTime.second (now + d) := by
              have hfar := maxDistance_le_second now hlong
              have hfirst := WallTime.second_nonneg hnow
              unfold maxDistance at hfar
              omega
            exact ⟨hlong, hn.trans (max_eq_left hlate)⟩
          · have hbeyond := Int.not_lt.mp hfits
            obtain ⟨seconds, hrefused⟩ := unixSeconds_of_le hepoch hbeyond
            rw [hrefused]
            exact .inl ⟨⟨hlong, hbeyond⟩, rfl⟩

/-! ## The end of a length of time -/

/-- The second in which a length of time ends that is asked for at `now`. Up to thirty days it is
    counted in whole seconds. -/
def endAfter (now : WallTime) (d : Duration) : WithTop Int :=
  if Endless now d then ⊤
  else if d ≤ maxRelative then ((now.second + d.ceilSeconds : Int) : WithTop Int)
  else (WallTime.second (now + d) : WithTop Int)

theorem endAfter_eq_top_iff : endAfter now d = ⊤ ↔ Endless now d := by
  unfold endAfter
  split
  · next hendless => exact ⟨fun _ => hendless, fun _ => rfl⟩
  · next hends =>
      refine ⟨fun htop => ?_, fun hendless => absurd hendless hends⟩
      split at htop
      · exact absurd htop WithTop.coe_ne_top
      · exact absurd htop WithTop.coe_ne_top

/-- **That end, `endAfter`, is what a server reads.** -/
theorem exists_endOf_after (hnow : 0 ≤ now) (hd : 0 < d) :
    ∃ n, encodeAfter now d = .ok n ∧ endOf now n = endAfter now d := by
  rcases encodeAfter_cases hnow hd with ⟨hendless, hzero⟩ | ⟨hends, n, hwritten, hn⟩
  · exact ⟨0, hzero, (if_pos hendless).symm⟩
  · refine ⟨n, hwritten, ?_⟩
    rw [endAfter, if_neg hends]
    rcases hn with ⟨hshort, hn⟩ | ⟨hlong, hn⟩
    · rw [if_pos hshort, endOf_of_pos (hn ▸ Duration.ceilSeconds_pos hd), secondOf, hn,
        if_pos (ceilSeconds_le_maxDistance hshort)]
    · have hfar := maxDistance_le_second now hlong
      have hfirst := WallTime.second_nonneg hnow
      have hpos : 0 < n.toNat := by
        unfold maxDistance at hfar
        omega
      rw [if_neg (Nat.not_le.mpr hlong), endOf_of_pos hpos, secondOf, ← hn]
      split
      · -- a moment that is read as a distance: now is in the first second of the calendar
        have hzero : now.second = 0 := by omega
        rw [hzero, Int.zero_add]
      · rfl

/-- An end is not too early: it is no earlier than the second of the moment. -/
theorem second_le_endAfter (now : WallTime) (d : Duration) :
    (WallTime.second (now + d) : WithTop Int) ≤ endAfter now d := by
  unfold endAfter
  split
  · exact le_top
  · split
    · exact WithTop.coe_le_coe.mpr (now.second_add_le d)
    · exact le_rfl

/-- Nor is it too late: `Duration.ceilSeconds` cover it. -/
theorem endAfter_le (hends : ¬ Endless now d) :
    endAfter now d ≤ ((now.second + d.ceilSeconds : Int) : WithTop Int) := by
  rw [endAfter, if_neg hends]
  split
  · exact le_rfl
  · exact WithTop.coe_le_coe.mpr (now.second_add_le d)

/-- **Longer times have later ends**, also where rounding changes sides. -/
theorem endAfter_mono (hle : d ≤ d') : endAfter now d ≤ endAfter now d' := by
  by_cases hendless : Endless now d'
  · rw [endAfter_eq_top_iff.mpr hendless]
    exact le_top
  · rw [endAfter, endAfter, if_neg hendless, if_neg fun h => hendless (h.mono hle)]
    split
    · next hshort =>
        split
        · have hceil := Duration.ceilSeconds_mono hle
          exact WithTop.coe_le_coe.mpr (by omega)
        -- a distance is at most thirty days, also when it is rounded up
        · next hlong =>
            have hfar := maxDistance_le_second now (Nat.not_le.mp hlong)
            have hceil := ceilSeconds_le_maxDistance hshort
            exact WithTop.coe_le_coe.mpr (by omega)
    · next hlong =>
        rw [if_neg fun hshort => hlong (Nat.le_trans hle hshort)]
        apply WithTop.coe_le_coe.mpr
        exact WallTime.second_mono (Int.add_le_add_left (Int.ofNat_le.mpr hle) now)

/-- **A length of time means what was asked.** At any moment of the calendar `Expiration.encodeAt`
    has a number for it. The end that a server reads there and then, `Expiration.endOf`, is no
    earlier than the second in which the time is over, and no later than the seconds that cover it
    (`Duration.ceilSeconds`). There is no end just if the time is `Duration.longest`, or if it is
    longer than `Expiration.maxRelative` and the second in which it is over does not fit in 32 bits.
    And a longer time has no earlier end. -/
theorem after_ends_as_asked (now : WallTime) (d : Duration) (hnow : 0 ≤ now) (hd : d ≠ 0) :
    ∃ n, encodeAt now (.after d) = .ok n ∧
      (WallTime.second (now + d) : WithTop Int) ≤ endOf now n ∧
      (endOf now n ≠ ⊤ → endOf now n ≤ ((now.second + d.ceilSeconds : Int) : WithTop Int)) ∧
      (endOf now n = ⊤ ↔ Duration.longest ≤ d ∨
        maxRelative < d ∧ (UInt32.size : Int) ≤ WallTime.second (now + d)) ∧
      ∀ d', d ≤ d' → ∃ n', encodeAt now (.after d') = .ok n' ∧ endOf now n ≤ endOf now n' := by
  have hpos : 0 < d := Nat.pos_of_ne_zero hd
  obtain ⟨n, hwritten, hread⟩ := exists_endOf_after hnow hpos
  refine ⟨n, hwritten, ?_, ?_, ?_, ?_⟩
  · rw [hread]
    exact second_le_endAfter now d
  · rw [hread, Ne, endAfter_eq_top_iff]
    exact endAfter_le
  · rw [hread, endAfter_eq_top_iff]
    exact ⟨.inr, fun h => h.elim (endless_of_longest hnow) id⟩
  · intro d' hle
    obtain ⟨n', hwritten', hread'⟩ := exists_endOf_after hnow (Nat.lt_of_lt_of_le hpos hle)
    refine ⟨n', hwritten', ?_⟩
    rw [hread, hread']
    exact endAfter_mono hle

/-- Half a second into the calendar, somewhat more than thirty days are written as a moment, and read
    as a distance that comes to the same. -/
theorem after_ends_as_asked_seam :
    encodeAt 500000000 (.after 2592000250000000) = .ok 2592000 ∧
      ((2592000 : Int) : WithTop Int) ≤ endOf 500000000 2592000 ∧
      endOf 500000000 2592000 ≤ ((2592001 : Int) : WithTop Int) := by
  have hwritten : encodeAt 500000000 (.after 2592000250000000) = .ok 2592000 := by rfl
  obtain ⟨n, hn, hearly, hlate, -⟩ :=
    after_ends_as_asked 500000000 2592000250000000 (by decide) (by decide)
  obtain rfl : 2592000 = n := Except.ok.inj (hwritten.symm.trans hn)
  exact ⟨hwritten, hearly, hlate WithTop.coe_ne_top⟩

/-! ## The end of a moment -/

/-- The second in which an item ends, as a server reads it at `now`, that is to end at a moment. In
    the first thirty days of the calendar the second of the moment is taken for a distance. -/
def endAt (now t : WallTime) : Int :=
  if maxDistance < t.second then t.second else now.second + max t.second 1

/-- **That second, `endAt`, is what a server reads.** -/
theorem exists_endOf_at (now : WallTime) (hepoch : 0 ≤ t) (hfits : t.second < UInt32.size) :
    ∃ n, encodeAt now (.at t) = .ok n ∧ endOf now n = endAt now t := by
  obtain ⟨n, hwritten, hn⟩ := exists_unixSeconds hepoch hfits
  refine ⟨n, hwritten, ?_⟩
  have hpos : 0 < n.toNat := by omega
  rw [endOf_of_pos hpos, secondOf, endAt]
  unfold maxDistance
  split
  · rw [if_neg (by omega), hn]
  · rw [if_pos (by omega), hn, max_eq_left (by omega)]

/-- A server reads the second that was asked for, or at least no end that is still to come
    (`Expiration.endOf`). -/
def Punctual (now t : WallTime) (n : UInt32) : Prop :=
  endOf now n = t.second ∨ endOf now n ≤ ((max t.second now.second : Int) : WithTop Int)

/-- The distance that a moment is taken for is always still to come. -/
theorem punctual_iff (hnow : maxDistance ≤ now.second) (hread : endOf now n = endAt now t) :
    Punctual now t n ↔ maxDistance < t.second := by
  unfold Punctual
  rw [hread, WithTop.coe_le_coe, WithTop.coe_inj, endAt]
  split
  · next hlate => exact ⟨fun _ => hlate, fun _ => .inl rfl⟩
  · next hfirst => exact ⟨fun h => by omega, fun hlate => absurd hlate hfirst⟩

/-- **A moment means what was asked, but not in the first thirty days of the calendar.** Once these
    are over `Expiration.encodeAt` has a number for every moment whose second fits in 32 bits. A
    server reads it as that second if the moment is not in those thirty days, `maxDistance`;
    otherwise it reads an end that is still to come (`Expiration.endOf`), up to thirty days away. -/
theorem at_ends_as_asked (now t : WallTime) (hnow : (maxRelative : Int) ≤ now) (hepoch : 0 ≤ t)
    (hfits : t.second < UInt32.size) :
    ∃ n, encodeAt now (.at t) = .ok n ∧
      (Punctual now t n ↔ maxDistance < t.second) ∧
      (maxDistance < t.second → endOf now n = t.second) ∧
      (t.second ≤ maxDistance →
        endOf now n = ((now.second + max t.second 1 : Int) : WithTop Int)) := by
  obtain ⟨n, hwritten, hread⟩ := exists_endOf_at now hepoch hfits
  have hlong : maxDistance ≤ now.second := WallTime.second_mono hnow
  refine ⟨n, hwritten, punctual_iff hlong hread, ?_, ?_⟩
  · intro hlate
    rw [hread, endAt, if_pos hlate]
  · intro hfirst
    rw [hread, endAt, if_neg (Int.not_lt.mpr hfirst)]

/-- A minute from the second 1700000000 is read as the second that it is. -/
theorem at_ends_as_asked_minute :
    (maxRelative : Int) ≤ 1700000000000000000 ∧
      encodeAt 1700000000000000000 (.at 1700000060000000000) = .ok 1700000060 ∧
      endOf 1700000000000000000 1700000060 = ((1700000060 : Int) : WithTop Int) := by
  have hwritten : encodeAt 1700000000000000000 (.at 1700000060000000000) = .ok 1700000060 := by rfl
  obtain ⟨n, hn, -, hlate, -⟩ := at_ends_as_asked 1700000000000000000 1700000060000000000
    (by decide) (by decide) (by decide)
  obtain rfl : 1700000060 = n := Except.ok.inj (hwritten.symm.trans hn)
  exact ⟨by decide, hwritten, hlate (by decide)⟩

/-- So not every moment is `Punctual`: an item that is to end ten seconds into the calendar is kept
    for another ten seconds. -/
theorem early_moment_lives_on :
    ¬ ∀ now t : WallTime, (maxRelative : Int) ≤ now → 0 ≤ t → t.second < UInt32.size →
      ∃ n, encodeAt now (.at t) = .ok n ∧ Punctual now t n := by
  intro hclaim
  obtain ⟨n, hwritten, hpunctual⟩ :=
    hclaim 1700000000000000000 10000000000 (by decide) (by decide) (by decide)
  obtain ⟨n', hwritten', hread⟩ :=
    exists_endOf_at (t := 10000000000) 1700000000000000000 (by decide) (by decide)
  obtain rfl : n = n' := Except.ok.inj (hwritten.symm.trans hwritten')
  exact absurd ((punctual_iff (by decide) hread).mp hpunctual) (by decide)

end Expiration

end Memcache
