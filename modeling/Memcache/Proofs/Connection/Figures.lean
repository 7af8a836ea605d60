import Mathlib
import Memcache.Proofs.Connection.Closing
import Memcache.Proofs.Connection.Stream
import Memcache.Proofs.Table.Writes

/-!
# `Memcache.Proofs.Connection.Figures` — the answer to a request for statistics

A server answers `Command.stats` with a packet for each figure and one without a name that ends
them. `Command.handleStat` collects the figures in `Reply.stats` packet by packet, and the command
knows only at the end whether the answer was whole. It succeeds on whole answers (`StatAnswer`) and
on no others: a packet that reports an error ends the answer with that error, one that is not of
this answer is refused, and without the last packet the command goes on waiting.

## Contents

* `Packet.IsStat`, `StatAnswer` — **a whole answer**, and the packets that it names figures by;
* `Exchange.take_isStat`, `Exchange.take_of_not_isStat` — one packet;
* `Exchange.scan_stats` — **the command succeeds on whole answers, with their figures, and on no
  others**.
-/

namespace Memcache

/-! ## Whole answers -/

namespace Packet

/-- A packet that tells a figure, or that there are no more: it answers the `Command.stats` with the
    tag `base`, and reports no error. -/
structure IsStat (base : UInt32) (p : Packet) : Prop where
  opcode : p.opcode = Opcode.stat
  tag : p.tag = base
  status : p.status = 0

/-- The figure of a packet, its `value`, under its `key`. -/
def figure (p : Packet) : String × String :=
  (Text.decodeLossy p.key, Text.decodeLossy p.value)

end Packet

/-- **A whole answer to a `Command.stats`**: the packets `named`, which name figures, then one that
    names none, and no other octet. -/
def StatAnswer (base : UInt32) (bs : Bytes) (named : List Packet) : Prop :=
  ∃ last, Decoder.responses.drain bs = ⟨named ++ [last], [], none⟩ ∧
    (∀ p ∈ named, p.IsStat base ∧ p.key ≠ []) ∧ last.IsStat base ∧ last.key = []

namespace StatAnswer

variable {base : UInt32} {bs : Bytes} {named : List Packet} {p : Packet} {n : Nat}

theorem not_of_error {e : ParseError} (hparse : Decoder.responses.parse bs = .error e) :
    ¬ StatAnswer base bs named := by
  rintro ⟨last, hdrain, -⟩
  rw [Decoder.drain_of_error hparse] at hdrain
  have hpackets : [] = named ++ [last] := congrArg Decoder.Drained.packets hdrain
  exact List.cons_ne_nil _ _ (List.append_eq_nil_iff.mp hpackets.symm).2

theorem not_of_none (hparse : Decoder.responses.parse bs = .ok none) :
    ¬ StatAnswer base bs named := by
  rintro ⟨last, hdrain, -⟩
  rw [Decoder.drain_of_none hparse] at hdrain
  have hpackets : [] = named ++ [last] := congrArg Decoder.Drained.packets hdrain
  exact List.cons_ne_nil _ _ (List.append_eq_nil_iff.mp hpackets.symm).2

/-- A whole answer packet by packet. -/
theorem iff_of_packet (hparse : Decoder.responses.parse bs = .ok (some (p, n))) :
    StatAnswer base bs named ↔ p.IsStat base ∧
      (p.key = [] ∧ named = [] ∧ bs.drop n = [] ∨
        p.key ≠ [] ∧ ∃ later, named = p :: later ∧ StatAnswer base (bs.drop n) later) := by
  unfold StatAnswer
  rw [Decoder.drain_of_packet hparse]
  constructor
  · rintro ⟨last, hdrain, hnamed, hlast, hnone⟩
    obtain ⟨hpackets, hrest, herror⟩ := Decoder.Drained.mk.inj hdrain
    cases named with
    | nil =>
        obtain ⟨rfl, hnothing⟩ := List.cons.inj hpackets
        exact ⟨hlast, .inl ⟨hnone, rfl, Decoder.eq_nil_of_drain hnothing hrest⟩⟩
    | cons first later =>
        obtain ⟨rfl, hlater⟩ : p = first ∧ _ = later ++ [last] := List.cons.inj hpackets
        obtain ⟨hfirst, hname⟩ := hnamed p List.mem_cons_self
        refine ⟨hfirst, .inr ⟨hname, later, rfl, last, ?_, ?_, hlast, hnone⟩⟩
        · rw [← hlater, ← hrest, ← herror]
        · exact fun q hq => hnamed q (List.mem_cons_of_mem _ hq)
  · rintro ⟨hfirst, ⟨hnone, rfl, hrest⟩ | ⟨hname, later, rfl, last, hdrain, hnamed, hlast, hnone⟩⟩
    · rw [hrest, Decoder.drain_of_none rfl]
      exact ⟨p, rfl, fun q hq => absurd hq List.not_mem_nil, hfirst, hnone⟩
    · rw [hdrain]
      refine ⟨last, rfl, fun q hq => ?_, hlast, hnone⟩
      rcases List.mem_cons.mp hq with rfl | hlater
      · exact ⟨hfirst, hname⟩
      · exact hnamed q hlater

end StatAnswer

/-! ## Packet by packet -/

namespace Exchange

variable {x : Exchange} {filter : Option String} {p : Packet} {bs : Bytes}

/-- A figure is collected in `Reply.stats`, and the end is the end. -/
theorem take_isStat (hcommand : x.command = .stats filter) (h : p.IsStat x.base) :
    x.take p =
      if p.key = [] then ({ x with reply := x.reply.complete }, .ok .done)
      else
        ({ x with reply := { x.reply with
            stats := x.reply.stats.insert p.figure.1 p.figure.2 } }, .ok .more) := by
  have hplace : p.tag - x.base = 0 := by rw [h.tag, UInt32.sub_self]
  have hspan : ¬ Command.span (.stats filter) ≤ 0 := (by decide : ¬ (1 : UInt32) ≤ 0)
  unfold take
  rw [hcommand, hplace]
  unfold Command.handle Command.expecting Command.handleStat
  dsimp only
  rw [if_neg hspan, if_pos h.opcode, h.status, if_neg (by decide)]
  by_cases hkey : p.key = []
  · rw [if_pos hkey, if_pos (List.isEmpty_iff.mpr hkey)]
  · rw [if_neg hkey, if_neg (mt List.isEmpty_iff.mp hkey)]
    rfl

/-- Any other packet is refused, or ends the answer with the error that it reports. -/
theorem take_of_not_isStat (hcommand : x.command = .stats filter) (h : ¬ p.IsStat x.base) :
    (∃ e, (x.take p).2 = .error e) ∨
      (x.take p).2 = .ok .done ∧ (x.take p).1.reply.status.isOk = false := by
  unfold take
  rw [hcommand]
  dsimp only
  by_cases hspan : Command.span (.stats filter) ≤ p.tag - x.base
  · rw [if_pos hspan]
    exact .inl ⟨_, rfl⟩
  · -- the request has one tag, so the packet is of its answer
    have htag : p.tag = x.base := by
      have hzero : p.tag - x.base = 0 := by
        have hlt : (p.tag - x.base).toNat < 1 := UInt32.lt_iff_toNat_lt.mp (UInt32.not_le.mp hspan)
        exact UInt32.toNat_inj.mp (Nat.lt_one_iff.mp hlt)
      rw [← UInt32.sub_add_cancel p.tag x.base, hzero, UInt32.zero_add]
    rw [if_neg hspan]
    unfold Command.handle Command.expecting Command.handleStat
    dsimp only
    by_cases hopcode : p.opcode = Opcode.stat
    · have hstatus : p.status ≠ 0 := fun hzero => h ⟨hopcode, htag, hzero⟩
      have hfailed : (Status.ofWire p.status).isOk = false :=
        Bool.eq_false_iff.mpr (mt (Status.isOk_ofWire _).mp hstatus)
      rw [if_pos hopcode, if_pos hstatus]
      refine .inr ⟨rfl, ?_⟩
      unfold Reply.absorb
      dsimp only
      rw [hfailed, if_neg Bool.false_ne_true]
      exact hfailed
    · rw [if_neg hopcode]
      exact .inl ⟨_, rfl⟩

/-! ## The whole answer -/

/-- **The command succeeds on a `StatAnswer`, with its figures, and on no other octets.** -/
theorem scan_stats (hcommand : x.command = .stats filter) {table : Table String String} :
    ((x.scan bs).2.2 = .ended (.ok ()) ∧ (x.scan bs).1.reply.status.isOk = true ∧
        (x.scan bs).1.reply.stats = table) ↔
      ∃ named, StatAnswer x.base bs named ∧
        table = Table.write (named.map Packet.figure) x.reply.stats := by
  induction bs using Decoder.drain.induct Decoder.responses generalizing x with
  | case1 bs e hparse =>
      rw [scan_of_error hparse]
      constructor
      · rintro ⟨hended, -⟩
        cases hended
      · rintro ⟨named, hanswer, -⟩
        exact absurd hanswer (StatAnswer.not_of_error hparse)
  | case2 bs hparse =>
      rw [scan_of_none hparse]
      constructor
      · rintro ⟨hended, -⟩
        cases hended
      · rintro ⟨named, hanswer, -⟩
        exact absurd hanswer (StatAnswer.not_of_none hparse)
  | case3 bs p n hparse ih =>
      rw [scan_of_packet hparse]
      simp only [StatAnswer.iff_of_packet hparse]
      by_cases hstat : p.IsStat x.base
      · rw [take_isStat hcommand hstat]
        by_cases hkey : p.key = []
        · -- the last packet: the answer is whole if nothing is behind it
          rw [if_pos hkey]
          dsimp only
          constructor
          · rintro ⟨hended, -, rfl⟩
            have hrest : bs.drop n = [] := by
              by_contra hmore
              rw [if_neg fun hlength => hmore (List.eq_nil_of_length_eq_zero hlength)] at hended
              cases hended
            exact ⟨[], ⟨hstat, .inl ⟨hkey, rfl, hrest⟩⟩, rfl⟩
          · rintro ⟨named, ⟨-, ⟨-, rfl, hrest⟩ | ⟨hname, -⟩⟩, rfl⟩
            · rw [hrest]
              exact ⟨rfl, rfl, rfl⟩
            · exact absurd hkey hname
        · -- a figure: the rest is the answer to a request that has this figure already
          let y : Exchange := { x with reply := { x.reply with
            stats := x.reply.stats.insert p.figure.1 p.figure.2 } }
          have hy : y.command = .stats filter := hcommand
          rw [if_neg hkey]
          refine (ih hy).trans ⟨?_, ?_⟩
          · rintro ⟨later, hlater, htable⟩
            exact ⟨p :: later, ⟨hstat, .inr ⟨hkey, later, rfl, hlater⟩⟩, htable⟩
          · rintro ⟨named, ⟨-, ⟨hnone, -⟩ | ⟨-, later, rfl, hlater⟩⟩, htable⟩
            · exact absurd hnone hkey
            · exact ⟨later, hlater, htable⟩
      · -- no whole answer begins with this packet
        have hnone : ¬ ∃ named, (p.IsStat x.base ∧
            (p.key = [] ∧ named = [] ∧ bs.drop n = [] ∨
              p.key ≠ [] ∧ ∃ later, named = p :: later ∧
                StatAnswer x.base (bs.drop n) later)) ∧
            table = Table.write (named.map Packet.figure) x.reply.stats := by
          rintro ⟨named, ⟨hfirst, -⟩, -⟩
          exact hstat hfirst
        refine iff_of_false ?_ hnone
        rcases take_of_not_isStat hcommand hstat with ⟨e, herror⟩ | ⟨hdone, hfailed⟩
        · rw [herror]
          rintro ⟨hended, -⟩
          cases hended
        · rw [hdone]
          rintro ⟨-, hisOk, -⟩
          rw [hfailed] at hisOk
          cases hisOk

end Exchange

end Memcache
