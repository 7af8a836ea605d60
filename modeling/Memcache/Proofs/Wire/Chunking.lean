import Mathlib
import Memcache.Wire.Decoder

/-!
# `Memcache.Proofs.Wire.Chunking` — decoding does not depend on how octets arrive

A reader appends each piece of a stream to one buffer and then takes packets off the front
(`Decoder.drain`) until an attempt yields none. Where the pieces are cut makes no difference,
because `Decoder.parse` never goes back on an answer: what it says of some octets, a packet or a
`ParseError`, it says of these octets with any others behind them. Only that octets are missing is
said for the time being, and then the buffer is small.

## Contents

* `Decoder.parse_append` — **an answer that was given stands**;
* `Decoder.drain_append` — a search that goes on is a search begun later;
* `Drained.receive`, `Decoder.intake` — the pieces of a stream, one after another;
* `Decoder.intake_eq_of_flatten_eq` — **all ways of cutting a stream come to the same**.
-/

namespace Memcache

namespace Decoder

variable {d : Decoder} {buf more : Bytes}

/-! ## Answers that stand -/

/-- A `field` that is there does not change when octets come behind it. -/
theorem field_append {start width : Nat} (more : Bytes) (h : start + width ≤ buf.length) :
    field (buf ++ more) start width = field buf start width := by
  rw [← field_take (buf ++ more) h, List.take_left]

/-- Nor does a packet of `assemble` that is there. -/
theorem assemble_append {extras key size : Nat} (more : Bytes)
    (h : Packet.headerLength + size ≤ buf.length) :
    assemble (buf ++ more) extras key size = assemble buf extras key size := by
  have hbody : ((buf ++ more).drop Packet.headerLength).take size =
      (buf.drop Packet.headerLength).take size := by
    rw [List.drop_append_of_le_length (by omega), List.take_append_of_le_length]
    rw [List.length_drop]
    omega
  have hheader : 24 ≤ buf.length := Nat.le_trans (Nat.le_add_right 24 size) h
  unfold assemble
  rw [hbody, field_append more (by omega), field_append more (by omega),
    field_append more (by omega), field_append more (by omega), field_append more (by omega),
    field_append more (by omega)]

/-- More octets do not make a list shorter. -/
theorem shorterThan_append {n : Nat} (more : Bytes) (h : ¬ shorterThan buf n = true) :
    ¬ shorterThan (buf ++ more) n = true := by
  rw [shorterThan_iff] at h ⊢
  rw [List.length_append]
  omega

/-- **An answer that was given stands.** Unless octets are missing, `parse` says the same of some
    octets with any others behind them. -/
theorem parse_append (more : Bytes) (h : d.parse buf ≠ .ok none) :
    d.parse (buf ++ more) = d.parse buf := by
  cases buf with
  | nil => exact absurd rfl h
  | cons first rest =>
      unfold parse at h ⊢
      rw [List.cons_append]
      dsimp only at h ⊢
      rw [← List.cons_append]
      by_cases haccepts : d.accepts first = true
      · rw [haccepts] at h ⊢
        simp only [Bool.not_true, Bool.false_eq_true, if_false] at h ⊢
        by_cases hheader : shorterThan (first :: rest) Packet.headerLength = true
        · rw [if_pos hheader] at h
          exact absurd rfl h
        · -- the header is there, so its fields are what they were
          have hlength : 24 ≤ (first :: rest).length :=
            Nat.le_of_not_lt (mt (shorterThan_iff ..).mpr hheader)
          rw [if_neg hheader] at h ⊢
          rw [if_neg (shorterThan_append more hheader), field_append more (by omega),
            field_append more (by omega), field_append more (by omega)]
          split
          · rfl
          · split
            · rfl
            · next hmax hlayout =>
                rw [if_neg hmax, if_neg hlayout] at h
                by_cases hwhole : shorterThan (first :: rest)
                    (Packet.headerLength + field (first :: rest) 8 4) = true
                · rw [if_pos hwhole] at h
                  exact absurd rfl h
                · have hsize := Nat.le_of_not_lt (mt (shorterThan_iff ..).mpr hwhole)
                  rw [if_neg hwhole, if_neg (shorterThan_append more hwhole),
                    assemble_append more hsize]
      · rw [eq_false_of_ne_true haccepts]
        rfl

/-- A packet that `parse` has found stays the first, and what comes later is behind it. -/
theorem parse_append_of_packet {p : Packet} {n : Nat} (more : Bytes)
    (h : d.parse buf = .ok (some (p, n))) :
    d.parse (buf ++ more) = .ok (some (p, n)) ∧ (buf ++ more).drop n = buf.drop n ++ more := by
  constructor
  · rw [parse_append more (by rw [h]; nofun), h]
  · exact List.drop_append_of_le_length (parse_bounds h).2

/-- While `parse` finds octets missing there are fewer than a header and `maxBody` have. -/
theorem length_lt_of_parse_none (h : d.parse buf = .ok none) :
    buf.length < Packet.headerLength + d.maxBody := by
  have hpos : 0 < Packet.headerLength := by decide
  unfold parse at h
  split at h
  · rw [List.length_nil]
    omega
  · dsimp only at h
    split at h
    · contradiction
    · split at h
      · next hheader =>
          rw [shorterThan_iff] at hheader
          omega
      · split at h
        · contradiction
        · split at h
          · contradiction
          · split at h
            · next hmax _ hwhole =>
                rw [shorterThan_iff] at hwhole
                omega
            · cases h

/-! ## One search -/

theorem drain_of_error {e : ParseError} (h : d.parse buf = .error e) :
    d.drain buf = ⟨[], buf, some e⟩ := by
  rw [drain]
  split <;> simp_all

theorem drain_of_none (h : d.parse buf = .ok none) : d.drain buf = ⟨[], buf, none⟩ := by
  rw [drain]
  split <;> simp_all

theorem drain_of_packet {p : Packet} {n : Nat} (h : d.parse buf = .ok (some (p, n))) :
    d.drain buf = ⟨p :: (d.drain (buf.drop n)).packets, (d.drain (buf.drop n)).rest,
      (d.drain (buf.drop n)).error?⟩ := by
  rw [drain]
  split
  · simp_all
  · simp_all
  · next hparse =>
      obtain ⟨rfl, rfl⟩ : _ ∧ _ := by simpa [hparse] using h
      rfl

/-- Octets in which `drain` finds nothing and leaves nothing are none. -/
theorem eq_nil_of_drain (hpackets : (d.drain buf).packets = []) (hrest : (d.drain buf).rest = []) :
    buf = [] := by
  cases hparse : d.parse buf with
  | error e =>
      rw [drain_of_error hparse] at hrest
      exact hrest
  | ok found? =>
      cases found? with
      | none =>
          rw [drain_of_none hparse] at hrest
          exact hrest
      | some found =>
          rw [drain_of_packet hparse] at hpackets
          cases hpackets

/-- A search by `drain` ends with the answer that `parse` gives to what is left over. -/
theorem parse_rest (d : Decoder) (buf : Bytes) :
    d.parse (d.drain buf).rest =
      match (d.drain buf).error? with
      | some e => .error e
      | none => .ok none := by
  fun_induction drain d buf with
  | case1 buf e h => exact h
  | case2 buf h => exact h
  | case3 buf p n h later ih => exact ih

end Decoder

/-! ## Piece by piece -/

namespace Decoder.Drained

/-- Appends a piece of the stream to what is left over in `rest`, and searches again. -/
def receive (d : Decoder) (s : Drained) (chunk : Bytes) : Drained :=
  let later := d.drain (s.rest ++ chunk)
  ⟨s.packets ++ later.packets, later.rest, later.error?⟩

end Decoder.Drained

namespace Decoder

/-- Takes in a stream that arrives in pieces, by `Drained.receive`. -/
def intake (d : Decoder) (chunks : List Bytes) : Drained :=
  chunks.foldl (Drained.receive d) ⟨[], [], none⟩

/-- **A search that goes on is a search begun later.** -/
theorem drain_append (d : Decoder) (buf more : Bytes) :
    d.drain (buf ++ more) = (d.drain buf).receive d more := by
  fun_induction drain d buf with
  | case1 buf e h => rfl
  | case2 buf h => rfl
  | case3 buf p n h later ih =>
      obtain ⟨hstands, hdrop⟩ := parse_append_of_packet more h
      rw [drain_of_packet hstands, hdrop, ih]
      rfl

theorem receive_receive (d : Decoder) (s : Drained) (chunk chunk' : Bytes) :
    (s.receive d chunk).receive d chunk' = s.receive d (chunk ++ chunk') := by
  have hlater := drain_append d (s.rest ++ chunk) chunk'
  rw [List.append_assoc] at hlater
  unfold Drained.receive
  dsimp only
  rw [hlater]
  simp only [Drained.receive, List.append_assoc]

/-- Pieces that arrive one after another count as one. -/
theorem foldl_receive (d : Decoder) (s : Drained) (chunk : Bytes) (chunks : List Bytes) :
    (chunk :: chunks).foldl (Drained.receive d) s = s.receive d (chunk :: chunks).flatten := by
  induction chunks generalizing s chunk with
  | nil => rw [List.flatten_singleton, List.foldl_cons, List.foldl_nil]
  | cons chunk' chunks ih =>
      rw [List.foldl_cons, ih, receive_receive]
      rfl

/-- **A stream that arrives in pieces is searched as if it had arrived as a whole**: `intake` is
    `drain` of the pieces put together. -/
theorem intake_eq_drain (d : Decoder) {chunks : List Bytes} (hne : chunks ≠ []) :
    d.intake chunks = d.drain chunks.flatten := by
  obtain ⟨chunk, rest, rfl⟩ := List.exists_cons_of_ne_nil hne
  exact foldl_receive d ⟨[], [], none⟩ chunk rest

/-- **All ways of cutting a stream come to the same** by `intake`: the packets, the octets left over
    in `rest`, and the error or the lack of octets that the last search ended with. In the latter
    case, where `error?` is `none`, fewer octets are left over than a header and `maxBody` have. -/
theorem intake_eq_of_flatten_eq (d : Decoder) (chunks chunks' : List Bytes) (hne : chunks ≠ [])
    (hne' : chunks' ≠ []) (hstream : chunks.flatten = chunks'.flatten) :
    d.intake chunks = d.intake chunks' ∧
      ((d.intake chunks).error? = none →
        (d.intake chunks).rest.length < Packet.headerLength + d.maxBody) := by
  rw [intake_eq_drain d hne, intake_eq_drain d hne', hstream]
  refine ⟨rfl, ?_⟩
  intro hmissing
  have hrest := parse_rest d chunks'.flatten
  rw [hmissing] at hrest
  exact length_lt_of_parse_none hrest

/-- The answer to a no-op, and an octet that starts no packet. -/
def strayOctet : Bytes :=
  { magic := Magic.response, opcode := Opcode.noop : Packet }.encode ++ [0x2b]

/-- Cut inside the header and behind the packet, or not at all with more to come, the packet of
    `strayOctet` is found and the stray octet is the error. -/
theorem intake_eq_of_flatten_eq_strayOctet :
    [strayOctet.take 10, (strayOctet.drop 10).take 14, strayOctet.drop 24] ≠ [] ∧
      [strayOctet, []] ≠ [] ∧
      [strayOctet.take 10, (strayOctet.drop 10).take 14, strayOctet.drop 24].flatten =
        [strayOctet, []].flatten ∧
      responses.intake [strayOctet.take 10, (strayOctet.drop 10).take 14, strayOctet.drop 24] =
        responses.intake [strayOctet, []] ∧
      (responses.intake [strayOctet, []]).error? = some (.invalidMagic 0x2b) ∧
      (responses.intake [strayOctet, []]).rest = [0x2b] := by
  have hstream : [strayOctet.take 10, (strayOctet.drop 10).take 14, strayOctet.drop 24].flatten =
      [strayOctet, []].flatten := by decide
  refine ⟨List.cons_ne_nil _ _, List.cons_ne_nil _ _, hstream, ?_, by cbv, by cbv⟩
  exact (intake_eq_of_flatten_eq responses _ _ (List.cons_ne_nil _ _) (List.cons_ne_nil _ _)
    hstream).1

end Decoder

end Memcache
