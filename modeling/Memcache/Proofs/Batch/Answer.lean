import Mathlib
import Memcache.Proofs.Node.Course
import Memcache.Proofs.Table.Writes
import Memcache.Proofs.Text.Lossy
import Memcache.Proofs.Wire.RoundTrip

/-!
# `Memcache.Proofs.Batch.Answer` — a server's answer to its share of a batched read

A server answers a `Command.multiGet` with one packet for each key that it has, in any order, and
with a no-op that closes the answer (`Batch.answer`). Each `Hit.packet` repeats the tag of its quiet
read and names its key, and so `Command.handle` enters it in `Reply.found` under that key whatever
came before it. A hit may be too large for the `Decoder`, or the share too large for the tags, and
then the command fails; otherwise it succeeds with all the hits and no sooner than with the no-op.

## Contents

* `Hit`, `Hit.packet`, `Batch.answer`, `Batch.Proper` — answers as the protocol has them;
* `Exchange.scan_answer` — **the answer gives all hits, or the command fails**;
* `Served.found_of_success` — **a share that was read was answered as a whole**;
* `Served.success_of_answer` — **a share that was answered within the limits was read**.
-/

namespace Memcache

/-! ## Answers as the protocol has them -/

/-- A key that a server has: its `place` in the share, its `item`, and the version token `cas`. -/
structure Hit where
  place : Nat
  item : Item
  cas : UInt64
  deriving DecidableEq, Repr

namespace Hit

/-- The key of the share that is at the `place` of the hit. -/
def key (share : List String) (hit : Hit) : String :=
  share[hit.place]?.getD ""

/-- The packet that reports a hit to a read whose first tag is `base`. -/
def packet (share : List String) (base : UInt32) (hit : Hit) : Packet where
  magic := Magic.response
  opcode := Opcode.getKeyQuiet
  tag := base + UInt32.ofNat hit.place
  cas := hit.cas
  extras := be 4 hit.item.flags.toNat
  key := Text.encode (hit.key share)
  value := hit.item.data

/-- The octets that follow the header of `Hit.packet`. -/
def size (share : List String) (hit : Hit) : Nat :=
  4 + (Text.encode (hit.key share)).length + hit.item.data.length

theorem bodyLength_packet (share : List String) (base : UInt32) (hit : Hit) :
    (hit.packet share base).bodyLength = hit.size share := by
  rw [Packet.bodyLength, packet, length_be]
  rfl

/-- What a hit enters in `Reply.found`. -/
def entry (share : List String) (hit : Hit) : String × Versioned Item :=
  (hit.key share, ⟨hit.item, hit.cas⟩)

end Hit

namespace Batch

/-- The no-op that closes an answer to a read whose first tag is `base`. -/
def closing (share : List String) (base : UInt32) : Packet where
  magic := Magic.response
  opcode := Opcode.noop
  tag := base + UInt32.ofNat share.length

/-- The octets of an answer: each `Hit.packet`, and `Batch.closing`. -/
def answer (share : List String) (base : UInt32) (hits : List Hit) : Bytes :=
  hits.flatMap (fun hit => (hit.packet share base).encode) ++ (closing share base).encode

/-- Hits as a server may report them: for each key at most one, and none whose `Hit.size` is more
    than a header can tell. -/
structure Proper (share : List String) (hits : List Hit) : Prop where
  nodup : (hits.map (·.place)).Nodup
  place_lt : ∀ hit ∈ hits, hit.place < share.length
  size_lt : ∀ hit ∈ hits, hit.size share < 2 ^ 32

/-- The share has a tag for each of its packets, and no `Hit.size` is more than
    `Decoder.maxBody`. -/
structure Moderate (share : List String) (hits : List Hit) : Prop where
  length_lt : share.length + 1 < 2 ^ 32
  size_le : ∀ hit ∈ hits, hit.size share ≤ Decoder.responses.maxBody

end Batch

/-! ## Packet by packet -/

namespace Exchange

variable {x : Exchange} {share : List String} {hit : Hit}

/-- A hit is found under its key, if `Command.span` reaches as far. -/
theorem take_hit (hcommand : x.command = .multiGet share)
    (hkey : Text.encode (hit.key share) ≠ []) :
    x.take (hit.packet share x.base) =
      if x.command.span ≤ UInt32.ofNat hit.place then
        (x, .error (.unexpectedTag x.base (x.base + UInt32.ofNat hit.place)))
      else
        ({ x with reply := { x.reply with
            found := x.reply.found.insert (hit.key share) ⟨hit.item, hit.cas⟩ } }, .ok .more) := by
  have hplace : (hit.packet share x.base).tag - x.base = UInt32.ofNat hit.place := by
    show x.base + UInt32.ofNat hit.place - x.base = _
    rw [UInt32.add_comm, UInt32.add_sub_cancel]
  have hresolve : Command.resolveKey share
      { hit.packet share x.base with tag := UInt32.ofNat hit.place } = some (hit.key share) := by
    have hname : ¬ (Text.encode (hit.key share)).isEmpty = true := by rwa [List.isEmpty_iff]
    exact (if_neg hname).trans (congrArg some (Text.decodeLossy_encode _))
  unfold take
  rw [hplace]
  by_cases hspan : x.command.span ≤ UInt32.ofNat hit.place
  · rw [if_pos hspan, if_pos hspan]
    rfl
  · have hhandle : x.command.handle x.reply
        { hit.packet share x.base with tag := UInt32.ofNat hit.place } =
        ({ x.reply with found := x.reply.found.insert (hit.key share) ⟨hit.item, hit.cas⟩ },
          .ok .more) := by
      rw [hcommand]
      unfold Command.handle Command.handleBatch
      dsimp only
      rw [hresolve]
      dsimp only [Hit.packet]
      rw [read32_of_be]
      rfl
    rw [if_neg hspan, if_neg hspan, hhandle]

/-- The no-op `Batch.closing` completes the read. -/
theorem take_closing (hcommand : x.command = .multiGet share) :
    x.take (Batch.closing share x.base) =
      if x.command.span ≤ UInt32.ofNat share.length then
        (x, .error (.unexpectedTag x.base (x.base + UInt32.ofNat share.length)))
      else ({ x with reply := x.reply.complete }, .ok .done) := by
  have hplace : (Batch.closing share x.base).tag - x.base = UInt32.ofNat share.length := by
    show x.base + UInt32.ofNat share.length - x.base = _
    rw [UInt32.add_comm, UInt32.add_sub_cancel]
  unfold take
  rw [hplace, hcommand]
  rfl

/-! ## Whole answers -/

/-- As long as the tags do not come full circle `Command.span` reaches as far as the share. -/
theorem not_span_le {place : Nat} (hlength : share.length + 1 < 2 ^ 32)
    (hplace : place ≤ share.length) :
    ¬ (Command.multiGet share).span ≤ UInt32.ofNat place := by
  have hspan : (Command.multiGet share).span.toNat = share.length + 1 := by
    show (UInt32.ofNat share.length + 1).toNat = _
    rw [show (1 : UInt32) = UInt32.ofNat 1 from rfl, ← UInt32.ofNat_add,
      UInt32.toNat_ofNat_of_lt' hlength]
  rw [UInt32.le_iff_toNat_le, hspan, UInt32.toNat_ofNat_of_lt' (Nat.lt_of_le_of_lt hplace
    (Nat.lt_of_succ_lt hlength))]
  omega

/-- A `Hit.packet` is taken in, whatever follows it, or the command fails, which it does only beyond
    the limits of `Batch.Moderate`. -/
theorem scan_hit (rest : Bytes) (hcommand : x.command = .multiGet share)
    (hkeys : ∀ key ∈ share, Key.validate key = .ok ()) (hplace : hit.place < share.length)
    (hsize : hit.size share < 2 ^ 32) :
    (¬ (share.length + 1 < 2 ^ 32 ∧ hit.size share ≤ Decoder.responses.maxBody) ∧
        ∃ e, (x.scan ((hit.packet share x.base).encode ++ rest)).2.2 =
          .ended (.error (.parse e))) ∨
      x.scan ((hit.packet share x.base).encode ++ rest) =
        scan { x with reply := { x.reply with
          found := x.reply.found.insert (hit.key share) ⟨hit.item, hit.cas⟩ } } rest := by
  have hvalid : Key.validate (hit.key share) = .ok () := by
    unfold Hit.key
    rw [List.getElem?_eq_getElem hplace]
    exact hkeys _ (List.getElem_mem hplace)
  have hshort : (hit.packet share x.base).key.length < 2 ^ 16 :=
    Nat.lt_of_le_of_lt (Key.length_le_of_validate hvalid) (by decide)
  have hextras : (hit.packet share x.base).extras.length < 2 ^ 8 := by
    show (be 4 _).length < _
    rw [length_be]
    decide
  have hlength := Hit.bodyLength_packet share x.base hit
  rw [← hlength] at hsize ⊢
  by_cases hmax : (hit.packet share x.base).bodyLength ≤ Decoder.responses.maxBody
  · rw [scan_of_packet (Decoder.parse_encode_of_lt rest rfl hmax hsize hshort hextras),
      List.drop_left, take_hit hcommand (Key.encode_ne_nil_of_validate hvalid)]
    by_cases hspan : x.command.span ≤ UInt32.ofNat hit.place
    · rw [if_pos hspan]
      refine .inl ⟨?_, _, rfl⟩
      rintro ⟨hfits, -⟩
      rw [hcommand] at hspan
      exact not_span_le hfits (Nat.le_of_lt hplace) hspan
    · rw [if_neg hspan]
      exact .inr rfl
  -- a hit that is too large is refused by its header
  · rw [Nat.not_le] at hmax
    rw [scan_of_error (Decoder.parse_encode_of_too_large rest rfl hmax hsize)]
    refine .inl ⟨?_, _, rfl⟩
    rintro ⟨-, hle⟩
    exact Nat.not_le.mpr hmax hle

/-- The no-op ends the read, or the command fails because its tags have come full circle. -/
theorem scan_closing (hcommand : x.command = .multiGet share) :
    (¬ share.length + 1 < 2 ^ 32 ∧
        ∃ e, (x.scan (Batch.closing share x.base).encode).2.2 = .ended (.error (.parse e))) ∨
      x.scan (Batch.closing share x.base).encode =
        ({ x with reply := x.reply.complete }, [], .ended (.ok ())) := by
  have hparse := Decoder.parse_encode_of_lt (d := Decoder.responses)
    (p := Batch.closing share x.base) [] rfl (Nat.zero_le _) (Nat.two_pow_pos 32)
    (Nat.two_pow_pos 16) (Nat.two_pow_pos 8)
  rw [List.append_nil] at hparse
  rw [scan_of_packet hparse, List.drop_length, take_closing hcommand]
  by_cases hspan : x.command.span ≤ UInt32.ofNat share.length
  · rw [if_pos hspan]
    refine .inl ⟨fun hfits => ?_, _, rfl⟩
    rw [hcommand] at hspan
    exact not_span_le hfits (Nat.le_refl _) hspan
  · rw [if_neg hspan]
    exact .inr rfl

/-- **The answer gives all hits, or the command fails**, which it does only if the hits are not
    `Batch.Moderate`. -/
theorem scan_answer {hits : List Hit} (hcommand : x.command = .multiGet share)
    (hkeys : ∀ key ∈ share, Key.validate key = .ok ())
    (hplaces : ∀ hit ∈ hits, hit.place < share.length)
    (hsizes : ∀ hit ∈ hits, hit.size share < 2 ^ 32) :
    (¬ Batch.Moderate share hits ∧
        ∃ e, (x.scan (Batch.answer share x.base hits)).2.2 = .ended (.error (.parse e))) ∨
      x.scan (Batch.answer share x.base hits) =
        ({ x with reply := { x.reply with
            status? := some .ok
            found := x.reply.found.write (hits.map (Hit.entry share)) } }, [], .ended (.ok ())) := by
  induction hits generalizing x with
  | nil =>
      rcases scan_closing hcommand with ⟨hbeyond, herror⟩ | hscan
      · exact .inl ⟨fun hmoderate => hbeyond hmoderate.length_lt, herror⟩
      · exact .inr hscan
  | cons hit hits ih =>
      have hanswer : Batch.answer share x.base (hit :: hits) =
          (hit.packet share x.base).encode ++ Batch.answer share x.base hits := by
        rw [Batch.answer, List.flatMap_cons, List.append_assoc]
        rfl
      rw [hanswer]
      rcases scan_hit (Batch.answer share x.base hits) hcommand hkeys
          (hplaces hit List.mem_cons_self) (hsizes hit List.mem_cons_self) with
        ⟨hbeyond, herror⟩ | hscan
      · refine .inl ⟨fun hmoderate => hbeyond ?_, herror⟩
        exact ⟨hmoderate.length_lt, hmoderate.size_le hit List.mem_cons_self⟩
      · rw [hscan]
        rcases ih (x := { x with reply := { x.reply with
            found := x.reply.found.insert (hit.key share) ⟨hit.item, hit.cas⟩ } }) hcommand
            (fun hit hmem => hplaces hit (List.mem_cons_of_mem _ hmem))
            (fun hit hmem => hsizes hit (List.mem_cons_of_mem _ hmem)) with
          ⟨hbeyond, herror⟩ | hrest
        · refine .inl ⟨fun hmoderate => hbeyond ⟨hmoderate.length_lt, ?_⟩, herror⟩
          exact fun hit hmem => hmoderate.size_le hit (List.mem_cons_of_mem _ hmem)
        · exact .inr hrest

end Exchange

/-- A `Command.multiGet` that has been answered to the end. -/
def Batch.gathered (share : List String) (base : UInt32) (hits : List Hit) : Exchange :=
  { (Command.multiGet share).exchange base with
    reply := { status? := some .ok, found := Table.write (hits.map (Hit.entry share)) [] } }

namespace Command

variable {share : List String} {hits : List Hit}

/-- The same of a read that has just been sent, `Command.exchange`. -/
theorem scan_answer (base : UInt32) (hkeys : ∀ key ∈ share, Key.validate key = .ok ())
    (hproper : Batch.Proper share hits) :
    (¬ Batch.Moderate share hits ∧
        ∃ e, (((multiGet share).exchange base).scan (Batch.answer share base hits)).2.2 =
          .ended (.error (.parse e))) ∨
      ((multiGet share).exchange base).scan (Batch.answer share base hits) =
        (Batch.gathered share base hits, [], .ended (.ok ())) :=
  Exchange.scan_answer (x := (multiGet share).exchange base) rfl hkeys hproper.place_lt
    hproper.size_lt

/-- Within the limits of `Batch.Moderate`, the answer gives all hits. -/
theorem scan_answer_of_moderate (base : UInt32) (hkeys : ∀ key ∈ share, Key.validate key = .ok ())
    (hproper : Batch.Proper share hits) (hmoderate : Batch.Moderate share hits) :
    ((multiGet share).exchange base).scan (Batch.answer share base hits) =
      (Batch.gathered share base hits, [], .ended (.ok ())) :=
  (scan_answer base hkeys hproper).resolve_left fun hbeyond => hbeyond.1 hmoderate

end Command

/-! ## What became of a share -/

namespace Served

variable {share : List String} {sent : List (Nat × Bytes)} {heard : Bytes}
  {outcome : Outcome Unit} {reply : Reply} {link : Nat} {base : UInt32} {hits : List Hit}

/-- **A share that was read was answered as a whole**, and `Reply.found` is what the server
    reported. -/
theorem found_of_success (h : Served (.multiGet share) sent heard outcome reply)
    (hsuccess : outcome.success = true)
    (hsent : sent = [(link, (Command.multiGet share).encode base)])
    (hkeys : ∀ key ∈ share, Key.validate key = .ok ()) (hproper : Batch.Proper share hits)
    (hheard : heard <+: Batch.answer share base hits) :
    heard = Batch.answer share base hits ∧
      reply.found = Table.write (hits.map (Hit.entry share)) [] := by
  cases h with
  | unsent _ _ hfailed =>
      rw [hfailed] at hsuccess
      cases hsuccess
  | failed _ _ _ _ hfailed =>
      rw [hfailed] at hsuccess
      cases hsuccess
  | answered link' base' hsent' hscan hreply _ =>
      rw [hsent] at hsent'
      obtain rfl := Command.base_eq_of_sent hsent'
      obtain ⟨more, hmore⟩ := hheard
      have hanswer := Command.scan_answer base hkeys hproper
      by_cases hall : more = []
      · rw [hall, List.append_nil] at hmore
        refine ⟨hmore, ?_⟩
        rw [← hmore] at hanswer
        rcases hanswer with ⟨-, e, herror⟩ | hread
        · rw [hscan] at herror
          cases herror
        · rw [hreply, hread]
          rfl
      -- a command that has succeeded cannot have more of its answer to come
      · have htrailing := Exchange.scan_append_of_done hall hscan
        rw [hmore] at htrailing
        rcases hanswer with ⟨-, e, herror⟩ | hread
        · rw [herror] at htrailing
          cases htrailing
        · rw [hread] at htrailing
          cases htrailing

/-- **A share that was answered within the limits of `Batch.Moderate` was read.** -/
theorem success_of_answer (h : Served (.multiGet share) sent heard outcome reply)
    (hsent : sent = [(link, (Command.multiGet share).encode base)])
    (hkeys : ∀ key ∈ share, Key.validate key = .ok ()) (hproper : Batch.Proper share hits)
    (hmoderate : Batch.Moderate share hits) (hheard : heard = Batch.answer share base hits) :
    outcome.success = true := by
  have hread := Command.scan_answer_of_moderate base hkeys hproper hmoderate
  rw [← hheard] at hread
  obtain ⟨hreply, houtcome⟩ := h.of_scan hsent (by rw [hread])
  rw [houtcome, hreply, hread]
  rfl

end Served

end Memcache
