import Mathlib
import Memcache.Connection
import Memcache.Proofs.Wire.Chunking

/-!
# `Memcache.Proofs.Connection.Stream` — an answer as one stream

An answer arrives in pieces, and after each piece `Exchange.digest` gives the command the packets
that have become complete. Where the pieces are cut makes no difference: as long as the command
waits, it stands where it would stand if everything that was heard had come at once, as
`Exchange.scan` has it. Only the end of an answer is bound to a piece, for a command that is done
must not find octets behind its answer (`ConnectionError.trailingData`).

## Contents

* `Exchange.take` — what a command makes of one packet; `Exchange.scan` — of octets;
  `Exchange.scan_of_done` — an answer of one packet;
* `Exchange.seen_digest` — **a digest depends on nothing of its buffer but the contents**;
* `Exchange.scan_append` — **a command that waits has lost nothing by the octets that came first**;
* `Exchange.scan_append_of_done` — a command that is done does not bear more octets;
* `Exchange.receive_eq_scan`, `Exchange.scan_append_eq_receive` — octets that arrive go behind those
  that did before.
-/

namespace Memcache

/-- A command as it is sent, under the tags from `base` on. -/
def Command.exchange (command : Command) (base : UInt32) : Exchange :=
  { command := command, base := base }

namespace Exchange

variable {x : Exchange} {b : ReceiveBuffer} {bs : Bytes} {p : Packet} {n : Nat}

/-! ## One packet -/

/-- What a command makes of a packet: it refuses those whose tags are not its own, and
    `Command.handle` does the rest. -/
def take (x : Exchange) (p : Packet) : Exchange × Except ParseError Progress :=
  let place := p.tag - x.base
  if x.command.span ≤ place then (x, .error (.unexpectedTag x.base p.tag))
  else
    let handled := x.command.handle x.reply { p with tag := place }
    ({ x with reply := handled.1 }, handled.2)

theorem digest_of_error {e : ParseError} (h : b.front Decoder.responses = .error e) :
    x.digest b = (x, b, .ended (.error (.parse e))) := by
  rw [digest]
  split <;> simp_all

theorem digest_of_none (h : b.front Decoder.responses = .ok none) :
    x.digest b = (x, b, .waiting) := by
  rw [digest]
  split <;> simp_all

/-- A digest is what `Exchange.take` makes of the first packet, and goes on if more packets are
    due. -/
theorem digest_of_packet (h : b.front Decoder.responses = .ok (some (p, n))) :
    x.digest b =
      match (x.take p).2 with
      | .error e => ((x.take p).1, b.use n, .ended (.error (.parse e)))
      | .ok .more => (x.take p).1.digest (b.use n)
      | .ok .done => ((x.take p).1, b.use n,
          .ended (if (b.use n).held = 0 then .ok () else .error (.trailingData (b.use n).held))) := by
  rw [digest]
  split
  · simp_all
  · simp_all
  · next p' n' hfront =>
      obtain ⟨rfl, rfl⟩ : p = p' ∧ n = n' := by simpa [hfront] using h.symm
      unfold take
      dsimp only
      split <;> rfl

/-! ## Octets without a buffer -/

/-- What a digest leaves to be seen: the exchange, the octets that were not used, and the verdict on
    the command. -/
def seen (out : Exchange × ReceiveBuffer × Verdict) : Exchange × Bytes × Verdict :=
  (out.1, out.2.1.contents, out.2.2)

/-- What a command makes of octets: `Exchange.digest` of a buffer with these. -/
def scan (x : Exchange) (bs : Bytes) : Exchange × Bytes × Verdict :=
  seen (x.digest (ReceiveBuffer.empty.push bs))

/-- Buffers with the same `ReceiveBuffer.contents` are digested alike. -/
theorem seen_digest_congr {b' : ReceiveBuffer} (hb : b.contents = bs) (hb' : b'.contents = bs) :
    seen (x.digest b) = seen (x.digest b') := by
  have hfront := ReceiveBuffer.front_eq Decoder.responses b
  have hfront' := ReceiveBuffer.front_eq Decoder.responses b'
  rw [hb] at hfront
  rw [hb'] at hfront'
  induction bs using Decoder.drain.induct Decoder.responses generalizing x b b' with
  | case1 bs e hparse =>
      rw [hparse] at hfront hfront'
      rw [digest_of_error hfront, digest_of_error hfront', seen, seen, hb, hb']
  | case2 bs hparse =>
      rw [hparse] at hfront hfront'
      rw [digest_of_none hfront, digest_of_none hfront', seen, seen, hb, hb']
  | case3 bs p n hparse ih =>
      have hrest : (b.use n).contents = bs.drop n := by rw [ReceiveBuffer.contents_use, hb]
      have hrest' : (b'.use n).contents = bs.drop n := by rw [ReceiveBuffer.contents_use, hb']
      rw [hparse] at hfront hfront'
      rw [digest_of_packet hfront, digest_of_packet hfront']
      split
      · rw [seen, seen, hrest, hrest']
      · refine ih hrest hrest' ?_ ?_
        · rw [ReceiveBuffer.front_eq, hrest]
        · rw [ReceiveBuffer.front_eq, hrest']
      · rw [seen, seen, ReceiveBuffer.held_eq, ReceiveBuffer.held_eq, hrest, hrest']

/-- **A digest depends on nothing of its buffer but `ReceiveBuffer.contents`.** -/
theorem seen_digest (x : Exchange) (b : ReceiveBuffer) :
    seen (x.digest b) = x.scan b.contents :=
  seen_digest_congr rfl (ReceiveBuffer.contents_push ..)

theorem scan_of_error {e : ParseError} (h : Decoder.responses.parse bs = .error e) :
    x.scan bs = (x, bs, .ended (.error (.parse e))) := by
  have hcontents : (ReceiveBuffer.empty.push bs).contents = bs := ReceiveBuffer.contents_push ..
  rw [scan, digest_of_error (by rw [ReceiveBuffer.front_eq, hcontents, h]), seen, hcontents]

theorem scan_of_none (h : Decoder.responses.parse bs = .ok none) :
    x.scan bs = (x, bs, .waiting) := by
  have hcontents : (ReceiveBuffer.empty.push bs).contents = bs := ReceiveBuffer.contents_push ..
  rw [scan, digest_of_none (by rw [ReceiveBuffer.front_eq, hcontents, h]), seen, hcontents]

/-- What `Exchange.scan` does, packet by packet. -/
theorem scan_of_packet (h : Decoder.responses.parse bs = .ok (some (p, n))) :
    x.scan bs =
      match (x.take p).2 with
      | .error e => ((x.take p).1, bs.drop n, .ended (.error (.parse e)))
      | .ok .more => (x.take p).1.scan (bs.drop n)
      | .ok .done => ((x.take p).1, bs.drop n,
          .ended (if (bs.drop n).length = 0 then .ok ()
            else .error (.trailingData (bs.drop n).length))) := by
  have hcontents : (ReceiveBuffer.empty.push bs).contents = bs := ReceiveBuffer.contents_push ..
  have hrest : ((ReceiveBuffer.empty.push bs).use n).contents = bs.drop n := by
    rw [ReceiveBuffer.contents_use, hcontents]
  rw [scan, digest_of_packet (by rw [ReceiveBuffer.front_eq, hcontents, h])]
  split
  · rw [seen, hrest]
  · rw [seen_digest, hrest]
  · rw [seen, ReceiveBuffer.held_eq, hrest]

/-- **A packet that ends a command, and nothing behind it**, is a complete answer. -/
theorem scan_of_done {reply : Reply}
    (hparse : Decoder.responses.parse bs = .ok (some (p, bs.length)))
    (hown : ¬ x.command.span ≤ p.tag - x.base)
    (hdone : x.command.handle x.reply { p with tag := p.tag - x.base } = (reply, .ok .done)) :
    x.scan bs = ({ x with reply := reply }, [], .ended (.ok ())) := by
  have htake : x.take p = ({ x with reply := reply }, .ok .done) := by
    rw [take]
    dsimp only
    rw [if_neg hown, hdone]
  rw [scan_of_packet hparse, htake]
  dsimp only
  rw [List.drop_length, List.length_nil, if_pos rfl]

/-! ## More octets -/

/-- **A command that waits has lost nothing by the octets that came first.** `Exchange.scan` goes on
    from what they left as if all had come at once. -/
theorem scan_append (more : Bytes) (hwaiting : (x.scan bs).2.2 = .waiting) :
    x.scan (bs ++ more) = (x.scan bs).1.scan ((x.scan bs).2.1 ++ more) := by
  induction bs using Decoder.drain.induct Decoder.responses generalizing x with
  | case1 bs e hparse =>
      rw [scan_of_error hparse] at hwaiting
      contradiction
  | case2 bs hparse => rw [scan_of_none hparse]
  | case3 bs p n hparse ih =>
      obtain ⟨hstands, hdrop⟩ := Decoder.parse_append_of_packet more hparse
      rw [scan_of_packet hparse] at hwaiting ⊢
      rw [scan_of_packet hstands, hdrop]
      cases htake : (x.take p).2 with
      | error e =>
          rw [htake] at hwaiting
          contradiction
      | ok progress =>
          rw [htake] at hwaiting
          cases progress with
          | done => contradiction
          | more => exact ih hwaiting

/-- **A command that is done does not bear more octets**, which are
    `ConnectionError.trailingData`. -/
theorem scan_append_of_done {more : Bytes} (hne : more ≠ [])
    (hdone : (x.scan bs).2.2 = .ended (.ok ())) :
    (x.scan (bs ++ more)).2.2 = .ended (.error (.trailingData more.length)) := by
  induction bs using Decoder.drain.induct Decoder.responses generalizing x with
  | case1 bs e hparse =>
      rw [scan_of_error hparse] at hdone
      cases hdone
  | case2 bs hparse =>
      rw [scan_of_none hparse] at hdone
      cases hdone
  | case3 bs p n hparse ih =>
      obtain ⟨hstands, hdrop⟩ := Decoder.parse_append_of_packet more hparse
      rw [scan_of_packet hparse] at hdone
      rw [scan_of_packet hstands, hdrop]
      cases htake : (x.take p).2 with
      | error e =>
          rw [htake] at hdone
          cases hdone
      | ok progress =>
          rw [htake] at hdone
          cases progress with
          | more => exact ih hdone
          | done =>
              dsimp only at hdone ⊢
              -- nothing was left over, so what is left over now is what came in addition
              have hrest : (bs.drop n).length = 0 := by
                by_contra hleft
                rw [if_neg hleft] at hdone
                cases hdone
              have hmore : more.length ≠ 0 := fun h => hne (List.eq_nil_of_length_eq_zero h)
              rw [List.length_append, hrest, Nat.zero_add, if_neg hmore]

/-- Octets that come later are taken in by `Exchange.receive` as if all had come at once. -/
theorem receive_eq_scan (x : Exchange) (c : Connection) (bs : Bytes) :
    (x.receive c bs).1 = (x.scan (c.buffer.contents ++ bs)).1 ∧
      (x.receive c bs).2.2 = (x.scan (c.buffer.contents ++ bs)).2.2 := by
  have hcontents : (c.buffer.makeRoom.push bs).contents = c.buffer.contents ++ bs := by
    rw [ReceiveBuffer.contents_push, ReceiveBuffer.contents_makeRoom]
  have hseen := x.seen_digest (c.buffer.makeRoom.push bs)
  rw [hcontents] at hseen
  rw [← hseen]
  exact ⟨rfl, rfl⟩

/-- **A command that waits goes on from what its connection holds** when more octets arrive. -/
theorem scan_append_eq_receive {x' : Exchange} {c : Connection} (more : Bytes)
    (hscan : x.scan bs = (x', c.buffer.contents, .waiting)) :
    x.scan (bs ++ more) =
      ((x'.receive c more).1, (x'.receive c more).2.1.buffer.contents, (x'.receive c more).2.2) := by
  have hcontents : (c.buffer.makeRoom.push more).contents = c.buffer.contents ++ more := by
    rw [ReceiveBuffer.contents_push, ReceiveBuffer.contents_makeRoom]
  rw [scan_append more (by rw [hscan]), hscan]
  dsimp only
  rw [← hcontents, ← seen_digest]
  rfl

end Exchange

end Memcache
