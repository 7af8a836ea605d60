import Memcache.Connection

/-!
# `Memcache.Proofs.Connection.Reading` — which packets a command is given

`Exchange.digest` shows a command's `Exchange.reply` and `Verdict` but not the packets that led to
them. Here the packets are written down beside it: `Exchange.readings` lists what a digest reads,
each packet as it came (`Reading.received`) and as the command was given it (`Reading.given?`). That
the list is the right one is seen in two ways: the reply is what the given packets make of it
(`replay`), and a packet that was not given is the last and ends the command.

## Contents

* `Reading`, `Exchange.readings`, `replay`;
* `Exchange.digest_fst` — **the reply is the replay of the readings**;
* `Isolated`, `Exchange.isolated_digest` — **a command is given packets of its own tags only**;
* `Exchange.follow`, `Exchange.followed` — a command over many reads, and what is read for it.
-/

namespace Memcache

/-- One packet that was read for a command: as it came, `received`, and as the command was given it,
    `given?`, if it was. -/
structure Reading where
  received : Packet
  given? : Option Packet
  deriving DecidableEq, Repr

/-- The reply that `Command.handle` makes of `r` and the given packets. -/
def replay (command : Command) (r : Reply) (rs : List Reading) : Reply :=
  rs.foldl (fun r reading =>
    match reading.given? with
    | some p => (command.handle r p).1
    | none => r) r

theorem replay_append (command : Command) (r : Reply) (rs rs' : List Reading) :
    replay command r (rs ++ rs') = replay command (replay command r rs) rs' :=
  List.foldl_append

/-! ## What one digest reads -/

namespace Exchange

/-- The packets that `Exchange.digest` reads, in order. -/
def readings (x : Exchange) (b : ReceiveBuffer) : List Reading :=
  match _h : b.front Decoder.responses with
  | .error _ => []
  | .ok none => []
  | .ok (some (p, n)) =>
    let place := p.tag - x.base
    if x.command.span ≤ place then [⟨p, none⟩]
    else
      let handled := x.command.handle x.reply { p with tag := place }
      ⟨p, some { p with tag := place }⟩ ::
        match handled.2 with
        | .ok .more => { x with reply := handled.1 }.readings (b.use n)
        | _ => []
termination_by b.contents.length
decreasing_by
  rw [ReceiveBuffer.contents_use]
  exact Decoder.length_drop_lt ((ReceiveBuffer.front_eq ..).symm.trans _h)

variable {x : Exchange} {b : ReceiveBuffer} {p : Packet} {n : Nat}

theorem readings_of_error {e : ParseError} (h : b.front Decoder.responses = .error e) :
    x.readings b = [] := by
  rw [readings]
  split <;> simp_all

theorem readings_of_none (h : b.front Decoder.responses = .ok none) : x.readings b = [] := by
  rw [readings]
  split <;> simp_all

theorem readings_of_foreign (h : b.front Decoder.responses = .ok (some (p, n)))
    (hspan : x.command.span ≤ p.tag - x.base) : x.readings b = [⟨p, none⟩] := by
  rw [readings]
  split
  · simp_all
  · simp_all
  · next hfront =>
      obtain ⟨rfl, rfl⟩ : _ ∧ _ := by simpa [hfront] using h
      exact if_pos hspan

theorem readings_of_more (h : b.front Decoder.responses = .ok (some (p, n)))
    (hspan : ¬ x.command.span ≤ p.tag - x.base)
    (hmore : (x.command.handle x.reply { p with tag := p.tag - x.base }).2 = .ok .more) :
    x.readings b = ⟨p, some { p with tag := p.tag - x.base }⟩ ::
      { x with reply := (x.command.handle x.reply { p with tag := p.tag - x.base }).1 }.readings
        (b.use n) := by
  rw [readings]
  split
  · simp_all
  · simp_all
  · next hfront =>
      obtain ⟨rfl, rfl⟩ : _ ∧ _ := by simpa [hfront] using h
      refine (if_neg hspan).trans ?_
      simp only [hmore]

theorem readings_of_end (h : b.front Decoder.responses = .ok (some (p, n)))
    (hspan : ¬ x.command.span ≤ p.tag - x.base)
    (hend : (x.command.handle x.reply { p with tag := p.tag - x.base }).2 ≠ .ok .more) :
    x.readings b = [⟨p, some { p with tag := p.tag - x.base }⟩] := by
  rw [readings]
  split
  · simp_all
  · simp_all
  · next hfront =>
      obtain ⟨rfl, rfl⟩ : _ ∧ _ := by simpa [hfront] using h
      refine (if_neg hspan).trans ?_
      dsimp only
      split
      · contradiction
      · rfl

/-- **The reply is the `replay` of the readings**, and nothing else of the exchange changes. -/
theorem digest_fst (x : Exchange) (b : ReceiveBuffer) :
    (x.digest b).1 = { x with reply := replay x.command x.reply (x.readings b) } := by
  fun_induction digest x b with
  | case1 x b e hfront => rw [readings_of_error hfront]; rfl
  | case2 x b hfront => rw [readings_of_none hfront]; rfl
  | case3 x b p n hfront place hspan => rw [readings_of_foreign hfront hspan]; rfl
  | case4 x b p n hfront place hspan handled x' e hhandled =>
      have hend : handled.2 ≠ .ok .more := by rw [hhandled]; nofun
      rw [readings_of_end hfront hspan hend]
      rfl
  | case5 x b p n hfront place hspan handled x' hhandled ih =>
      rw [readings_of_more hfront hspan hhandled, ih]
      rfl
  | case6 x b p n hfront place hspan handled x' hhandled left =>
      have hend : handled.2 ≠ .ok .more := by rw [hhandled]; nofun
      rw [readings_of_end hfront hspan hend]
      rfl

/-- **A command that has succeeded leaves nothing unread** in `ReceiveBuffer.contents`. -/
theorem contents_of_digest_ok {out : Exchange × ReceiveBuffer × Verdict}
    (h : x.digest b = out) (hok : out.2.2 = .ended (.ok ())) : out.2.1.contents = [] := by
  subst h
  fun_induction digest x b with
  | case1 x b e hfront => cases hok
  | case2 x b hfront => cases hok
  | case3 x b p n hfront place hspan => cases hok
  | case4 x b p n hfront place hspan handled x' e hhandled => cases hok
  | case5 x b p n hfront place hspan handled x' hhandled ih => exact ih hok
  | case6 x b p n hfront place hspan handled x' hhandled left =>
      -- the command is done: it has succeeded only if nothing was left over
      by_cases hleft : left = 0
      · exact List.length_eq_zero_iff.mp ((ReceiveBuffer.held_eq _).symm.trans hleft)
      · simp [hleft] at hok

end Exchange

/-! ## Isolation -/

/-- The readings `rs` of a command whose tags begin at `base`, and its verdict. The command is given
    packets of its own tags only, under the places of these tags; any other packet is the last one
    that is read and is what the command ends with. -/
structure Isolated (command : Command) (base : UInt32) (rs : List Reading) (v : Verdict) :
    Prop where
  own : ∀ r ∈ rs, ∀ p, r.given? = some p →
    r.received.tag - base < command.span ∧ p = { r.received with tag := r.received.tag - base }
  foreign : ∀ r ∈ rs, r.given? = none →
    command.span ≤ r.received.tag - base ∧ rs.getLast? = some r ∧
      v = .ended (.error (.parse (.unexpectedTag base r.received.tag)))

namespace Isolated

variable {command : Command} {base : UInt32} {rs rs' : List Reading} {v : Verdict}

theorem nil : Isolated command base [] v :=
  ⟨fun _ h => absurd h List.not_mem_nil, fun _ h => absurd h List.not_mem_nil⟩

/-- While a command has `Verdict.waiting` it has been given everything that was read. -/
theorem given_of_waiting (h : Isolated command base rs .waiting) {r : Reading} (hr : r ∈ rs) :
    r.given? ≠ none := by
  intro hnone
  cases (h.foreign r hr hnone).2.2

/-- What is read while a command is waiting stands before what is read later. -/
theorem append (h : Isolated command base rs .waiting) (h' : Isolated command base rs' v) :
    Isolated command base (rs ++ rs') v := by
  constructor
  · intro r hr p hp
    rcases List.mem_append.mp hr with hr | hr
    · exact h.own r hr p hp
    · exact h'.own r hr p hp
  · intro r hr hnone
    rcases List.mem_append.mp hr with hr | hr
    · exact absurd hnone (h.given_of_waiting hr)
    · obtain ⟨hspan, hlast, hv⟩ := h'.foreign r hr hnone
      exact ⟨hspan, by rw [List.getLast?_append, hlast]; rfl, hv⟩

/-- One packet that the command was given. -/
theorem given {p : Packet} (h : ¬ command.span ≤ p.tag - base) :
    Isolated command base [⟨p, some { p with tag := p.tag - base }⟩] v := by
  constructor
  · intro r hr q hq
    obtain rfl := List.mem_singleton.mp hr
    exact ⟨UInt32.not_le.mp h, (Option.some.inj hq).symm⟩
  · intro r hr hnone
    obtain rfl := List.mem_singleton.mp hr
    cases hnone

end Isolated

namespace Exchange

/-- **A command is given packets of its own tags only** by `Exchange.digest`, and ends with the
    first other packet. -/
theorem isolated_digest (x : Exchange) (b : ReceiveBuffer) :
    Isolated x.command x.base (x.readings b) (x.digest b).2.2 := by
  fun_induction digest x b with
  | case1 x b e hfront => rw [readings_of_error hfront]; exact .nil
  | case2 x b hfront => rw [readings_of_none hfront]; exact .nil
  | case3 x b p n hfront place hspan =>
      rw [readings_of_foreign hfront hspan]
      constructor
      · intro r hr q hq
        obtain rfl := List.mem_singleton.mp hr
        cases hq
      · intro r hr _
        obtain rfl := List.mem_singleton.mp hr
        exact ⟨hspan, rfl, rfl⟩
  | case4 x b p n hfront place hspan handled x' e hhandled =>
      have hend : handled.2 ≠ .ok .more := by rw [hhandled]; nofun
      rw [readings_of_end hfront hspan hend]
      exact .given hspan
  | case5 x b p n hfront place hspan handled x' hhandled ih =>
      rw [readings_of_more hfront hspan hhandled]
      exact (Isolated.given hspan).append ih
  | case6 x b p n hfront place hspan handled x' hhandled left =>
      have hend : handled.2 ≠ .ok .more := by rw [hhandled]; nofun
      rw [readings_of_end hfront hspan hend]
      exact .given hspan

/-! ## Many reads -/

/-- Takes in what arrives by `Exchange.receive`, read after read, until the command has ended. -/
def follow (x : Exchange) (c : Connection) : Verdict → List Bytes → Exchange × Connection × Verdict
  | .waiting, bs :: reads =>
    let (x, c, v) := x.receive c bs
    x.follow c v reads
  | v, _ => (x, c, v)

/-- The packets that are read by `Exchange.follow`, in order. -/
def followed (x : Exchange) (c : Connection) : Verdict → List Bytes → List Reading
  | .waiting, bs :: reads =>
    let (x', c', v) := x.receive c bs
    x.readings (c.buffer.makeRoom.push bs) ++ x'.followed c' v reads
  | _, _ => []

theorem follow_ended (x : Exchange) (c : Connection) (result : Except ConnectionError Unit)
    (reads : List Bytes) : x.follow c (.ended result) reads = (x, c, .ended result) := by
  cases reads <;> rfl

theorem followed_ended (x : Exchange) (c : Connection) (result : Except ConnectionError Unit)
    (reads : List Bytes) : x.followed c (.ended result) reads = [] := by
  cases reads <;> rfl

theorem receive_fst (x : Exchange) (c : Connection) (bs : Bytes) :
    (x.receive c bs).1 =
      { x with reply :=
          replay x.command x.reply (x.readings (c.buffer.makeRoom.push bs)) } :=
  digest_fst ..

/-- **Over many reads, too, the reply is the `replay` of the readings.** -/
theorem follow_fst (x : Exchange) (c : Connection) (v : Verdict) (reads : List Bytes) :
    (x.follow c v reads).1 =
      { x with reply := replay x.command x.reply (x.followed c v reads) } := by
  induction reads generalizing x c v with
  | nil => cases v <;> rfl
  | cons bs reads ih =>
      cases v with
      | ended result => rfl
      | waiting =>
          simp only [follow, followed, ih, receive_fst, replay_append]

/-- **Over many reads, too, a command is given packets of its own tags only** (`Isolated`). -/
theorem isolated_follow {x : Exchange} {c : Connection} {v : Verdict} {rs : List Reading}
    (h : Isolated x.command x.base rs v) (reads : List Bytes) :
    Isolated x.command x.base (rs ++ x.followed c v reads) (x.follow c v reads).2.2 := by
  induction reads generalizing x c v rs with
  | nil => cases v <;> simpa [follow, followed] using h
  | cons bs reads ih =>
      cases v with
      | ended result => simpa [follow, followed] using h
      | waiting =>
          have hfst := receive_fst x c bs
          have hnext : Isolated (x.receive c bs).1.command (x.receive c bs).1.base
              (rs ++ x.readings (c.buffer.makeRoom.push bs)) (x.receive c bs).2.2 := by
            rw [hfst]
            exact h.append (isolated_digest x (c.buffer.makeRoom.push bs))
          have hrest := ih (c := (x.receive c bs).2.1) hnext
          rw [List.append_assoc, hfst] at hrest
          rw [follow, followed]
          simpa only [hfst] using hrest

end Exchange

end Memcache
