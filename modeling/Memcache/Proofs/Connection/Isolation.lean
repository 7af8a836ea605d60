import Mathlib
import Memcache.Proofs.Connection.Reading

/-!
# `Memcache.Proofs.Connection.Isolation` — no command is given another command's answer

A connection is used again after a command that was cut off or failed, and the answer to that
command may still be on its way. It does no harm: the tags of a command begin at
`Connection.nextTag`, behind those of the command before it, modulo `2 ^ 32`, and a command is given
packets of its own tags only (`Owns`). So a late answer is recognised until the tags have come full
circle.

## Contents

* `Command.tagCount`, `Owns` — the tags of a command; `Owns.disjoint` — **windows that follow each
  other on the circle do not overlap**;
* `Trial`, `Connection.perform`, `Connection.history` — commands on one connection, each with what
  is read for it;
* `replies_isolated` — **replies are isolated, over every history of a connection**.
-/

namespace Memcache

/-! ## The tags of a command -/

namespace Command

/-- How many `Command.packets` a request has, and so how many tags it uses. -/
def tagCount (c : Command) : Nat :=
  (c.packets 0).length

theorem length_packets_eq (tag : UInt32) (c : Command) : (c.packets tag).length = c.tagCount := by
  cases c <;> simp [tagCount, packets, length_quietReads]

theorem span_eq (c : Command) : c.span = UInt32.ofNat c.tagCount :=
  (length_packets 0 c).symm

theorem toNat_span {c : Command} (h : c.tagCount < 2 ^ 32) : c.span.toNat = c.tagCount := by
  rw [span_eq, UInt32.toNat_ofNat_of_lt' h]

theorem tags_quietReads (keys : List String) (tag : UInt32) :
    (quietReads keys tag).map (·.tag) =
      (List.range keys.length).map fun k => tag + UInt32.ofNat k := by
  induction keys generalizing tag with
  | nil => rfl
  | cons key keys ih =>
      rw [quietReads, List.map_cons, ih, List.length_cons, List.range_succ_eq_map, List.map_cons,
        List.map_map]
      congr 1
      · simp
      · apply List.map_congr_left
        intro k _
        show tag + 1 + UInt32.ofNat k = tag + UInt32.ofNat (k + 1)
        rw [UInt32.ofNat_add, UInt32.add_comm (UInt32.ofNat k), UInt32.add_assoc]
        rfl

/-- **The packets of a request are tagged consecutively**, from the first tag on. -/
theorem tags_packets (tag : UInt32) (c : Command) :
    (c.packets tag).map (·.tag) =
      (List.range c.tagCount).map fun k => tag + UInt32.ofNat k := by
  rw [← length_packets_eq tag]
  cases c with
  | multiGet keys =>
      simp [packets, tags_quietReads, length_quietReads, List.range_succ]
  | _ => simp [packets]

end Command

/-- A tag is one of those that a command uses from `base` on. -/
def Owns (command : Command) (base tag : UInt32) : Prop :=
  ∃ k < command.tagCount, tag = base + UInt32.ofNat k

/-- The tags of a command are those of `Command.packets`. -/
theorem owns_iff_exists_packet {command : Command} {base tag : UInt32} :
    Owns command base tag ↔ ∃ p ∈ command.packets base, p.tag = tag := by
  have hmem : tag ∈ (command.packets base).map (·.tag) ↔ Owns command base tag := by
    rw [Command.tags_packets]
    simp only [List.mem_map, List.mem_range, Owns, eq_comm]
  rw [← hmem, List.mem_map]

/-- The test of a connection, by `Command.span`, recognises a command's own tags. -/
theorem owns_iff_sub_lt {command : Command} {base tag : UInt32} (h : command.tagCount < 2 ^ 32) :
    Owns command base tag ↔ tag - base < command.span := by
  rw [UInt32.lt_iff_toNat_lt, Command.toNat_span h]
  constructor
  · rintro ⟨k, hk, rfl⟩
    rw [UInt32.add_comm, UInt32.add_sub_cancel, UInt32.toNat_ofNat_of_lt' (Nat.lt_trans hk h)]
    exact hk
  · intro hlt
    refine ⟨(tag - base).toNat, hlt, ?_⟩
    rw [UInt32.ofNat_toNat, UInt32.add_comm, UInt32.sub_add_cancel]

/-- **Windows that follow each other on the circle do not overlap**, as long as they fit on it
    together with what lies between them. -/
theorem Owns.disjoint {c c' : Command} {base tag : UInt32} {gap : Nat} (hgap : c.tagCount ≤ gap)
    (hfit : gap + c'.tagCount ≤ 2 ^ 32) (h : Owns c base tag)
    (h' : Owns c' (base + UInt32.ofNat gap) tag) : False := by
  obtain ⟨k, hk, rfl⟩ := h
  obtain ⟨l, hl, heq⟩ := h'
  rw [UInt32.add_assoc, UInt32.add_right_inj, ← UInt32.ofNat_add] at heq
  have hnat := congrArg UInt32.toNat heq
  rw [UInt32.toNat_ofNat_of_lt' (show k < UInt32.size by simp [UInt32.size]; omega),
    UInt32.toNat_ofNat_of_lt' (show gap + l < UInt32.size by simp [UInt32.size]; omega)] at hnat
  omega

/-! ## Commands on one connection -/

/-- A command on a connection, and the reads that it gets to see; there are none in `reads?` if its
    request is not sent as a whole. A command that has not ended after these reads was cut off, or
    its connection failed. -/
structure Trial where
  command : Command
  reads? : Option (List Bytes)

/-- What became of a command: the packets in `readings`, the `reply` that they make, and the
    `verdict`. -/
structure Record where
  command : Command
  /-- The first of its tags. -/
  base : UInt32
  /-- The packets that were read for it, in order. -/
  readings : List Reading := []
  reply : Reply := {}
  verdict : Verdict := .waiting

/-- A tag is one of the command's, from `Record.base` on. -/
def Record.owns (r : Record) (tag : UInt32) : Prop :=
  Owns r.command r.base tag

/-- How many tags the commands use together, `Command.tagCount` of each. -/
def tagTotal (ts : List Trial) : Nat :=
  (ts.map (·.command.tagCount)).sum

namespace Connection

/-- Runs a command, from `Connection.begin` over all its reads. Its tags are used up whatever
    becomes of it. -/
def perform (c : Connection) (t : Trial) : Connection × Record :=
  match t.reads? with
  | none =>
    ({ c with nextTag := c.nextTag + t.command.span }, { command := t.command, base := c.nextTag })
  | some reads =>
    let (c', x, v, _) := c.begin t.command
    let (x', c'', v') := x.follow c' v reads
    (c'', { command := x'.command
            base := x'.base
            readings := { command := t.command, base := c.nextTag : Exchange }.readings c.buffer ++
              x.followed c' v reads
            reply := x'.reply
            verdict := v' })

/-- Runs commands one after another by `Connection.perform`, whatever became of the one before. -/
def history (c : Connection) : List Trial → List Record
  | [] => []
  | t :: ts => (c.perform t).2 :: (c.perform t).1.history ts

/-- The connection after commands. -/
def after (c : Connection) (ts : List Trial) : Connection :=
  ts.foldl (fun c t => (c.perform t).1) c

end Connection

/-- Reading leaves `Connection.nextTag` alone. -/
theorem Exchange.nextTag_follow (x : Exchange) (c : Connection) (v : Verdict)
    (reads : List Bytes) : (x.follow c v reads).2.1.nextTag = c.nextTag := by
  induction reads generalizing x c v with
  | nil => cases v <;> rfl
  | cons bs reads ih =>
      cases v with
      | ended result => rfl
      | waiting => exact ih ..

namespace Connection

variable {c : Connection} {t : Trial}

theorem nextTag_perform (c : Connection) (t : Trial) :
    (c.perform t).1.nextTag = c.nextTag + t.command.span := by
  unfold perform
  cases t.reads? with
  | none => rfl
  | some reads => exact Exchange.nextTag_follow ..

theorem begin_exchange (c : Connection) (command : Command) :
    (c.begin command).2.1 =
      { command := command
        base := c.nextTag
        reply := replay command {}
          ({ command := command, base := c.nextTag : Exchange }.readings c.buffer) } :=
  Exchange.digest_fst ..

/-- A command uses the tags from `Connection.nextTag` on, and its reply is what it was given. -/
theorem perform_exchange (c : Connection) (t : Trial) :
    (c.perform t).2.command = t.command ∧ (c.perform t).2.base = c.nextTag ∧
      (c.perform t).2.reply = replay t.command {} (c.perform t).2.readings := by
  unfold perform
  cases t.reads? with
  | none => exact ⟨rfl, rfl, rfl⟩
  | some reads => simp only [Exchange.follow_fst, begin_exchange, replay_append, and_self]

theorem isolated_perform (c : Connection) (t : Trial) :
    Isolated t.command c.nextTag (c.perform t).2.readings (c.perform t).2.verdict := by
  unfold perform
  cases t.reads? with
  | none => exact .nil
  | some reads =>
      have hbegin : Isolated t.command c.nextTag
          ({ command := t.command, base := c.nextTag : Exchange }.readings c.buffer)
          (c.begin t.command).2.2.1 :=
        Exchange.isolated_digest { command := t.command, base := c.nextTag } c.buffer
      have hfollow := Exchange.isolated_follow (x := (c.begin t.command).2.1)
        (c := (c.begin t.command).1) (by rw [begin_exchange]; exact hbegin) reads
      rw [begin_exchange] at hfollow
      simpa only [begin_exchange] using hfollow

theorem getElem?_history (c : Connection) (ts : List Trial) (n : Nat) :
    (c.history ts)[n]? = ts[n]?.map fun t => ((c.after (ts.take n)).perform t).2 := by
  induction ts generalizing c n with
  | nil => rfl
  | cons t ts ih =>
      cases n with
      | zero => rfl
      | succ n => exact ih ..

/-- **Tags are numbered without a gap**: `Connection.nextTag` counts them all. -/
theorem nextTag_after (c : Connection) (ts : List Trial) :
    (c.after ts).nextTag = c.nextTag + UInt32.ofNat (tagTotal ts) := by
  induction ts generalizing c with
  | nil => exact (UInt32.add_zero _).symm
  | cons t ts ih =>
      show ((c.perform t).1.after ts).nextTag = _
      rw [ih, nextTag_perform, Command.span_eq, UInt32.add_assoc, ← UInt32.ofNat_add]
      rfl

end Connection

/-! ## The main statement -/

theorem tagTotal_append (ts ts' : List Trial) :
    tagTotal (ts ++ ts') = tagTotal ts + tagTotal ts' := by
  simp [tagTotal]

theorem tagTotal_take (ts : List Trial) {i j : Nat} (hij : i ≤ j) :
    tagTotal (ts.take j) = tagTotal (ts.take i) + tagTotal ((ts.take j).drop i) := by
  have hsplit := List.take_append_drop i (ts.take j)
  rw [List.take_take, Nat.min_eq_left hij] at hsplit
  rw [← tagTotal_append, hsplit]

theorem tagTotal_take_succ {ts : List Trial} {n : Nat} {t : Trial} (h : ts[n]? = some t) :
    tagTotal (ts.take (n + 1)) = tagTotal (ts.take n) + t.command.tagCount := by
  rw [List.take_add_one, h, tagTotal_append]
  simp [tagTotal]

namespace Isolated

variable {command : Command} {base : UInt32} {rs : List Reading} {v : Verdict} {rd : Reading}

/-- A packet that a command was given repeats one of its tags, and came under its place. -/
theorem exists_place (h : Isolated command base rs v) (hspan : command.tagCount < 2 ^ 32)
    (hrd : rd ∈ rs) {p : Packet} (hp : rd.given? = some p) :
    ∃ k < command.tagCount, rd.received.tag = base + UInt32.ofNat k ∧
      p = { rd.received with tag := UInt32.ofNat k } := by
  obtain ⟨hlt, rfl⟩ := h.own rd hrd p hp
  obtain ⟨k, hk, htag⟩ := (owns_iff_sub_lt hspan).mpr hlt
  refine ⟨k, hk, htag, ?_⟩
  rw [htag, UInt32.add_comm, UInt32.add_sub_cancel]

/-- A packet whose tag is not the command's own was not given to it. -/
theorem given_eq_none (h : Isolated command base rs v) (hspan : command.tagCount < 2 ^ 32)
    (hrd : rd ∈ rs) (hforeign : ¬ Owns command base rd.received.tag) : rd.given? = none := by
  cases hp : rd.given? with
  | none => rfl
  | some p =>
      obtain ⟨k, hk, htag, -⟩ := h.exists_place hspan hrd hp
      exact absurd ⟨k, hk, htag⟩ hforeign

end Isolated

/-- **Replies are isolated**, over every `Connection.history`, whatever becomes of its commands and
    whatever arrives. A command is given a packet (`Reading.given?`) only if the packet repeats one
    of its own tags, and under the place of this tag; any other packet that is read ends it. The
    tags of two commands differ unless the commands from the one to the other use more than there
    are (`tagTotal`), so the answer to an earlier command is not given to a later one. -/
theorem replies_isolated (c : Connection) (ts : List Trial)
    (hspan : ∀ t ∈ ts, t.command.tagCount < 2 ^ 32) :
    (∀ n t, ts[n]? = some t → ∃ r, (c.history ts)[n]? = some r ∧
      r.command = t.command ∧
      r.base = c.nextTag + UInt32.ofNat (tagTotal (ts.take n)) ∧
      r.reply = replay r.command {} r.readings ∧
      ∀ rd ∈ r.readings,
        (∀ p, rd.given? = some p → ∃ k < r.command.tagCount,
          rd.received.tag = r.base + UInt32.ofNat k ∧
            p = { rd.received with tag := UInt32.ofNat k }) ∧
        (¬ r.owns rd.received.tag →
          rd.given? = none ∧ r.readings.getLast? = some rd ∧
            r.verdict = .ended (.error (.parse (.unexpectedTag r.base rd.received.tag))))) ∧
    ∀ i j ri rj, i < j → (c.history ts)[i]? = some ri → (c.history ts)[j]? = some rj →
      tagTotal ((ts.take (j + 1)).drop i) ≤ 2 ^ 32 →
        (∀ tag, ¬ (ri.owns tag ∧ rj.owns tag)) ∧
        ∀ rd ∈ rj.readings, ∀ p ∈ ri.command.packets ri.base, rd.received.tag = p.tag →
          rd.given? = none := by
  constructor
  · intro n t ht
    obtain ⟨hcommand, hbase, hreply⟩ := (c.after (ts.take n)).perform_exchange t
    have hisolated := (c.after (ts.take n)).isolated_perform t
    have htags := hspan t (List.mem_of_getElem? ht)
    refine ⟨_, by rw [Connection.getElem?_history, ht]; rfl, ?_⟩
    simp only [Record.owns, hcommand, hbase]
    refine ⟨trivial, c.nextTag_after _, hreply, fun rd hrd => ⟨fun p hp => ?_, fun hforeign => ?_⟩⟩
    · exact hisolated.exists_place htags hrd hp
    · have hnone := hisolated.given_eq_none htags hrd hforeign
      exact ⟨hnone, (hisolated.foreign rd hrd hnone).2⟩
  · intro i j ri rj hij hri hrj hfit
    rw [Connection.getElem?_history] at hri hrj
    obtain ⟨ti, hti, rfl⟩ := Option.map_eq_some_iff.mp hri
    obtain ⟨tj, htj, rfl⟩ := Option.map_eq_some_iff.mp hrj
    obtain ⟨hcommandi, hbasei, -⟩ := (c.after (ts.take i)).perform_exchange ti
    obtain ⟨hcommandj, hbasej, -⟩ := (c.after (ts.take j)).perform_exchange tj
    simp only [Record.owns, hcommandi, hbasei, hcommandj, hbasej]
    -- the later command begins as far behind the earlier one as the commands from it on are long
    have hgap := tagTotal_take ts (Nat.le_of_lt hij)
    have hwhole := tagTotal_take ts (show i ≤ j + 1 by omega)
    have hpast := tagTotal_take ts (show i + 1 ≤ j from hij)
    rw [tagTotal_take_succ hti] at hpast
    rw [tagTotal_take_succ htj] at hwhole
    have hnext := c.nextTag_after (ts.take j)
    rw [hgap, UInt32.ofNat_add, ← UInt32.add_assoc, ← c.nextTag_after] at hnext
    have hdisjoint : ∀ tag, ¬ (Owns ti.command (c.after (ts.take i)).nextTag tag ∧
        Owns tj.command (c.after (ts.take j)).nextTag tag) := by
      rintro tag ⟨howni, hownj⟩
      rw [hnext] at hownj
      exact howni.disjoint (by omega) (by omega) hownj
    refine ⟨hdisjoint, ?_⟩
    intro rd hrd p hp htag
    have howni : Owns ti.command (c.after (ts.take i)).nextTag rd.received.tag :=
      owns_iff_exists_packet.mpr ⟨p, hp, htag.symm⟩
    exact ((c.after (ts.take j)).isolated_perform tj).given_eq_none
      (hspan tj (List.mem_of_getElem? htj)) hrd fun hownj => hdisjoint _ ⟨howni, hownj⟩

/-- A batched read that is cut off, just before the tags come full circle, and then a no-op, during
    which the answer to the read arrives. -/
def lateAnswer : List Trial :=
  [⟨.multiGet ["a", "b"], some []⟩,
    ⟨.noop, some [({ magic := Magic.response, opcode := Opcode.getKeyQuiet, tag := 0xffffffff
                     extras := be 4 0, key := [0x62], value := [0x31] } : Packet).encode]⟩]

/-- The answer to the read of `lateAnswer` is read for the no-op, whose only tag is 1, and is not
    given to it. -/
theorem replies_isolated_lateAnswer :
    (∀ t ∈ lateAnswer, t.command.tagCount < 2 ^ 32) ∧
      tagTotal ((lateAnswer.take 2).drop 0) ≤ 2 ^ 32 ∧
      ∃ r₀ r₁, ({ link := 0, nextTag := 0xfffffffe : Connection }.history lateAnswer) = [r₀, r₁] ∧
        r₁.base = 1 ∧ r₁.readings.map (·.received.tag) = [0xffffffff] ∧
        ∀ rd ∈ r₁.readings, rd.given? = none := by
  have hspan : ∀ t ∈ lateAnswer, t.command.tagCount < 2 ^ 32 := by
    intro t ht
    simp only [lateAnswer, List.mem_cons, List.not_mem_nil, or_false] at ht
    rcases ht with rfl | rfl <;> decide
  have hfit : tagTotal ((lateAnswer.take 2).drop 0) ≤ 2 ^ 32 := by decide
  -- the batch uses the last two tags before the circle closes, and 0, so the no-op's tag is 1
  have hrun : (({ link := 0, nextTag := 0xfffffffe : Connection }.history lateAnswer).map
      fun r => (r.base, r.readings.map (·.received.tag))) =
      [(0xfffffffe, []), (1, [0xffffffff])] := by cbv
  obtain ⟨hbase, htags⟩ := Prod.mk.inj (List.cons.inj (List.cons.inj hrun).2).1
  obtain ⟨-, hisolated⟩ :=
    replies_isolated { link := 0, nextTag := 0xfffffffe } lateAnswer hspan
  refine ⟨hspan, hfit, _, _, rfl, hbase, htags, ?_⟩
  intro rd hrd
  have htag : rd.received.tag = 0xffffffff := by
    have hmem := List.mem_map_of_mem (f := (·.received.tag)) hrd
    rw [htags] at hmem
    exact List.mem_singleton.mp hmem
  refine (hisolated 0 1 _ _ Nat.zero_lt_one rfl rfl hfit).2 rd hrd
    { opcode := Opcode.getKeyQuiet, key := Text.encode "b", tag := 0xffffffff } ?_ htag
  rw [(Connection.perform_exchange ..).1, (Connection.perform_exchange ..).2.1]
  exact List.mem_cons_of_mem _ List.mem_cons_self

end Memcache
