import Mathlib
import Memcache.Proofs.Batch.Exactness
import Memcache.Proofs.Connection.Closing
import Memcache.Proofs.Value.Storage

/-!
# `Memcache.Proofs.Batch.Agreement` — a key read alone and the same key read in a batch

A key can be read alone (`Request.get`, `Request.getWithCas`) or in a batch (`Request.getMany`,
`Request.getManyWithCas`), and the two ways have little in common: `Command.get` and
`Command.multiGet`, other packets that end the answer, `Reply.item?` and `Reply.found`,
`Client.readOutcome` and `Batch.merge`. Here one key is followed on both ways from the same client
and the same servers. Either `Client.plan` refuses both requests, and with the same error; or both
commands go to `Ring.locate` of the same sent key. If that owner answers both from one table of
items, or fails both, in whatever way, then what is found is the same: a value with its version
token on both ways, or nothing on both.

## Contents

* `Packet.Answers` — a packet that tells what a server holds under a key;
* `Exchange.scan_get`, `Exchange.scan_noted` — the answers on both ways, as they are read;
* `ReadAlone`, `ReadBatched` — what a command has brought; `ReadAlone.conclude_eq`,
  `ReadBatched.conclude_eq` — and what the caller gets;
* `Client.reads_agree` — **both ways give the same**.
-/

namespace Memcache

/-! ## Answers about one key -/

/-- What a packet tells of a key: the item that is held under it, in `extras` and `value`, with its
    version token in `cas`, or by its `status` that there is none to be had. -/
def Packet.Reports (p : Packet) : Option (Versioned Item) → Prop
  | some v => p.status = 0 ∧ p.extras = be 4 v.value.flags.toNat ∧ p.value = v.value.data ∧
      p.cas = v.cas
  | none => p.status ≠ 0

/-- A packet that answers a read of the key `wire` sent under the tag `base`. It may name the key,
    and its `value` has no more than 1 MiB. -/
structure Packet.Answers (p : Packet) (opcode : UInt8) (wire : String) (base : UInt32)
    (held? : Option (Versioned Item)) : Prop where
  magic : p.magic = Magic.response
  opcode : p.opcode = opcode
  tag : p.tag = base
  key : p.key = [] ∨ p.key = Text.encode wire
  extras_lt : p.extras.length < 2 ^ 8
  value_le : p.value.length ≤ 2 ^ 20
  reports : p.Reports held?

section Answers
variable {p : Packet} {opcode : UInt8} {wire : String} {base : UInt32}
  {held? : Option (Versioned Item)}

/-- It is read by `Decoder.responses` whatever follows it. -/
theorem Packet.Answers.parse (h : p.Answers opcode wire base held?)
    (hkey : Key.validate wire = .ok ()) (rest : Bytes) :
    Decoder.responses.parse (p.encode ++ rest) = .ok (some (p, p.encode.length)) := by
  have hname : p.key.length ≤ Key.maxLength := by
    rcases h.key with hnone | hwire
    · rw [hnone]
      exact Nat.zero_le _
    · rw [hwire]
      exact Key.length_le_of_validate hkey
  have hextras := h.extras_lt
  have hvalue := h.value_le
  have hlimits : Key.maxLength = 250 ∧ Decoder.responses.maxBody = 2097152 := ⟨rfl, rfl⟩
  apply Decoder.parse_encode_of_lt rest
  · rw [h.magic]
    rfl
  all_goals unfold Packet.bodyLength at *
  all_goals omega

/-- What the `Reply` to a `Command.get` holds when it has its answer. -/
def Reply.Holds (reply : Reply) : Option (Versioned Item) → Prop
  | some v => reply = { status? := some .ok, cas := v.cas, item? := some v.value }
  | none => reply.status.isOk = false

theorem Command.handle_get (h : p.Answers Opcode.get wire base held?) (place : UInt32) :
    ∃ reply : Reply, (get wire).handle {} { p with tag := place } = (reply, .ok .done) ∧
      reply.Holds held? := by
  cases held? with
  | some v =>
      obtain ⟨hstatus, hflags, hvalue, hcas⟩ := h.reports
      refine ⟨_, Command.handle_get_of_ok (p := { p with tag := place }) h.opcode hstatus hflags, ?_⟩
      rw [hvalue, hcas]
      rfl
  | none =>
      have hstatus : ¬ (Status.ofWire p.status).isOk = true := by
        rw [Status.isOk_ofWire]
        exact h.reports
      have habsorbed : (({} : Reply).absorb { p with tag := place }).status =
          Status.ofWire p.status := by
        unfold Reply.absorb Reply.status
        dsimp only
        rw [if_neg hstatus]
        rfl
      refine ⟨({} : Reply).absorb { p with tag := place }, ?_, ?_⟩
      · unfold handle expecting
        dsimp only
        rw [if_pos h.opcode, habsorbed, if_neg hstatus]
      · show (({} : Reply).absorb { p with tag := place }).status.isOk = false
        rw [habsorbed]
        exact Bool.eq_false_iff.mpr hstatus

/-- **The answer to a `Command.get`** is one packet. -/
theorem Exchange.scan_get (h : p.Answers Opcode.get wire base held?)
    (hkey : Key.validate wire = .ok ()) :
    ∃ reply : Reply, ((Command.get wire).exchange base).scan p.encode =
        ({ (Command.get wire).exchange base with reply := reply }, [], .ended (.ok ())) ∧
      reply.Holds held? := by
  obtain ⟨reply, hhandle, hholds⟩ := Command.handle_get h 0
  have hparse := h.parse hkey []
  rw [List.append_nil] at hparse
  have htake : ((Command.get wire).exchange base).take p =
      ({ (Command.get wire).exchange base with reply := reply }, .ok .done) := by
    have hplace : p.tag - base = 0 := by rw [h.tag, UInt32.sub_self]
    have hspan : ¬ (Command.get wire).span ≤ 0 := by
      show ¬ (1 : UInt32) ≤ 0
      decide
    unfold take Command.exchange
    dsimp only
    rw [hplace, if_neg hspan, hhandle]
  refine ⟨reply, ?_, hholds⟩
  rw [scan_of_packet hparse, htake, List.drop_length]
  rfl

/-- What `Reply.found` of a batch of one is. -/
def Batch.foundOf (wire : String) (held? : Option (Versioned Item)) :
    Table String (Versioned Item) :=
  held?.toList.map fun v => (wire, v)

/-- A batch of one has a tag for each of its packets. -/
theorem Batch.length_one_lt (wire : String) : [wire].length + 1 < 2 ^ 32 := by
  show 1 + 1 < 2 ^ 32
  decide

/-- A `Command.multiGet` of one key takes in what its server notes about the key. -/
theorem Exchange.take_note (h : p.Answers Opcode.getKeyQuiet wire base held?)
    (hkey : Key.validate wire = .ok ()) :
    ((Command.multiGet [wire]).exchange base).take p =
      ({ (Command.multiGet [wire]).exchange base with
          reply := { found := Batch.foundOf wire held? } }, .ok .more) := by
  have hplace : p.tag - base = 0 := by rw [h.tag, UInt32.sub_self]
  have hspan : ¬ (Command.multiGet [wire]).span ≤ 0 :=
    not_span_le (Batch.length_one_lt wire) (Nat.zero_le _)
  have hresolve : Command.resolveKey [wire] { p with tag := 0 } = some wire := by
    unfold Command.resolveKey
    rcases h.key with hnone | hwire
    · rw [if_pos (by rw [hnone]; rfl)]
      rfl
    · have hname : ¬ (Text.encode wire).isEmpty = true := by
        rw [List.isEmpty_iff]
        exact Key.encode_ne_nil_of_validate hkey
      dsimp only
      rw [hwire, if_neg hname, Text.decodeLossy_encode]
  have hnoop : ¬ p.opcode = Opcode.noop := by
    rw [h.opcode]
    decide
  have hreports := h.reports
  unfold take Command.exchange
  dsimp only
  rw [hplace, if_neg hspan]
  unfold Command.handle Command.handleBatch
  dsimp only
  rw [if_neg hnoop, if_pos (.inl h.opcode), hresolve]
  cases held? with
  | some v =>
      obtain ⟨hstatus, hflags, hvalue, hcas⟩ := hreports
      rw [if_pos hstatus, hflags]
      dsimp only
      rw [read32_of_be, hvalue, hcas]
      rfl
  | none =>
      rw [if_neg hreports]
      rfl

/-- **The answer to a batch of one** is at most one packet about the key, and the no-op,
    `Batch.closing`. -/
theorem Exchange.scan_noted {note? : Option Packet}
    (hnote : ∀ p ∈ note?, p.Answers Opcode.getKeyQuiet wire base held?)
    (hsilent : note? = none → held? = none) (hkey : Key.validate wire = .ok ()) :
    ((Command.multiGet [wire]).exchange base).scan
        (note?.toList.flatMap Packet.encode ++ (Batch.closing [wire] base).encode) =
      ({ (Command.multiGet [wire]).exchange base with
          reply := { status? := some .ok, found := Batch.foundOf wire held? } },
        [], .ended (.ok ())) := by
  have hclosing : ∀ found : Table String (Versioned Item),
      scan { (Command.multiGet [wire]).exchange base with reply := { found := found } }
          (Batch.closing [wire] base).encode =
        ({ (Command.multiGet [wire]).exchange base with
            reply := { status? := some .ok, found := found } }, [], .ended (.ok ())) := by
    intro found
    exact (scan_closing (x := { (Command.multiGet [wire]).exchange base with
      reply := { found := found } }) rfl).resolve_left fun hbeyond => hbeyond.1 (Batch.length_one_lt wire)
  cases note? with
  | none =>
      obtain rfl := hsilent rfl
      exact hclosing []
  | some p =>
      have hanswers := hnote p rfl
      have hoctets : (some p).toList.flatMap Packet.encode = p.encode := List.flatMap_singleton ..
      rw [hoctets, scan_of_packet (hanswers.parse hkey _), take_note hanswers hkey, List.drop_left]
      exact hclosing _

end Answers

/-! ## What a command has brought -/

/-- A task of the command has taken its `Task.Course` on a node, with what was `sent` and `heard` in
    it. -/
def Task.Went (command : Command) (sent : List (Nat × Bytes)) (heard : Bytes)
    (outcome : Outcome Unit) (reply : Reply) : Prop :=
  ∃ ticket n t effects, Course ticket command n t effects heard ∧ sent = requests effects ∧
    t.result? = some (.executed outcome reply)

theorem Task.Went.served {command : Command} {sent : List (Nat × Bytes)} {heard : Bytes}
    {outcome : Outcome Unit} {reply : Reply} (h : Task.Went command sent heard outcome reply) :
    Served command sent heard outcome reply := by
  obtain ⟨ticket, n, t, effects, hcourse, rfl, hresult⟩ := h
  obtain ⟨outcome', reply', hexecuted, hserved⟩ := hcourse.served hresult
  obtain ⟨rfl, rfl⟩ := TaskResult.executed.inj hexecuted
  exact hserved

/-- **What a `Command.get` has brought,** where its server holds, or gives away, `held?`. -/
inductive ReadAlone (wire : String) : Option (Versioned Item) → Outcome Unit → Reply → Prop where
  /-- The command failed. -/
  | failed {outcome : Outcome Unit} {reply : Reply} (hfailed : outcome.success = false) :
      ReadAlone wire none outcome reply
  /-- It was sent, and its answer was heard. -/
  | answered {held? : Option (Versioned Item)} {outcome : Outcome Unit} {reply : Reply}
      {link : Nat} {base : UInt32} {p : Packet}
      (hwent : Task.Went (.get wire) [(link, (Command.get wire).encode base)] p.encode outcome reply)
      (hanswers : p.Answers Opcode.get wire base held?) : ReadAlone wire held? outcome reply

/-- **What a `Command.multiGet` of one key has brought.** A server may pass over a key that it does
    not have. -/
inductive ReadBatched (wire : String) : Option (Versioned Item) → Outcome Unit → Reply → Prop where
  | failed {outcome : Outcome Unit} {reply : Reply} (hfailed : outcome.success = false) :
      ReadBatched wire none outcome reply
  | answered {held? : Option (Versioned Item)} {outcome : Outcome Unit} {reply : Reply}
      {link : Nat} {base : UInt32} {note? : Option Packet}
      (hwent : Task.Went (.multiGet [wire]) [(link, (Command.multiGet [wire]).encode base)]
        (note?.toList.flatMap Packet.encode ++ (Batch.closing [wire] base).encode) outcome reply)
      (hnote : ∀ p ∈ note?, p.Answers Opcode.getKeyQuiet wire base held?)
      (hsilent : note? = none → held? = none) : ReadBatched wire held? outcome reply

/-- The value that `Client.transcoder` makes of an item. -/
def Client.decoded? (c : Client) (v : Versioned Item) : Option (Versioned Value) :=
  match c.transcoder.deserialize v.value with
  | .ok value => some ⟨value, v.cas⟩
  | .error _ => none

section Conclude
variable {c : Client} {key wire : String} {held? : Option (Versioned Item)}
  {outcome : Outcome Unit} {reply : Reply}

/-- A command that failed has brought nothing. -/
theorem Client.readOutcome_of_failed (hfailed : outcome.success = false) :
    (c.readOutcome outcome reply).value? = none := by
  unfold readOutcome
  rw [hfailed]
  exact if_neg (by rw [hfailed]; exact Bool.false_ne_true)

/-- **A read of one key gives the value of what its server holds**, `held?`. -/
theorem ReadAlone.conclude_eq (h : ReadAlone wire held? outcome reply)
    (hkey : Key.validate wire = .ok ()) (key : String) :
    c.concludeSingle (.getWithCas key) outcome reply =
      .readWithCas (held?.bind c.decoded?) := by
  unfold Client.concludeSingle
  dsimp only
  cases h with
  | failed hfailed =>
      rw [Client.readOutcome_of_failed hfailed]
      rfl
  | answered hwent hanswers =>
      obtain ⟨reply', hscan, hholds⟩ := Exchange.scan_get hanswers hkey
      obtain ⟨hreply, houtcome⟩ := hwent.served.of_scan rfl (by rw [hscan])
      obtain rfl : reply = reply' := by
        rw [hreply, hscan]
      subst houtcome
      cases held? with
      | none =>
          have hfailed : (Node.outcome reply).success = false := by
            unfold Node.outcome
            rw [if_neg (Bool.eq_false_iff.mp hholds)]
            rfl
          rw [Client.readOutcome_of_failed hfailed]
          rfl
      | some v =>
          obtain rfl : reply = _ := hholds
          have hpassed : Node.outcome { status? := some .ok, cas := v.cas, item? := some v.value } =
              .pass v.cas := rfl
          rw [hpassed]
          show Answer.readWithCas _ = .readWithCas (c.decoded? v)
          have hsuccess : (Outcome.pass v.cas : Outcome Unit).success = true := rfl
          unfold Client.readOutcome Client.decoded?
          rw [if_pos hsuccess]
          dsimp only
          cases c.transcoder.deserialize v.value <;> rfl

/-- **A batch of one gives the same value**, under the caller's key in `Batch.callerKeys`. -/
theorem ReadBatched.conclude_eq (h : ReadBatched wire held? outcome reply)
    (hkey : Key.validate wire = .ok ()) {b : Batch} (hb : b.callerKeys = [(wire, key)])
    (server : Endpoint) :
    b.merge c.transcoder [⟨server, outcome, reply⟩] =
      (held?.bind c.decoded?).toList.map fun v => (key, v) := by
  rw [Batch.merge_eq, List.flatMap_singleton]
  cases h with
  | failed hfailed =>
      unfold Batch.findings
      rw [if_neg (by rw [hfailed]; exact Bool.false_ne_true)]
      rfl
  | answered hwent hnote hsilent =>
      have hscan := Exchange.scan_noted hnote hsilent hkey
      obtain ⟨hreply, houtcome⟩ := hwent.served.of_scan rfl (by rw [hscan])
      rw [hscan] at hreply
      subst hreply houtcome
      have hsuccess :
          (Node.outcome { status? := some .ok, found := Batch.foundOf wire held? }).success = true :=
        rfl
      unfold Batch.findings
      rw [if_pos hsuccess]
      cases held? with
      | none => rfl
      | some v =>
          show Table.write ([(wire, v)].filterMap (b.finding c.transcoder)) [] = _
          have hfinding : b.finding c.transcoder (wire, v) =
              (c.decoded? v).map fun v => (key, v) := by
            unfold Batch.finding Client.decoded?
            rw [hb, Table.lookup, if_pos rfl]
            cases c.transcoder.deserialize v.value <;> rfl
          rw [List.filterMap_cons, hfinding]
          show _ = ((c.decoded? v).toList.map fun v => (key, v))
          cases c.decoded? v <;> rfl

end Conclude

/-! ## Both ways -/

namespace Client

variable {c : Client} {clock : WallTime} {f : Fleet} {key wire : String}

/-- The responses to a `Request.getWithCas` and to a `Request.getManyWithCas` of its key, from the
    same servers: there are none if the key has no living owner, and else each has brought what the
    owner lets be read, as `ReadAlone` and as `ReadBatched`. -/
inductive BothRead (wire : String) : Option Endpoint → List Response → List Response → Prop where
  | unowned : BothRead wire none [] []
  | owned {server : Endpoint} {held? : Option (Versioned Item)} {single batched : Response}
      (hserver : single.server = server ∧ batched.server = server)
      (hsingle : ReadAlone wire held? single.outcome single.reply)
      (hbatched : ReadBatched wire held? batched.outcome batched.reply) :
      BothRead wire (some server) [single] [batched]

/-- The `Batch` of one key. -/
theorem of_one (locate : String → Option Endpoint) (key wire : String) :
    (Batch.of locate [(wire, key)]).callerKeys = [(wire, key)] ∧
      (Batch.of locate [(wire, key)]).shares =
        (locate wire).toList.map fun server => (server, [wire]) := by
  refine ⟨Batch.callerKeys_of, ?_⟩
  show (Batch.assign locate wire { callerKeys := [(wire, key)] }).shares = _
  unfold Batch.assign
  cases locate wire <;> rfl

/-- Both requests are refused by `Client.plan` for the same reason, or none of them is. -/
theorem plan_one (c : Client) (clock : WallTime) (f : Fleet) (key : String) :
    (∃ e, c.plan clock f (.getWithCas key) = .error e ∧
      c.plan clock f (.getManyWithCas [key]) = .error e) ∨
    ∃ wire, c.wireKey key = .ok wire ∧
      c.plan clock f (.getWithCas key) = .ok (.single (f.locate wire) (.get wire)) ∧
      c.plan clock f (.getManyWithCas [key]) = .ok (.batch (.of f.locate [(wire, key)])) := by
  unfold plan
  dsimp only
  cases f.disposed with
  | true => exact .inl ⟨.disposed, rfl, rfl⟩
  | false =>
      cases hwire : c.wireKey key with
      | error e =>
          refine .inl ⟨e, rfl, ?_⟩
          simp [callerKeys, hwire]
      | ok wire =>
          refine .inr ⟨wire, rfl, rfl, ?_⟩
          simp [callerKeys, hwire, Table.insert]

/-- **A key read alone and the same key read in a batch give the same.** From the same state of a
    client, with any `Client.keys` and any `Client.transcoder`, `Client.plan` refuses both requests
    with the same error; or both commands are for the owner of the sent key, `Fleet.locate`, if it
    has a living one, and for nobody else. Then, if the owner answers both from the same table of
    items with values of at most 1 MiB or fails both (`BothRead`), the value with its version token
    that the one gives is the one entry of what the other gives, and where the one gives nothing the
    other gives no entry. -/
theorem reads_agree (c : Client) (clock : WallTime) (f : Fleet) (key : String) :
    (∃ e, c.plan clock f (.getWithCas key) = .error e ∧
      c.plan clock f (.getManyWithCas [key]) = .error e) ∨
    ∃ wire single batched, c.wireKey key = .ok wire ∧
      c.plan clock f (.getWithCas key) = .ok single ∧
      c.plan clock f (.getManyWithCas [key]) = .ok batched ∧
      single.shares = (f.locate wire).toList.map (fun server => (server, .get wire)) ∧
      batched.shares = (f.locate wire).toList.map (fun server => (server, .multiGet [wire])) ∧
      ∀ rs rs', BothRead wire (f.locate wire) rs rs' →
        ∃ found? found, c.conclude (.getWithCas key) single rs = .readWithCas found? ∧
          c.conclude (.getManyWithCas [key]) batched rs' = .manyWithCas found ∧
          (∀ v, found? = some v ↔ found = [(key, v)]) ∧ (found? = none ↔ found = []) := by
  rcases plan_one c clock f key with hrefused | ⟨wire, hwire, hsingle, hbatched⟩
  · exact .inl hrefused
  · right
    obtain ⟨hcallers, hshares⟩ := of_one f.locate key wire
    refine ⟨wire, _, _, hwire, hsingle, hbatched, rfl, ?_, ?_⟩
    · unfold Plan.shares
      dsimp only
      rw [hshares, List.map_map]
      rfl
    · intro rs rs' hread
      have hkey := (wireKey_eq_ok hwire).2
      generalize f.locate wire = owner? at hread ⊢
      cases hread with
      | unowned => exact ⟨none, [], rfl, rfl, by simp, by simp⟩
      | owned hserver hsingle hbatched =>
          rename_i held? single batched
          refine ⟨held?.bind c.decoded?, (held?.bind c.decoded?).toList.map fun v => (key, v), ?_, ?_,
            ?_, ?_⟩
          · show c.concludeSingle (.getWithCas key) single.outcome single.reply = _
            exact hsingle.conclude_eq hkey key
          · show Answer.manyWithCas (Batch.merge _ _ [batched]) = _
            rw [hbatched.conclude_eq hkey hcallers batched.server]
          · intro v
            cases held?.bind c.decoded? <;> simp
          · cases held?.bind c.decoded? <;> simp

/-- A reply to a read of one key: a text under the version token 7. -/
def textNote (opcode : UInt8) : Packet where
  magic := Magic.response
  opcode := opcode
  cas := 7
  extras := be 4 Flags.text.toNat
  value := [0x76]

/-- The text of the reply. -/
def textHeld : Versioned Item :=
  ⟨⟨Flags.text, [0x76]⟩, 7⟩

/-- A command on a `Node.new` takes its course to the end of an answer. -/
theorem went_answered {command : Command} {bs : Bytes}
    (hscan : ((command.exchange 0).scan bs).2.2 = .ended (.ok ())) :
    ∃ outcome reply, Task.Went command [(0, command.encode 0)] bs outcome reply := by
  obtain ⟨n, t, hcourse, hresult⟩ :=
    Task.Course.exists_answered ⟨"b:2"⟩ {} .failImmediately 0 0 hscan
  exact ⟨_, _, 0, n, t, _, hcourse, rfl, hresult⟩

/-- A text, `textHeld`, is read on both ways, although a batch names its keys and a single read does
    not. -/
theorem reads_agree_text :
    ∃ single batched rs rs', spaced.plan 0 halves (.getWithCas "k") = .ok single ∧
      spaced.plan 0 halves (.getManyWithCas ["k"]) = .ok batched ∧
      BothRead "ns:k" (some ⟨"b:2"⟩) rs rs' ∧
      spaced.conclude (.getWithCas "k") single rs = .readWithCas (some ⟨.text "v", 7⟩) ∧
      spaced.conclude (.getManyWithCas ["k"]) batched rs' = .manyWithCas [("k", ⟨.text "v", 7⟩)] := by
  have hk : spaced.wireKey "k" = .ok "ns:k" := by decide +kernel
  have howner : halves.locate "ns:k" = some ⟨"b:2"⟩ := by decide +kernel
  have hkey := (wireKey_eq_ok hk).2
  have hsingle : (textNote Opcode.get).Answers Opcode.get "ns:k" 0 (some textHeld) :=
    ⟨rfl, rfl, rfl, .inl rfl, by decide, by decide, rfl, rfl, rfl, rfl⟩
  have hnote : ∀ p ∈ some (textNote Opcode.getKeyQuiet),
      p.Answers Opcode.getKeyQuiet "ns:k" 0 (some textHeld) := by
    rintro p ⟨⟩
    exact ⟨rfl, rfl, rfl, .inl rfl, by decide, by decide, rfl, rfl, rfl, rfl⟩
  obtain ⟨reply, hscan, -⟩ := Exchange.scan_get hsingle hkey
  obtain ⟨outcome, reply, hwent⟩ := went_answered (by rw [hscan])
  have hscan' := Exchange.scan_noted hnote nofun hkey
  obtain ⟨outcome', reply', hwent'⟩ := went_answered (by rw [hscan'])
  have hread : BothRead "ns:k" (some ⟨"b:2"⟩) [⟨⟨"b:2"⟩, outcome, reply⟩]
      [⟨⟨"b:2"⟩, outcome', reply'⟩] :=
    .owned ⟨rfl, rfl⟩ (.answered hwent hsingle) (.answered hwent' hnote nofun)
  have hplan : spaced.plan 0 halves (.getWithCas "k") =
      .ok (.single (some ⟨"b:2"⟩) (.get "ns:k")) := by decide +kernel
  rcases reads_agree spaced 0 halves "k" with ⟨e, hrefused, -⟩ | hplanned
  · rw [hplan] at hrefused
    cases hrefused
  · obtain ⟨wire, single, batched, hwire, hone, hbatched, -, -, hagree⟩ := hplanned
    obtain rfl : "ns:k" = wire := Except.ok.inj (hk.symm.trans hwire)
    obtain rfl := Except.ok.inj (hplan.symm.trans hone)
    rw [howner] at hagree
    obtain ⟨found?, found, hfound?, hfound, hiff, -⟩ := hagree _ _ hread
    have hvalue : spaced.conclude (.getWithCas "k") (.single (some ⟨"b:2"⟩) (.get "ns:k"))
        [⟨⟨"b:2"⟩, outcome, reply⟩] = .readWithCas (some ⟨.text "v", 7⟩) :=
      (ReadAlone.answered hwent hsingle).conclude_eq hkey "k"
    obtain rfl : some ⟨.text "v", 7⟩ = found? := by
      simpa using hvalue.symm.trans hfound?
    obtain rfl := (hiff _).mp rfl
    exact ⟨_, batched, _, _, hplan, hbatched, hread, hvalue, hfound⟩

end Client

end Memcache
