import Mathlib
import Memcache.Command.Reply
import Memcache.Value
import Memcache.Proofs.Text.Decimal
import Memcache.Proofs.Wire.Chunking
import Memcache.Proofs.Wire.RoundTrip

/-!
# `Memcache.Proofs.Value.Storage` — values that are stored and read again

A value on its way through a server is written as an item (`Value.flags`, `Value.toBytes`), put into
a packet, read out of the packet by the server, put into another packet by the server, and so on
back. Each leg has limits of its own: `defaultMaxItem` is a mebibyte, `Key.maxLength` 250 octets,
`Decoder.maxBody` two mebibytes, and the lengths of key and extras have 16 and 8 bits. The limits
fit together, so a value that can be stored at all comes back as it was.

## Contents

* `Value.ofItem_toBytes` — **an item holds the value that it was made of**;
* `Decoder.drain_encode` — a packet with nothing behind it is all that is found;
* `take_storeExtras`, `Command.encode_store` — the one packet of a store;
* `Command.handle_get_of_ok` — what a read makes of a success;
* `storable_read_back` — **every value that can be stored comes back through the wire**.
-/

namespace Memcache

/-! ## Items -/

namespace Value

/-- By `parseNumber` a number is read from stored octets as it is read from the text that they
    are. -/
theorem parseNumber_encode {α : Type} {parse : List Char → Option α} {s : String} {n : α}
    (hblank : ∀ c ∈ s.toList, Text.isBlank c = false) (hparse : parse s.toList = some n) :
    parseNumber parse (Text.encode s) = .ok n := by
  unfold parseNumber
  rw [Text.decode?_encode]
  dsimp only
  rw [Text.trimChars_eq_self hblank, hparse]

/-- Octets that are flagged `Flags.text` are read as what they encode. -/
theorem ofItem_text {item : Item} {s : String} (hflags : item.flags = Flags.text)
    (hdata : Text.decode? item.data = some s) : ofItem item = .ok (.text s) := by
  have hkind : ¬ Flags.text = Flags.untyped := by decide
  unfold ofItem
  rw [hflags, if_neg hkind, if_pos rfl, hdata]

/-- **An item of `Value.flags` and `Value.toBytes` holds the value that it was made of**, of the
    same kind and with the same content. -/
theorem ofItem_toBytes (v : Value) : ofItem ⟨v.flags, v.toBytes⟩ = .ok v := by
  cases v with
  | bytes data => rfl
  | text s => exact ofItem_text rfl (Text.decode?_encode s)
  | i64 n =>
      have hread : parseNumber Text.parseI64? (Text.encode (toString n.toInt)) = .ok n :=
        parseNumber_encode (fun c => Text.isBlank_of_mem_toString) (Text.parseI64?_toString n)
      show (parseNumber Text.parseI64? (Text.encode (toString n.toInt))).map Value.i64 = _
      rw [hread]
      rfl
  | u64 n =>
      have hblank : ∀ c ∈ (toString n.toNat).toList, Text.isBlank c = false := fun c hc =>
        Text.isBlank_of_isDigit (Text.isDigit_of_mem_toString hc)
      have hread : parseNumber Text.parseU64? (Text.encode (toString n.toNat)) = .ok n :=
        parseNumber_encode hblank (Text.parseU64?_toString n)
      show (parseNumber Text.parseU64? (Text.encode (toString n.toNat))).map Value.u64 = _
      rw [hread]
      rfl
  | bool b =>
      cases b with
      | true => rfl
      | false => rfl

end Value

namespace Transcoder

/-- What `serialize` makes of a value that can be stored: its flags and its octets, no more than
    `max`. -/
theorem serialize_eq_ok {max : Nat} {v : Value} {item : Item}
    (h : (standard max).serialize v = .ok item) :
    item = ⟨v.flags, v.toBytes⟩ ∧ item.data.length ≤ max := by
  have hcases : (if max < v.toBytes.length then .error (.tooLarge v.toBytes.length max)
      else .ok ⟨v.flags, v.toBytes⟩ : Except TranscodeError Item) = .ok item := h
  split at hcases
  · contradiction
  · next hsize =>
      obtain rfl := Except.ok.inj hcases
      exact ⟨rfl, Nat.le_of_not_lt hsize⟩

/-- A value that can be stored is read back from its item, whatever the limit `max` was. -/
theorem deserialize_serialize {max : Nat} {v : Value} {item : Item}
    (h : (standard max).serialize v = .ok item) : (standard max).deserialize item = .ok v := by
  obtain ⟨rfl, -⟩ := serialize_eq_ok h
  exact v.ofItem_toBytes

end Transcoder

/-! ## Packets on their own -/

/-- **A packet with nothing behind it is all that `drain` finds.** -/
theorem Decoder.drain_encode {d : Decoder} {p : Packet} (hmagic : d.accepts p.magic = true)
    (hmax : p.bodyLength ≤ d.maxBody) (hsize : p.bodyLength < 2 ^ 32)
    (hkey : p.key.length < 2 ^ 16) (hextras : p.extras.length < 2 ^ 8) :
    d.drain p.encode = ⟨[p], [], none⟩ := by
  have hparse := parse_encode_of_lt [] hmagic hmax hsize hkey hextras
  rw [List.append_nil] at hparse
  rw [drain_of_packet hparse, List.drop_length, drain_of_none rfl]

/-- The extras of a store begin with its `flags`, in four octets. -/
theorem take_storeExtras (flags expires : UInt32) :
    (storeExtras flags expires).take 4 = be 4 flags.toNat :=
  List.take_left' (length_be 4 flags.toNat)

/-- The one packet of a store. -/
def Command.storeRequest (mode : StoreMode) (key : String) (item : Item) (expires : UInt32)
    (cas : UInt64) (tag : UInt32) : Packet where
  opcode := mode.opcode
  tag := tag
  cas := cas
  extras := storeExtras item.flags expires
  key := Text.encode key
  value := item.data

theorem Command.encode_store (mode : StoreMode) (key : String) (item : Item) (expires : UInt32)
    (cas : UInt64) (tag : UInt32) :
    (store mode key item expires cas).encode tag =
      (storeRequest mode key item expires cas tag).encode :=
  List.flatMap_singleton ..

/-! ## Answers to a read -/

/-- A packet of status 0 leaves its CAS in the reply. -/
theorem Reply.absorb_of_ok (r : Reply) {p : Packet} (h : p.status = 0) :
    r.absorb p = { r with status? := some .ok, cas := p.cas, message? := none } := by
  simp only [absorb, h]
  rfl

/-- A packet of status 0 that names its flags in the extras gives a `get` its item. -/
theorem Command.handle_get_of_ok {key : String} {p : Packet} {flags : UInt32}
    (hopcode : p.opcode = Opcode.get) (hstatus : p.status = 0)
    (hflags : p.extras = be 4 flags.toNat) :
    (get key).handle {} p =
      ({ status? := some .ok, cas := p.cas, item? := some ⟨flags, p.value⟩ }, .ok .done) := by
  simp only [handle, expecting, if_pos hopcode, Reply.absorb_of_ok _ hstatus, hflags,
    read32_of_be]
  rfl

/-! ## There and back -/

/-- **Every value that can be stored comes back through the wire.** Let `serialize` make `item` of
    the value, and let it be stored under a key that `Key.validate` accepts, in any `mode` and with
    any expiration, CAS and tag. Then a server finds one packet in the octets of `Command.store`,
    and in it the key, the flags, the expiration, the CAS and the stored octets.

    And let a server answer a `Command.get` of the key with status 0, those flags and those octets.
    Then a client finds that answer in its octets, whatever follows them; it ends the read, whose
    status is success and whose CAS is that of the answer; and `deserialize` decodes the item that
    was read into the value. -/
theorem storable_read_back (v : Value) (item : Item) (key : String) (mode : StoreMode)
    (expires : UInt32) (cas : UInt64) (tag : UInt32)
    (hstored : Transcoder.standard.serialize v = .ok item) (hkey : Key.validate key = .ok ()) :
    ∃ request, Decoder.requests.drain ((Command.store mode key item expires cas).encode tag) =
        ⟨[request], [], none⟩ ∧
      request.opcode = mode.opcode ∧ request.tag = tag ∧ request.cas = cas ∧
      Text.decode? request.key = some key ∧ request.value = item.data ∧
      request.extras.length = 8 ∧ read32 request.extras = .ok item.flags ∧
      read32 (request.extras.drop 4) = .ok expires ∧
      ∀ answer : Packet, answer.magic = Magic.response → answer.opcode = Opcode.get →
        answer.status = 0 → answer.extras = request.extras.take 4 → answer.key.length < 2 ^ 16 →
        answer.value = request.value →
          (∀ rest, Decoder.responses.parse (answer.encode ++ rest) =
            .ok (some (answer, answer.encode.length))) ∧
          ∀ place, ∃ reply, (Command.get key).handle {} { answer with tag := place } =
              (reply, .ok .done) ∧
            reply.status = .ok ∧ reply.cas = answer.cas ∧
            ∃ read, reply.item? = some read ∧ Transcoder.standard.deserialize read = .ok v := by
  obtain ⟨hitem, hdata⟩ := Transcoder.serialize_eq_ok hstored
  have hname := Key.length_le_of_validate hkey
  have hlimits : Key.maxLength = 250 ∧ defaultMaxItem = 1048576 ∧
      Decoder.requests.maxBody = 2097152 ∧ Decoder.responses.maxBody = 2097152 :=
    ⟨rfl, rfl, rfl, rfl⟩
  have hextras : (storeExtras item.flags expires).length = 8 := by
    rw [storeExtras, List.length_append, length_be, length_be]
  refine ⟨Command.storeRequest mode key item expires cas tag, ?_, rfl, rfl, rfl,
    Text.decode?_encode key, rfl, hextras, read32_be item.flags _, ?_, ?_⟩
  · rw [Command.encode_store]
    refine Decoder.drain_encode rfl ?_ ?_ ?_ ?_
    all_goals simp only [Command.storeRequest, Packet.bodyLength, hextras]
    all_goals omega
  · rw [Command.storeRequest, storeExtras, List.drop_left' (length_be 4 item.flags.toNat)]
    exact read32_of_be expires
  · intro answer hmagic hopcode hstatus hflags hshort hvalue
    dsimp only [Command.storeRequest] at hflags hvalue
    rw [take_storeExtras] at hflags
    constructor
    · intro rest
      refine Decoder.parse_encode_of_lt rest ?_ ?_ ?_ hshort ?_
      · rw [hmagic]
        rfl
      all_goals simp only [Packet.bodyLength, hflags, hvalue, length_be]
      all_goals omega
    · intro place
      refine ⟨{ status? := some .ok, cas := answer.cas, item? := some item }, ?_, rfl, rfl, item,
        rfl, Transcoder.deserialize_serialize hstored⟩
      rw [Command.handle_get_of_ok (p := { answer with tag := place }) hopcode hstatus hflags]
      dsimp only
      rw [hvalue]

/-- The item of the smallest signed number. -/
def lowest : Item where
  flags := Flags.i64
  data := Text.encode "-9223372036854775808"

/-- A server's answer to a read of the smallest signed number. -/
def lowestAnswer : Packet :=
  { magic := Magic.response, opcode := Opcode.get, cas := 7, extras := be 4 lowest.flags.toNat
    value := lowest.data }

/-- The smallest signed number comes back, stored with the last of the tags. -/
theorem storable_read_back_lowest :
    Transcoder.standard.serialize (.i64 Int64.minValue) = .ok lowest ∧
      Key.validate "k" = .ok () ∧
      ∃ request reply read,
        Decoder.requests.drain ((Command.store .add "k" lowest 60 0).encode 0xffffffff) =
          ⟨[request], [], none⟩ ∧
        request.value = lowest.data ∧
        (Command.get "k").handle {} lowestAnswer = (reply, .ok .done) ∧ reply.cas = 7 ∧
        reply.item? = some read ∧
        Transcoder.standard.deserialize read = .ok (.i64 Int64.minValue) := by
  have hstored : Transcoder.standard.serialize (.i64 Int64.minValue) = .ok lowest := by rfl
  have hkey : Key.validate "k" = .ok () := by cbv
  obtain ⟨request, hdrain, -, -, -, -, hvalue, -, -, -, hanswer⟩ :=
    storable_read_back _ _ _ .add 60 0 0xffffffff hstored hkey
  have hfound : Decoder.requests.drain ((Command.store .add "k" lowest 60 0).encode 0xffffffff) =
      ⟨[Command.storeRequest .add "k" lowest 60 0 0xffffffff], [], none⟩ := by cbv
  obtain rfl : request = Command.storeRequest .add "k" lowest 60 0 0xffffffff := by
    have heq := hdrain.symm.trans hfound
    simpa using heq
  obtain ⟨-, hread⟩ := hanswer lowestAnswer rfl rfl rfl rfl (by decide) rfl
  obtain ⟨reply, hhandle, -, hcas, read, hitem, hvalue⟩ := hread 0
  exact ⟨hstored, hkey, _, reply, read, hdrain, rfl, hhandle, hcas, hitem, hvalue⟩

end Memcache
