import Memcache.Command
import Memcache.Text.Numeral

/-!
# `Memcache.Value` — typed values and the items that hold them

A server stores octets and 32 bits of flags. The flags say which kind of value the octets are, so
that a value comes back as what it was. Numbers are stored as decimal text, because the server
counts on that text; an item without flags was made by the server and reads as text where it can.

## Contents

* `Value` and its views `asText?`, `asU64?`, `asI64?`, `asBool?`;
* `Value.flags`, `Value.toBytes` — the stored form; `Value.ofItem` — the value of an item;
* `Transcoder` — a pair of conversions; `Transcoder.standard` — these ones, with a size limit.
-/

namespace Memcache

/-- A value that can be cached. -/
inductive Value where
  | bytes (data : Bytes)
  | text (s : String)
  | i64 (n : Int64)
  | u64 (n : UInt64)
  | bool (b : Bool)
  deriving DecidableEq, Repr

/-- Why a value could not be stored or an item not be read. -/
inductive TranscodeError where
  | tooLarge (size max : Nat)
  | invalidUtf8
  | invalidNumber (stored : String)
  deriving DecidableEq, Repr

/-- The wording of an error. -/
def TranscodeError.message : TranscodeError → String
  | .tooLarge size max => s!"item is {size} bytes (max: {max})"
  | .invalidUtf8 => "stored string is not valid UTF-8"
  | .invalidNumber stored => "stored value " ++ Text.quoted stored ++ " is not a valid number"

/-! ## Flags -/

namespace Flags

/-- Made by the server, without a type. -/
def untyped : UInt32 := 0

def bytes : UInt32 := 0xfa52

def bool : UInt32 := 0x103

def i64 : UInt32 := 0x10b

def u64 : UInt32 := 0x10c

def text : UInt32 := 0x112

end Flags

namespace Value

/-! ## Views -/

/-- The text of a value that is a `text`. -/
def asText? : Value → Option String
  | .text s => some s
  | _ => none

/-- The truth value of a value that is a `bool`. -/
def asBool? : Value → Option Bool
  | .bool b => some b
  | _ => none

/-- The value as a counter, also out of a `text`, by `parseU64?`. -/
def asU64? : Value → Option UInt64
  | .u64 n => some n
  | .i64 n => if 0 ≤ n.toInt then some (UInt64.ofNat n.toInt.toNat) else none
  | .text s => Text.parseU64? (Text.trimChars s.toList)
  | _ => none

/-- The value as a signed number, also out of a `text`, by `parseI64?`. -/
def asI64? : Value → Option Int64
  | .i64 n => some n
  | .u64 n => if n.toNat < UInt64.size / 2 then some (Int64.ofNat n.toNat) else none
  | .text s => Text.parseI64? (Text.trimChars s.toList)
  | _ => none

/-- The value as a reader sees it. -/
def display : Value → String
  | .bytes data => Text.decodeLossy data
  | .text s => s
  | .i64 n => toString n.toInt
  | .u64 n => toString n.toNat
  | .bool b => if b then "true" else "false"

/-! ## The stored form -/

/-- The flags that mark a value's kind. -/
def flags : Value → UInt32
  | .bytes _ => Flags.bytes
  | .text _ => Flags.text
  | .i64 _ => Flags.i64
  | .u64 _ => Flags.u64
  | .bool _ => Flags.bool

/-- The octets that are stored. -/
def toBytes : Value → Bytes
  | .bytes data => data
  | .text s => Text.encode s
  | .i64 n => Text.encode (toString n.toInt)
  | .u64 n => Text.encode (toString n.toNat)
  | .bool b => Text.encode (if b then "1" else "0")

/-- A number that `parse` finds in stored octets. Blanks around it are allowed, since servers pad
    the text of a counter that has become shorter. -/
def parseNumber {α : Type} (parse : List Char → Option α) (data : Bytes) :
    Except TranscodeError α :=
  match Text.decode? data with
  | none => .error .invalidUtf8
  | some s =>
    match parse (Text.trimChars s.toList) with
    | none => .error (.invalidNumber s)
    | some n => .ok n

/-- The value that an item holds, by its `flags`. Flags of other writers read as octets. -/
def ofItem (item : Item) : Except TranscodeError Value :=
  if item.flags = Flags.untyped then
    match Text.decode? item.data with
    | some s => .ok (.text s)
    | none => .ok (.bytes item.data)
  else if item.flags = Flags.text then
    match Text.decode? item.data with
    | some s => .ok (.text s)
    | none => .error .invalidUtf8
  else if item.flags = Flags.i64 then (parseNumber Text.parseI64? item.data).map .i64
  else if item.flags = Flags.u64 then (parseNumber Text.parseU64? item.data).map .u64
  else if item.flags = Flags.bool then .ok (.bool (item.data.head? == some 0x31))
  else .ok (.bytes item.data)

end Value

/-! ## Transcoders -/

/-- A way to store values and to read them back. -/
structure Transcoder where
  /-- How the transcoder is listed. -/
  label : String
  serialize : Value → Except TranscodeError Item
  deserialize : Item → Except TranscodeError Value

/-- The largest item that a server takes unless it is told otherwise. -/
def defaultMaxItem : Nat := 1048576

/-- Values in their stored form, `Value.flags` and `Value.toBytes`, up to `max` octets. -/
def Transcoder.standard (max : Nat := defaultMaxItem) : Transcoder where
  label := "DefaultTranscoder \x7b max_item_size: " ++ toString max ++ " \x7d"
  serialize v :=
    let data := v.toBytes
    if max < data.length then .error (.tooLarge data.length max) else .ok ⟨v.flags, data⟩
  deserialize := Value.ofItem

end Memcache
