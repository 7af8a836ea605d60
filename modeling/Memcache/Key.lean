import Memcache.Digest.Md5
import Memcache.Text.Quoted
import Memcache.Text.Utf8

/-!
# `Memcache.Key` — keys and what is done to them before they travel

A server takes keys of 1 to 250 octets without blanks or controls. A caller's key goes through a
transformation first; its result is what is placed on the ring and what is sent.

## Contents

* `KeyError`; `Key.validate` — the three rules in their order;
* `KeyTransform` — any transformation; `plain`, `digest` and `namespaced` are the built-in ones.
-/

namespace Memcache

/-- Why a key cannot be sent. -/
inductive KeyError where
  | empty
  | tooLong (length max : Nat)
  | invalidCharacter (c : Char)
  deriving DecidableEq, Repr

/-- The wording of an error. -/
def KeyError.message : KeyError → String
  | .empty => "key is empty"
  | .tooLong length max => s!"key is {length} bytes long (max: {max})"
  | .invalidCharacter c => "key contains invalid character " ++ Text.quotedChar c

namespace Key

/-- The longest key that a server takes, in octets. -/
def maxLength : Nat := 250

/-- True for characters that no key may hold. -/
def isForbidden (c : Char) : Bool :=
  Text.isBlank c || Text.isControl c

/-- Checks a key: not empty, no longer than `maxLength`, and no character that `isForbidden`. -/
def validate (key : String) : Except KeyError Unit :=
  if key.isEmpty then .error .empty
  else if maxLength < key.utf8ByteSize then .error (.tooLong key.utf8ByteSize maxLength)
  else
    match key.toList.find? isForbidden with
    | some c => .error (.invalidCharacter c)
    | none => .ok ()

end Key

/-- A way to make the key that is sent out of the caller's key. -/
structure KeyTransform where
  /-- How the transformation is listed. -/
  label : String
  apply : String → Except KeyError String

namespace KeyTransform

/-- Valid keys as they are. -/
def plain : KeyTransform where
  label := "DefaultKeyTransformer"
  apply key := (Key.validate key).map fun _ => key

/-- The digest of the key in hexadecimal, so that keys of any length and content can be used. -/
def digest : KeyTransform where
  label := "Md5KeyTransformer"
  apply key := if key.isEmpty then .error .empty else .ok (hex (Digest.md5 (Text.encode key)))

/-- The key behind the name `lead` that is common to all keys. The name counts towards the
    length. -/
def namespaced (lead : String) : KeyTransform where
  label := "PrefixKeyTransformer \x7b prefix: " ++ Text.quoted lead ++ " \x7d"
  apply key :=
    if key.isEmpty then .error .empty else (Key.validate (lead ++ key)).map fun _ => lead ++ key

end KeyTransform

end Memcache
