import Memcache.Bytes
import Memcache.Text.Visible

/-!
# `Memcache.Text.Quoted` — texts and characters between quotes

Messages show foreign text between quotes, with an escape wherever the raw character would mislead:
the usual one-letter escapes, a backslash before the backslash and the quote in use, and the code
point in braces for everything that is not visible.

## Contents

* `escape quote c` — one character as it stands between `quote`s;
* `quoted` — a text between double quotes;
* `quotedChar` — a character between single quotes.
-/

namespace Memcache.Text

/-- A character as it is written between two `quote` characters. -/
def escape (quote c : Char) : String :=
  if c = '\x00' then "\\0"
  else if c = '\t' then "\\t"
  else if c = '\n' then "\\n"
  else if c = '\r' then "\\r"
  else if c = '\\' ∨ c = quote then String.ofList ['\\', c]
  else if isVisible c then String.singleton c
  else "\\u\x7b" ++ hexDigits 1 c.toNat ++ "\x7d"

/-- A text between double quotes. -/
def quoted (s : String) : String :=
  s.foldl (fun acc c => acc ++ escape '"' c) "\"" ++ "\""

/-- A character between single quotes. -/
def quotedChar (c : Char) : String :=
  "'" ++ escape '\'' c ++ "'"

end Memcache.Text
