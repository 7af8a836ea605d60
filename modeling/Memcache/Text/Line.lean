/-!
# `Memcache.Text.Line` — a text line by line

A line ends with a line feed, which may follow a carriage return. What stands after the last line
end is a line of its own, unless nothing does.

## Contents

* `splitLines` — the lines of a list of characters, without their ends;
* `lines` — the lines of a text.
-/

namespace Memcache.Text

/-- The lines of a list of characters, without their ends. -/
def splitLines : List Char → List (List Char)
  | [] => []
  | '\n' :: cs => [] :: splitLines cs
  | '\r' :: '\n' :: cs => [] :: splitLines cs
  | c :: cs =>
    match splitLines cs with
    | [] => [[c]]
    | line :: rest => (c :: line) :: rest

/-- The lines of a text, without their ends, by `splitLines`. -/
def lines (s : String) : List String :=
  (splitLines s.toList).map String.ofList

end Memcache.Text
