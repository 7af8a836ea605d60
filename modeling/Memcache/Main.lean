import Memcache.CommandLine
import Memcache.Sim.Session

/-!
# `Memcache.Main` — the program

The command line on a machine without a network: every server refuses, and every text and exit code
is what it would be if they did.
-/

open Memcache

/-- Reads the words, prints what there is to print, and ends with the exit code. -/
def main (words : List String) : IO UInt32 := do
  let printout := CommandLine.run (Sim.serve {} 0) words
  IO.print printout.out
  IO.eprint printout.errors
  return UInt32.ofNat printout.exit
