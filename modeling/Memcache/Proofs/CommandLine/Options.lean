import Mathlib
import Memcache.CommandLine

/-!
# `Memcache.Proofs.CommandLine.Options` — where the options end

`CommandLine.scan` reads the words of a command line from the front, some of them two at a time: the
word behind `Switch.server` is an address, whatever it looks like, and behind the first word that is
no option nothing is an option any more. Here it is said without the reader what a run of options is
(`Options`), and how the words can go on behind it (`Ends`). The reader is then a function from the
words to the one way in which they can be taken apart.

The reader collects what it has read in an `Invocation`. So a run of options is read by induction on
the run, whatever was collected before it (`scan_append`), and the run is found by induction on the
words, along the turns of the reader itself (`exists_ends_scan`).

## Contents

* `Switch.spellings`, `IsOption`, `Options` — options, and runs of them;
* `Ends` — how the words go on behind the run;
* `Reading`, `reading_iff` — **words are read in exactly one way**;
* `Splits`, `exists_splits_unique` — the run of options and the command are found in exactly one way.
-/

namespace Memcache.CommandLine

/-! ## Options -/

/-- How an option is spelt. -/
def Switch.spellings : Switch → List String
  | .server => ["--server", "-s"]
  | .verbose => ["--verbose"]
  | .help => ["--help"]
  | .version => ["--version", "-v"]

/-- The words that are options, by `Switch.spellings`. -/
def IsOption (word : String) : Prop :=
  ∃ s : Switch, word ∈ s.spellings

/-- **A run of options,** with the servers that it names in order, and whether it asks for details.
    The word behind `Switch.server` is a server, even if it is spelt like an option. -/
inductive Options : List String → List String → Bool → Prop where
  | done : Options [] [] false
  | server {flag address : String} {words servers : List String} {verbose : Bool}
      (hflag : flag ∈ Switch.server.spellings) (hrest : Options words servers verbose) :
      Options (flag :: address :: words) (address :: servers) verbose
  | verbose {flag : String} {words servers : List String} {verbose : Bool}
      (hflag : flag ∈ Switch.verbose.spellings) (hrest : Options words servers verbose) :
      Options (flag :: words) servers true

namespace Switch

variable {word : String} {s : Switch}

/-- **An option is known by its spelling** to `Switch.ofWord?`. -/
theorem ofWord?_eq_some_iff : ofWord? word = some s ↔ word ∈ s.spellings := by
  constructor
  · intro h
    unfold ofWord? at h
    split at h
    · next hword =>
        obtain rfl := Option.some.inj h
        simpa [spellings] using hword
    · split at h
      · next hword =>
          obtain rfl := Option.some.inj h
          simpa [spellings] using hword
      · split at h
        · next hword =>
            obtain rfl := Option.some.inj h
            simpa [spellings] using hword
        · obtain ⟨hword, hs⟩ := Option.ite_none_right_eq_some.mp h
          obtain rfl := Option.some.inj hs
          simpa [spellings] using hword
  · intro h
    cases s with
    | server | version =>
        simp only [spellings, List.mem_cons, List.not_mem_nil, or_false] at h
        rcases h with rfl | rfl <;> rfl
    | verbose | help =>
        obtain rfl := List.mem_singleton.mp h
        rfl

theorem ofWord?_eq_none_iff : ofWord? word = none ↔ ¬ IsOption word := by
  rw [Option.eq_none_iff_forall_ne_some, IsOption, not_exists]
  exact forall_congr' fun s => not_congr ofWord?_eq_some_iff

end Switch

/-! ## Behind the options -/

/-- **How the words can go on behind a run of options** that has asked for `i`. -/
inductive Ends (i : Invocation) : List String → Scan → Prop where
  /-- Nothing follows, or a word that is no option. All that follows is the command. -/
  | proceed {command : List String} (hcommand : ∀ word ∈ command.head?, ¬ IsOption word) :
      Ends i command (.proceed { i with command := command })
  | help {flag : String} (hflag : flag ∈ Switch.help.spellings) (rest : List String) :
      Ends i (flag :: rest) .help
  | version {flag : String} (hflag : flag ∈ Switch.version.spellings) (rest : List String) :
      Ends i (flag :: rest) .version
  /-- No word is left for the address that `flag` asks for. -/
  | missingServer {flag : String} (hflag : flag ∈ Switch.server.spellings) :
      Ends i [flag] .missingServer

/-- **How words can be read:** a run of `Options`, and what follows it (`Ends`). -/
def Reading (words : List String) (s : Scan) : Prop :=
  ∃ options rest servers verbose, words = options ++ rest ∧ Options options servers verbose ∧
    Ends { servers := servers, verbose := verbose } rest s

/-- The words are a run of `Options` and a command. -/
structure Splits (words options : List String) (i : Invocation) : Prop where
  words : words = options ++ i.command
  options : Options options i.servers i.verbose
  command : ∀ word ∈ i.command.head?, ¬ IsOption word

section Scan
variable {i : Invocation} {words options rest servers : List String} {verbose : Bool} {s : Scan}

/-- What was collected in `i` before a run of options, and what this adds. -/
def Invocation.add (i : Invocation) (servers : List String) (verbose : Bool) : Invocation :=
  { i with servers := i.servers ++ servers, verbose := i.verbose || verbose }

/-- **A run of options is read from end to end** by `scan`. -/
theorem scan_append (h : Options options servers verbose) (i : Invocation) (rest : List String) :
    scan i (options ++ rest) = scan (i.add servers verbose) rest := by
  induction h generalizing i with
  | done => simp [Invocation.add]
  | server hflag hrest ih =>
      rw [List.cons_append, List.cons_append, scan.eq_def]
      simp only [Switch.ofWord?_eq_some_iff.mpr hflag]
      rw [ih]
      simp [Invocation.add]
  | verbose hflag hrest ih =>
      rw [List.cons_append, scan.eq_def]
      simp only [Switch.ofWord?_eq_some_iff.mpr hflag]
      rw [ih]
      simp [Invocation.add]

/-- What follows the options is read as `Ends` has it. -/
theorem scan_of_ends (h : Ends i rest s) (hempty : i.command = []) : scan i rest = s := by
  rw [scan.eq_def]
  cases h with
  | proceed hcommand =>
      cases rest with
      | nil => simp [← hempty]
      | cons word rest => simp only [Switch.ofWord?_eq_none_iff.mpr (hcommand word rfl)]
  | help hflag rest => simp only [Switch.ofWord?_eq_some_iff.mpr hflag]
  | version hflag rest => simp only [Switch.ofWord?_eq_some_iff.mpr hflag]
  | missingServer hflag => simp only [Switch.ofWord?_eq_some_iff.mpr hflag]

/-- **What `scan` finds is a run of options, and what follows it.** -/
theorem exists_ends_scan (hempty : i.command = []) (words : List String) :
    ∃ options rest servers verbose, words = options ++ rest ∧ Options options servers verbose ∧
      Ends (i.add servers verbose) rest (scan i words) := by
  fun_induction scan i words with
  | case1 i =>
      obtain ⟨servers, verbose, command⟩ := i
      obtain rfl : command = [] := hempty
      refine ⟨[], [], [], false, rfl, .done, ?_⟩
      have hends : Ends ⟨servers, verbose, []⟩ [] (.proceed ⟨servers, verbose, []⟩) :=
        .proceed (by simp)
      simpa [Invocation.add] using hends
  | case2 i word rest hnone =>
      refine ⟨[], word :: rest, [], false, rfl, .done, ?_⟩
      have hcommand : ∀ first ∈ (word :: rest).head?, ¬ IsOption first := by
        intro first hfirst
        obtain rfl := Option.some.inj hfirst
        exact Switch.ofWord?_eq_none_iff.mp hnone
      simpa [Invocation.add] using Ends.proceed (i := i) hcommand
  | case3 i word rest hhelp =>
      refine ⟨[], word :: rest, [], false, rfl, .done, ?_⟩
      exact .help (Switch.ofWord?_eq_some_iff.mp hhelp) rest
  | case4 i word rest hversion =>
      refine ⟨[], word :: rest, [], false, rfl, .done, ?_⟩
      exact .version (Switch.ofWord?_eq_some_iff.mp hversion) rest
  | case5 i word rest hverbose ih =>
      obtain ⟨options, rest, servers, verbose, rfl, hoptions, hends⟩ := ih hempty
      refine ⟨word :: options, rest, servers, true, rfl, ?_, ?_⟩
      · exact .verbose (Switch.ofWord?_eq_some_iff.mp hverbose) hoptions
      · simpa [Invocation.add] using hends
  | case6 i word hserver =>
      refine ⟨[], [word], [], false, rfl, .done, ?_⟩
      exact .missingServer (Switch.ofWord?_eq_some_iff.mp hserver)
  | case7 i word hserver address rest ih =>
      obtain ⟨options, rest, servers, verbose, rfl, hoptions, hends⟩ := ih hempty
      refine ⟨word :: address :: options, rest, address :: servers, verbose, rfl, ?_, ?_⟩
      · exact .server (Switch.ofWord?_eq_some_iff.mp hserver) hoptions
      · simpa [Invocation.add] using hends

end Scan

/-! ## The one way to read words -/

section Reading
variable {words options : List String} {i : Invocation} {s : Scan}

theorem Invocation.add_empty (servers : List String) (verbose : Bool) :
    Invocation.add {} servers verbose = { servers := servers, verbose := verbose } := by
  simp [Invocation.add]

/-- **Words are read in exactly one way.** -/
theorem reading_iff : Reading words s ↔ scan {} words = s := by
  constructor
  · rintro ⟨options, rest, servers, verbose, rfl, hoptions, hends⟩
    rw [scan_append hoptions, Invocation.add_empty]
    exact scan_of_ends hends rfl
  · rintro rfl
    have hfound := exists_ends_scan (i := {}) rfl words
    simp only [Invocation.add_empty] at hfound
    exact hfound

theorem existsUnique_reading (words : List String) : ∃! s, Reading words s := by
  refine ⟨scan {} words, reading_iff.mpr rfl, ?_⟩
  intro s hs
  exact (reading_iff.mp hs).symm

/-- To go on with `Scan.proceed` is to have taken the words apart. -/
theorem reading_proceed_iff : Reading words (.proceed i) ↔ ∃ options, Splits words options i := by
  constructor
  · rintro ⟨options, rest, servers, verbose, rfl, hoptions, hends⟩
    cases hends with
    | proceed hcommand => exact ⟨options, rfl, hoptions, hcommand⟩
  · rintro ⟨options, rfl, hoptions, hcommand⟩
    exact ⟨options, i.command, i.servers, i.verbose, rfl, hoptions, .proceed hcommand⟩

/-- **The run of options and the command are found in exactly one way:** the command is what the
    words are read as (`Invocation.command`), and the options are the words before it. -/
theorem exists_splits_unique (h : Reading words (.proceed i)) :
    ∃ options, Splits words options i ∧
      ∀ options' i', Splits words options' i' → options' = options ∧ i' = i := by
  obtain ⟨options, hsplit⟩ := reading_proceed_iff.mp h
  refine ⟨options, hsplit, ?_⟩
  intro options' i' hsplit'
  have hreading : Reading words (.proceed i') := reading_proceed_iff.mpr ⟨options', hsplit'⟩
  obtain rfl : i' = i := by
    have hsame := (reading_iff.mp hreading).symm.trans (reading_iff.mp h)
    simpa using hsame
  have hcommand : options' ++ i'.command = options ++ i'.command :=
    hsplit'.words.symm.trans hsplit.words
  exact ⟨List.append_cancel_right hcommand, rfl⟩

end Reading

end Memcache.CommandLine
