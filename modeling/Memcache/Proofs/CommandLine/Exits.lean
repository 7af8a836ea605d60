import Mathlib
import Memcache.Proofs.Client.Launching
import Memcache.Proofs.CommandLine.Options
import Memcache.Proofs.CommandLine.Usage
import Memcache.Sim.Program

/-!
# `Memcache.Proofs.CommandLine.Exits` — how a run of the program ends

A run of `CommandLine.run` goes through stages: the options are read (`scan`), a command has to be
there, the addresses have to be right (`prepare`), a client is started, and only then is the command
looked at (`request`). Each stage may be the last. Here it is told for each how the run ends there
and what the network has seen of it. The start is where something has to be known of the network: it
comes to its end in any case (`World.run_start`), so a command that makes no sense is always found
out. Its connections were opened in vain, but nothing was sent on them.

A `Printout.exit` of 2 has one meaning: the words make no sense. No other end of a run has it.

## Contents

* `Stopped`, `prepare_of_reading`, `prepare_eq_ok` — what is read before the start;
* `program_of_prepared` — **a run that gets as far as the start gets beyond it**;
* `Rejected`, `program_of_reading` — runs whose words make no sense, and all others;
* `run_of_program` — what is printed is what is printed for the answer of one client;
* `program_conduct` — **words are read in one way, and the exit code says whether they make sense**.
-/

namespace Memcache.CommandLine

open Sim

variable {network : Network} {clock : WallTime} {words arguments : List String} {name : String}
  {i : Invocation} {s : ClientSettings} {printout : Printout} {e : Episode}

/-! ## Before the start -/

/-- What `prepare` refuses before the start has not touched the network. -/
theorem program_of_refused (network : Network) (clock : WallTime)
    (h : prepare words = .error printout) :
    program network clock words = { printout? := some printout, network := network } := by
  unfold program
  rw [h]

/-- **A run that stops with an exit code,** and leaves the network as it was. -/
structure Stopped (network : Network) (code : Nat) (e : Episode) : Prop where
  exit : e.exit? = some code
  network : e.network = network

theorem stopped_of_refused (network : Network) (clock : WallTime)
    (h : prepare words = .error printout) :
    Stopped network printout.exit (program network clock words) := by
  rw [program_of_refused network clock h]
  exact ⟨rfl, rfl⟩

/-- What `prepare` makes of words that were taken apart (`Reading`). -/
theorem prepare_of_reading (h : Reading words (.proceed i)) :
    (i.command = [] ∧ prepare words = .error (usage "no command given")) ∨
      ∃ name arguments, i.command = name :: arguments ∧
        ((∃ e, settings i.addresses = .error e ∧ prepare words = .error (usage e.message)) ∨
          ∃ s, settings i.addresses = .ok s ∧ prepare words = .ok (s, name, arguments)) := by
  unfold prepare
  rw [reading_iff.mp h]
  dsimp only
  cases i.command with
  | nil => exact .inl ⟨rfl, rfl⟩
  | cons name arguments =>
      refine .inr ⟨name, arguments, rfl, ?_⟩
      cases settings i.addresses with
      | error e => exact .inl ⟨e, rfl, rfl⟩
      | ok s => exact .inr ⟨s, rfl, rfl⟩

/-- The settings of `prepare` are those of the servers that were named. -/
theorem prepare_eq_ok (h : prepare words = .ok (s, name, arguments)) :
    ∃ i, Reading words (.proceed i) ∧ settings i.addresses = .ok s := by
  cases hscan : scan {} words with
  | proceed i =>
      have hreading := reading_iff.mpr hscan
      refine ⟨i, hreading, ?_⟩
      rcases prepare_of_reading hreading with
        ⟨-, hprepare⟩ | ⟨name', arguments', -, ⟨e, -, hprepare⟩ | ⟨s', hsettings, hprepare⟩⟩
      · rw [h] at hprepare
        contradiction
      · rw [h] at hprepare
        contradiction
      · obtain ⟨rfl, -⟩ := Prod.mk.inj (Except.ok.inj (h.symm.trans hprepare))
        exact hsettings
  | help | version | missingServer =>
      unfold prepare at h
      rw [hscan] at h
      contradiction

/-! ## After the start -/

/-- **A run that gets as far as the start gets beyond it,** whatever the network does, and no server
    has been asked anything by then (`Network.Unasked`). -/
theorem program_of_prepared (network : Network) (clock : WallTime)
    (hprepare : prepare words = .ok (s, name, arguments)) :
    ∃ w, connect network clock s = .ok w ∧ network.Unasked w.network ∧
      (∀ message, request name arguments = .error message →
        program network clock words =
          { printout? := some (usage message), network := w.network }) ∧
      ∀ r, request name arguments = .ok r → program network clock words = ask w r := by
  obtain ⟨i, -, hsettings⟩ := prepare_eq_ok hprepare
  have hvalid := validate_settings hsettings (addresses_ne_nil i)
  have hpool : s.pool = { minConnections := 1 } := by
    obtain ⟨servers, -, rfl⟩ := settings_eq_ok_iff.mp hsettings
    rfl
  have hfew : s.pool.minConnections ≤ 1 := by
    rw [hpool]
  have hshort : 2 * s.pool.connectTimeout + 2 ≤ World.lifetime := by
    rw [hpool]
    decide
  obtain ⟨w, hrun, hunasked⟩ := World.run_start Unit network clock s {} none hfew hshort
  refine ⟨w, ?_, hunasked, ?_, ?_⟩
  · unfold connect
    simp only [hvalid, hrun]
  · intro message hrequest
    unfold program
    simp only [hprepare, hvalid, hrun, hrequest]
  · intro r hrequest
    unfold program
    simp only [hprepare, hvalid, hrun, hrequest]

/-- The answer to a request is no matter of wrong words. -/
theorem exit_ask_ne_two (w : World) (r : Request) : (ask w r).exit? ≠ some 2 := by
  unfold ask Episode.exit?
  split
  · next answer _ =>
      cases answer with
      | ok _ => simp [present]
      | error _ => simp [present]
  · simp

/-- **How a run ends whose words make no sense.** Its `Printout.exit` says so, and no server was
    asked anything. -/
structure Rejected (network : Network) (e : Episode) : Prop where
  printout : ∃ message, e.printout? = some (usage message)
  network : network.Unasked e.network

theorem Rejected.exit (h : Rejected network e) : e.exit? = some 2 := by
  obtain ⟨message, hprintout⟩ := h.printout
  unfold Episode.exit?
  rw [hprintout]
  rfl

/-- **What becomes of words that were taken apart.** Either they are `Misused` and are `Rejected`,
    or they ask for a request, and it is made to a client of the servers that were named. -/
theorem program_of_reading (network : Network) (clock : WallTime)
    (h : Reading words (.proceed i)) :
    (Misused i ∧ Rejected network (program network clock words)) ∨
      ¬ Misused i ∧ ∃ s r w, interpret words = .ok (s, r) ∧ settings i.addresses = .ok s ∧
        connect network clock s = .ok w ∧ program network clock words = ask w r := by
  rcases prepare_of_reading h with
    ⟨hcommand, hprepare⟩ | ⟨name, arguments, hcommand, ⟨e, hsettings, hprepare⟩ |
      ⟨s, hsettings, hprepare⟩⟩
  · rw [program_of_refused network clock hprepare]
    exact .inl ⟨.noCommand hcommand, ⟨_, rfl⟩, .refl network⟩
  · rw [program_of_refused network clock hprepare]
    exact .inl ⟨misused_of_settings hsettings, ⟨_, rfl⟩, .refl network⟩
  · obtain ⟨w, hconnect, hunasked, herror, hok⟩ := program_of_prepared network clock hprepare
    cases hrequest : request name arguments with
    | error message =>
        rw [herror message hrequest]
        exact .inl ⟨misused_of_request hcommand hrequest, ⟨message, rfl⟩, hunasked⟩
    | ok r =>
        refine .inr ⟨not_misused hcommand hsettings hrequest, s, r, w, ?_, hsettings, hconnect,
          hok r hrequest⟩
        unfold interpret
        simp only [hprepare, hrequest]

/-- **What a run prints**, its `Episode.printout?`, is what is printed for the answer of a client
    that is started, asked once, and done with. -/
theorem run_of_program (h : (program network clock words).printout? = some printout) :
    run (serve network clock) words = printout := by
  cases hprepare : prepare words with
  | error refusal =>
      rw [program_of_refused network clock hprepare] at h
      unfold run interpret
      simp only [hprepare]
      exact Option.some.inj h
  | ok prepared =>
      obtain ⟨s, name, arguments⟩ := prepared
      obtain ⟨w, hconnect, -, herror, hok⟩ := program_of_prepared network clock hprepare
      unfold run interpret
      cases hrequest : request name arguments with
      | error message =>
          rw [herror message hrequest] at h
          simp only [hprepare, hrequest]
          exact Option.some.inj h
      | ok r =>
          rw [hok r hrequest] at h
          unfold ask at h
          unfold serve
          simp only [hprepare, hrequest, hconnect]
          split at h
          · next w' answer hrun =>
              simp only [hrun]
              exact Option.some.inj h
          · contradiction

/-! ## Words and exit codes -/

/-- **What the words of a command line do.** They are read in exactly one way (`Reading`). A run
    that is asked for help or for the version stops with success, and a server option without a
    server stops it with failure (`Stopped`). Other words are options and a command, and can be
    taken apart in no other way (`Splits`); the client uses the servers in their order, or
    `defaultServer` if none is named. Such a run has an exit code of 2 just if the words are
    `Misused`, and then no server has been asked anything (`Network.Unasked`). -/
theorem program_conduct (network : Network) (clock : WallTime) (words : List String) :
    (∃! s, Reading words s) ∧
    (Reading words .help ∨ Reading words .version →
      Stopped network 0 (program network clock words)) ∧
    (Reading words .missingServer → Stopped network 1 (program network clock words)) ∧
    ∀ i, Reading words (.proceed i) →
      (∃ options, Splits words options i ∧
        ∀ options' i', Splits words options' i' → options' = options ∧ i' = i) ∧
      (i.servers = [] → i.addresses = [defaultServer]) ∧
      (i.servers ≠ [] → i.addresses = i.servers) ∧
      ((program network clock words).exit? = some 2 ↔ Misused i) ∧
      (Misused i → network.Unasked (program network clock words).network) ∧
      (¬ Misused i → ∃ s r, interpret words = .ok (s, r) ∧
        List.Forall₂ (fun address server => Endpoint.parse address = .ok server)
          i.addresses s.servers) := by
  refine ⟨existsUnique_reading words, ?_, ?_, ?_⟩
  · rintro (hhelp | hversion)
    · have hprepare : prepare words = .error { out := helpText } := by
        unfold prepare
        rw [reading_iff.mp hhelp]
      exact stopped_of_refused network clock hprepare
    · have hprepare : prepare words =
          .error { out := "FlashMC version " ++ version ++ "\n" } := by
        unfold prepare
        rw [reading_iff.mp hversion]
      exact stopped_of_refused network clock hprepare
  · intro hmissing
    have hprepare : prepare words =
        .error { exit := 1, errors := "Error: --server requires a value\n" } := by
      unfold prepare
      rw [reading_iff.mp hmissing]
    exact stopped_of_refused network clock hprepare
  · intro i hreading
    refine ⟨exists_splits_unique hreading, ?_, ?_, ?_⟩
    · intro hnone
      simp [Invocation.addresses, hnone]
    · intro hsome
      simp [Invocation.addresses, hsome]
    · rcases program_of_reading network clock hreading with
        ⟨hmisused, hrejected⟩ | ⟨hused, s, r, w, hinterpret, hsettings, -, hprogram⟩
      · refine ⟨iff_of_true hrejected.exit hmisused, fun _ => hrejected.network, ?_⟩
        intro hused
        exact absurd hmisused hused
      · refine ⟨iff_of_false ?_ hused, fun hmisused => absurd hmisused hused, fun _ => ?_⟩
        · rw [hprogram]
          exact exit_ask_ne_two w r
        · obtain ⟨servers, hservers, rfl⟩ := settings_eq_ok_iff.mp hsettings
          exact ⟨_, r, hinterpret, hservers⟩

/-- A network with a server at the default address. -/
def neighbourhood : Network where
  hosts := [(defaultServer, {})]

/-- In this network: options that stop the run; a change by something that is no number; and a key and
    an address that look like options. -/
theorem program_conduct_neighbourhood :
    (program neighbourhood 0 ["--verbose", "--help", "get"]).exit? = some 0 ∧
      (program neighbourhood 0 ["--verbose", "-s"]).exit? = some 1 ∧
      (program neighbourhood 0 ["incr", "n", "x"]).exit? = some 2 ∧
      neighbourhood.Unasked (program neighbourhood 0 ["incr", "n", "x"]).network ∧
      (program neighbourhood 0 ["-s", "--help:2", "get", "-v"]).exit? ≠ some 2 := by
  obtain ⟨-, hhelp, -, -⟩ := program_conduct neighbourhood 0 ["--verbose", "--help", "get"]
  obtain ⟨-, -, hmissing, -⟩ := program_conduct neighbourhood 0 ["--verbose", "-s"]
  have hreading : Reading ["incr", "n", "x"] (.proceed { command := ["incr", "n", "x"] }) :=
    reading_iff.mpr rfl
  have hmisused : Misused { command := ["incr", "n", "x"] } :=
    misused_of_request rfl rfl
  obtain ⟨-, -, -, hexit, hunasked, -⟩ :=
    (program_conduct neighbourhood 0 ["incr", "n", "x"]).2.2.2 _ hreading
  let used : Invocation := { servers := ["--help:2"], command := ["get", "-v"] }
  have hreading' : Reading ["-s", "--help:2", "get", "-v"] (.proceed used) := reading_iff.mpr rfl
  have hused : ¬ Misused used :=
    not_misused (s := { servers := [⟨"--help:2"⟩], pool := { minConnections := 1 } }) rfl
      (by decide) rfl
  obtain ⟨-, -, -, hexit', -⟩ :=
    (program_conduct neighbourhood 0 ["-s", "--help:2", "get", "-v"]).2.2.2 _ hreading'
  refine ⟨(hhelp (.inl (reading_iff.mpr rfl))).exit, (hmissing (reading_iff.mpr rfl)).exit,
    hexit.mpr hmisused, hunasked hmisused, ?_⟩
  rw [Ne, hexit']
  exact hused

end Memcache.CommandLine
