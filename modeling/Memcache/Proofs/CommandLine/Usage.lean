import Mathlib
import Memcache.CommandLine
import Memcache.Proofs.Endpoint.Spelling

/-!
# `Memcache.Proofs.CommandLine.Usage` — which commands make sense

A command line makes sense if there is a command, if the servers have addresses, if the table has
the command with as many arguments, and if those arguments that should be numbers are. Here the
table is written down as a user would have it (`usages`): one `Usage` for each command, with how
many arguments it takes and which of them are numbers. `CommandLine.request` has a branch for each
name and number of arguments instead; it is compared with the table line by line, and what fits no
line is seen to end in the last branch.

`CommandLine.settings` looks at the servers before the table. Whatever is wrong, the exit code is
the same, so `Misused` leaves the order aside: it says what is wrong, and not what is found out
first.

## Contents

* `IsNumber`, `number_cases` — numbers of 64 bits;
* `Usage`, `usages`, `Usage.Takes`, `Usage.Numeric` — the table;
* `Usage.exists_request_of_takes`, `Usage.request_of_not_takes` — **the program has the commands of
  the table and no others**;
* `settings_eq_ok_iff`, `exists_settings_iff` — servers and their addresses;
* `Misused`, `misused_of_request`, `not_misused` — **words that make no sense**.
-/

namespace Memcache.CommandLine

/-! ## Numbers -/

/-- A word that is a number of 64 bits, by the grammar `Text.Unsigned`. -/
def IsNumber (word : String) : Prop :=
  ∃ n, Text.Unsigned word.toList n ∧ n < 2 ^ 64

section Number
variable {name word key value delta : String} {mode : StoreMode} {change : MutateMode}
  {ttl? initial? : Option String}

theorem exists_number_iff : (∃ n, number name word = .ok n) ↔ IsNumber word := by
  unfold number
  constructor
  · rintro ⟨n, h⟩
    split at h
    · next m hm => exact ⟨m.toNat, Text.parseU64?_eq_some_iff.mp hm, m.toNat_lt⟩
    · contradiction
  · rintro ⟨n, hn, hlt⟩
    have hread : Text.parseU64? word.toList = some (UInt64.ofNat n) := by
      rw [Text.parseU64?_eq_some_iff, UInt64.toNat_ofNat_of_lt' hlt]
      exact hn
    exact ⟨UInt64.ofNat n, by rw [hread]⟩

/-- A number is read by `number`, or the word is none. -/
theorem number_cases (name word : String) :
    (∃ n, number name word = .ok n ∧ IsNumber word) ∨
      ∃ message, number name word = .error message ∧ ¬ IsNumber word := by
  cases h : number name word with
  | ok n => exact .inl ⟨n, rfl, exists_number_iff.mp ⟨n, h⟩⟩
  | error message =>
      refine .inr ⟨message, rfl, fun hword => ?_⟩
      obtain ⟨n, hn⟩ : ∃ n, number name word = .ok n := exists_number_iff.mpr hword
      rw [h] at hn
      contradiction

theorem exists_storeRequest_iff :
    (∃ r, storeRequest mode key value ttl? = .ok r) ↔ ∀ word ∈ ttl?, IsNumber word := by
  unfold storeRequest
  cases ttl? with
  | none => simp
  | some word =>
      rcases number_cases "ttl" word with ⟨n, hn, hword⟩ | ⟨message, hn, hword⟩
      · simp [hn, hword]
      · simp [hn, hword]

theorem exists_mutateRequest_iff :
    (∃ r, mutateRequest change key delta initial? = .ok r) ↔
      IsNumber delta ∧ ∀ word ∈ initial?, IsNumber word := by
  unfold mutateRequest
  rcases number_cases "delta" delta with ⟨n, hn, hdelta⟩ | ⟨message, hn, hdelta⟩
  · cases initial? with
    | none => simp [hn, hdelta]
    | some word =>
        rcases number_cases "default" word with ⟨m, hm, hword⟩ | ⟨message, hm, hword⟩
        · simp [hn, hm, hdelta, hword]
        · simp [hn, hm, hdelta, hword]
  · simp [hn, hdelta]

end Number

/-! ## The table of commands -/

/-- How a command is used: its `name`, how many arguments it takes, and which of them are
    numbers. -/
structure Usage where
  name : String
  /-- The least number of arguments. -/
  least : Nat
  /-- The largest number of arguments. -/
  most : Nat
  /-- The places of the arguments that have to be numbers. -/
  numbers : List Nat := []
  deriving DecidableEq, Repr

/-- **All commands.** -/
def usages : List Usage :=
  [{ name := "get", least := 1, most := 1 },
    { name := "set", least := 2, most := 3, numbers := [2] },
    { name := "add", least := 2, most := 3, numbers := [2] },
    { name := "replace", least := 2, most := 3, numbers := [2] },
    { name := "delete", least := 1, most := 1 },
    { name := "incr", least := 2, most := 3, numbers := [1, 2] },
    { name := "decr", least := 2, most := 3, numbers := [1, 2] },
    { name := "append", least := 2, most := 2 },
    { name := "prepend", least := 2, most := 2 },
    { name := "stats", least := 0, most := 1 },
    { name := "flush", least := 0, most := 0 }]

namespace Usage

/-- A command that has this name, and a number of arguments between `least` and `most`. -/
structure Takes (u : Usage) (name : String) (arguments : List String) : Prop where
  name : u.name = name
  least : u.least ≤ arguments.length
  most : arguments.length ≤ u.most

/-- The arguments at the places `numbers` are numbers. -/
def Numeric (u : Usage) (arguments : List String) : Prop :=
  ∀ place ∈ u.numbers, ∀ word ∈ arguments[place]?, IsNumber word

variable {u : Usage} {name : String} {arguments : List String}

theorem takes_iff : u.Takes name arguments ↔
    u.name = name ∧ u.least ≤ arguments.length ∧ arguments.length ≤ u.most :=
  ⟨fun h => ⟨h.name, h.least, h.most⟩, fun ⟨hname, hleast, hmost⟩ => ⟨hname, hleast, hmost⟩⟩

/-- Two arguments, and perhaps a third. -/
theorem two_or_three (hleast : 2 ≤ arguments.length) (hmost : arguments.length ≤ 3) :
    (∃ a b, arguments = [a, b]) ∨ ∃ a b c, arguments = [a, b, c] := by
  rcases Nat.lt_or_eq_of_le hmost with hlt | hthree
  · exact .inl (List.length_eq_two.mp (by omega))
  · exact .inr (List.length_eq_three.mp hthree)

/-- **A command with the right number of arguments is carried out by `request` just if its numbers
    are numbers.** -/
theorem exists_request_of_takes (hu : u ∈ usages) (htakes : u.Takes name arguments) :
    (∃ r, request name arguments = .ok r) ↔ u.Numeric arguments := by
  obtain ⟨rfl, hleast, hmost⟩ := htakes
  simp only [usages, List.mem_cons, List.not_mem_nil, or_false] at hu
  rcases hu with rfl | rfl | rfl | rfl | rfl | rfl | rfl | rfl | rfl | rfl | rfl
  -- one key
  case inl | inr.inr.inr.inr.inl =>
    obtain ⟨key, rfl⟩ := List.length_eq_one_iff.mp (Nat.le_antisymm hmost hleast)
    simp [request, Numeric]
  -- a key and a value, and perhaps a time to live
  case inr.inl | inr.inr.inl | inr.inr.inr.inl =>
    rcases two_or_three hleast hmost with ⟨key, value, rfl⟩ | ⟨key, value, ttl, rfl⟩
    · simp [request, Numeric, exists_storeRequest_iff]
    · simp [request, Numeric, exists_storeRequest_iff]
  -- a key and a delta, and perhaps a default
  case inr.inr.inr.inr.inr.inl | inr.inr.inr.inr.inr.inr.inl =>
    rcases two_or_three hleast hmost with ⟨key, delta, rfl⟩ | ⟨key, delta, initial, rfl⟩
    · simp [request, Numeric, exists_mutateRequest_iff]
    · simp [request, Numeric, exists_mutateRequest_iff]
  -- a key and data
  case inr.inr.inr.inr.inr.inr.inr.inl | inr.inr.inr.inr.inr.inr.inr.inr.inl =>
    obtain ⟨key, data, rfl⟩ := List.length_eq_two.mp (Nat.le_antisymm hmost hleast)
    simp [request, Numeric]
  · rcases Nat.lt_or_eq_of_le hmost with hnone | hone
    · obtain rfl := List.length_eq_zero_iff.mp (Nat.lt_one_iff.mp hnone)
      simp [request, Numeric]
    · obtain ⟨group, rfl⟩ := List.length_eq_one_iff.mp hone
      simp [request, Numeric]
  · obtain rfl := List.length_eq_zero_iff.mp (Nat.le_zero.mp hmost)
    simp [request, Numeric]

/-- **What is not in the table `usages` is no command.** -/
theorem request_of_not_takes (hnone : ∀ u ∈ usages, ¬ u.Takes name arguments) :
    request name arguments = .error ("unknown command or wrong arguments: " ++ name) := by
  unfold request
  split
  case h_18 => rfl
  all_goals simp [usages, takes_iff] at hnone

end Usage

/-! ## Addresses -/

section Settings
variable {s s' : ClientSettings} {addresses : List String}

theorem foldlM_addServer_eq_ok_iff :
    addresses.foldlM ClientSettings.addServer s = .ok s' ↔
      ∃ servers, List.Forall₂ (fun address server => Endpoint.parse address = .ok server)
        addresses servers ∧ s' = { s with servers := s.servers ++ servers } := by
  induction addresses generalizing s with
  | nil => simp [pure, Except.pure, eq_comm]
  | cons address addresses ih =>
      rw [List.foldlM_cons, ClientSettings.addServer]
      cases hread : Endpoint.parse address with
      | error e => simp [bind, Except.bind, List.forall₂_cons_left_iff, hread]
      | ok server =>
          refine Iff.trans ih ?_
          simp [List.forall₂_cons_left_iff, hread]

/-- **The servers of `settings` are those that the addresses name, in the same order.** -/
theorem settings_eq_ok_iff :
    settings addresses = .ok s ↔
      ∃ servers, List.Forall₂ (fun address server => Endpoint.parse address = .ok server)
        addresses servers ∧ s = { servers := servers, pool := { minConnections := 1 } } := by
  unfold settings
  rw [foldlM_addServer_eq_ok_iff]
  simp

/-- Addresses can be read one by one (`Endpoint.IsAddress`). -/
theorem exists_forall₂_parse_iff :
    (∃ servers, List.Forall₂ (fun address server => Endpoint.parse address = .ok server)
      addresses servers) ↔ ∀ address ∈ addresses, Endpoint.IsAddress address := by
  induction addresses with
  | nil => simp
  | cons address addresses ih =>
      rw [List.forall_mem_cons, ← ih, ← Endpoint.exists_parse_iff]
      constructor
      · rintro ⟨servers, hall⟩
        obtain ⟨server, servers, hserver, hservers, rfl⟩ := List.forall₂_cons_left_iff.mp hall
        exact ⟨⟨server, hserver⟩, servers, hservers⟩
      · rintro ⟨⟨server, hserver⟩, servers, hservers⟩
        exact ⟨server :: servers, .cons hserver hservers⟩

/-- **There are `settings` just if all addresses are addresses.** -/
theorem exists_settings_iff :
    (∃ s, settings addresses = .ok s) ↔ ∀ address ∈ addresses, Endpoint.IsAddress address := by
  rw [← exists_forall₂_parse_iff]
  simp only [settings_eq_ok_iff]
  constructor
  · rintro ⟨s, servers, hservers, -⟩
    exact ⟨servers, hservers⟩
  · rintro ⟨servers, hservers⟩
    exact ⟨_, servers, hservers, rfl⟩

/-- A client is always told of a server: `Invocation.addresses` has the default one if there is no
    other. -/
theorem addresses_ne_nil (i : Invocation) : i.addresses ≠ [] := by
  unfold Invocation.addresses
  split
  · exact List.cons_ne_nil _ _
  · next h => simpa using h

/-- **The settings of a command line are in order**, for `ClientSettings.validate`. -/
theorem validate_settings (h : settings addresses = .ok s) (hne : addresses ≠ []) :
    s.validate = .ok () := by
  obtain ⟨servers, hservers, rfl⟩ := settings_eq_ok_iff.mp h
  have hsome : servers ≠ [] := by
    rintro rfl
    cases hservers
    contradiction
  cases servers with
  | nil => contradiction
  | cons server servers => rfl

end Settings

/-! ## What makes no sense -/

/-- **A use of the program that makes no sense:** there is no command; a server has no address; no
    command has this name and this number of arguments; or an argument should be a number and is
    none. -/
inductive Misused (i : Invocation) : Prop where
  | noCommand (hcommand : i.command = [])
  | badAddress {address : String} (hmem : address ∈ i.addresses)
      (hbad : ¬ Endpoint.IsAddress address)
  | noSuchCommand {name : String} {arguments : List String}
      (hcommand : i.command = name :: arguments) (hnone : ∀ u ∈ usages, ¬ u.Takes name arguments)
  | notNumber {name : String} {arguments : List String} {u : Usage} {place : Nat} {word : String}
      (hcommand : i.command = name :: arguments) (hu : u ∈ usages)
      (htakes : u.Takes name arguments) (hplace : place ∈ u.numbers)
      (hword : arguments[place]? = some word) (hbad : ¬ IsNumber word)

section Misused
variable {i : Invocation} {name : String} {arguments : List String} {s : ClientSettings}

/-- Where there are no `settings` an address is wrong. -/
theorem misused_of_settings {e : ConfigError} (h : settings i.addresses = .error e) : Misused i := by
  have hnone : ¬ ∀ address ∈ i.addresses, Endpoint.IsAddress address := by
    rw [← exists_settings_iff, h]
    simp
  simp only [not_forall] at hnone
  obtain ⟨address, hmem, hbad⟩ := hnone
  exact .badAddress hmem hbad

/-- A command that `request` does not carry out is misused. -/
theorem misused_of_request {message : String} (hcommand : i.command = name :: arguments)
    (h : request name arguments = .error message) : Misused i := by
  by_cases htable : ∃ u ∈ usages, u.Takes name arguments
  · obtain ⟨u, hu, htakes⟩ := htable
    have hnumeric : ¬ u.Numeric arguments := by
      rw [← Usage.exists_request_of_takes hu htakes, h]
      exact nofun
    simp only [Usage.Numeric, not_forall] at hnumeric
    obtain ⟨place, hplace, word, hword, hbad⟩ := hnumeric
    exact .notNumber hcommand hu htakes hplace hword hbad
  · refine .noSuchCommand hcommand fun u hu htakes => ?_
    exact htable ⟨u, hu, htakes⟩

/-- A command that it carries out is not. -/
theorem not_misused {r : Request} (hcommand : i.command = name :: arguments)
    (hsettings : settings i.addresses = .ok s) (h : request name arguments = .ok r) :
    ¬ Misused i := by
  intro hmisused
  have hright : ∀ {name' : String} {arguments' : List String},
      i.command = name' :: arguments' → name' = name ∧ arguments' = arguments := by
    intro name' arguments' hcommand'
    obtain ⟨hname, harguments⟩ := List.cons.inj (hcommand'.symm.trans hcommand)
    exact ⟨hname, harguments⟩
  cases hmisused with
  | noCommand hnone => simp [hnone] at hcommand
  | badAddress hmem hbad => exact hbad (exists_settings_iff.mp ⟨s, hsettings⟩ _ hmem)
  | noSuchCommand hcommand' hnone =>
      obtain ⟨rfl, rfl⟩ := hright hcommand'
      rw [Usage.request_of_not_takes hnone] at h
      contradiction
  | notNumber hcommand' hu htakes hplace hword hbad =>
      obtain ⟨rfl, rfl⟩ := hright hcommand'
      have hnumeric := (Usage.exists_request_of_takes hu htakes).mp ⟨r, h⟩
      exact hbad (hnumeric _ hplace _ hword)

end Misused

end Memcache.CommandLine
