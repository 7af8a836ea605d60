import Mathlib
import Memcache.Endpoint.Socket
import Memcache.Proofs.Text.Grammar

/-!
# `Memcache.Proofs.Endpoint.Spelling` — which texts are addresses of servers

A server is known by the text of its address (`Endpoint.address`). `Text.trim` cuts off white space
around the text, and `Endpoint.parse` looks at what is left around its last colon. Here that is said
without the search for the colon: `Endpoint.Reads` lists the four ways a text can be read, each with
all that stood in the way of the ones before it. Every text can be read in exactly one way, so the
list decides both what is an address and which `EndpointError` another text gets.

The text that is left is bare, and cutting a bare text changes nothing. So an address is its own
spelling, and texts that differ only around it name the same server. `SocketAddress.text` is bare
from the start, whatever stands in front of its last colon.

## Contents

* `splitLast_eq_some_iff`, `splitLast_eq_none_iff` — the last place of an element;
* `Text.CutTo`, `Text.cutTo_iff` — **what a text is without white space around it**;
* `Endpoint.LastColon`, `Endpoint.Reads`; `Endpoint.parse_eq_iff` — **how a text is read**;
  `Endpoint.IsAddress`;
* `SocketAddress.WellFormed`, `Endpoint.parse_text` — **printed socket addresses read back**;
* `Endpoint.parse_normal_form` — **addresses have one normal form**.
-/

namespace Memcache

/-! ## The last place of an element -/

section SplitLast
variable {α : Type} [DecidableEq α] {a : α} {xs front back : List α}

theorem splitLast_eq_none_iff : splitLast a xs = none ↔ a ∉ xs := by
  induction xs with
  | nil => exact ⟨fun _ => List.not_mem_nil, fun _ => rfl⟩
  | cons x xs ih =>
      rw [splitLast, List.mem_cons, not_or, ← ih]
      cases splitLast a xs with
      | some place => simp
      | none => simp [eq_comm]

/-- **A list is split by `splitLast` at the last place of an element**: the element is not behind it
    again. -/
theorem splitLast_eq_some_iff :
    splitLast a xs = some (front, back) ↔ xs = front ++ a :: back ∧ a ∉ back := by
  constructor
  · intro h
    induction xs generalizing front with
    | nil => cases h
    | cons x xs ih =>
        rw [splitLast] at h
        split at h
        · next front' back' hlater =>
            obtain ⟨rfl, rfl⟩ := Prod.mk.inj (Option.some.inj h)
            obtain ⟨rfl, hlast⟩ := ih hlater
            exact ⟨rfl, hlast⟩
        · next hlater =>
            split at h
            · next heq =>
                obtain ⟨rfl, rfl⟩ := Prod.mk.inj (Option.some.inj h)
                exact ⟨by rw [heq, List.nil_append], splitLast_eq_none_iff.mp hlater⟩
            · cases h
  · rintro ⟨rfl, hlast⟩
    induction front with
    | nil => rw [List.nil_append, splitLast, splitLast_eq_none_iff.mpr hlast, if_pos rfl]
    | cons x front ih => rw [List.cons_append, splitLast, ih]

end SplitLast

/-! ## Texts without white space around them -/

namespace Text

variable {text text' s s' : String}

/-- What a text is without white space around it (`Text.Padded`, `Text.Bare`). -/
structure CutTo (text s : String) : Prop where
  padded : Padded text.toList s.toList
  bare : Bare s.toList

/-- **A text is cut down to one text,** the one that `Text.trim` leaves. -/
theorem cutTo_iff : CutTo text s ↔ trim text = s := by
  constructor
  · rintro ⟨hpadded, hbare⟩
    rw [trim, hpadded.trimChars_eq_of_bare hbare, String.ofList_toList]
  · rintro rfl
    constructor
    · rw [trim, String.toList_ofList]
      exact padded_trimChars _
    · rw [trim, String.toList_ofList]
      exact bare_trimChars _

theorem Bare.cutTo_self (h : Bare s.toList) : CutTo s s where
  padded := ⟨[], [], by simp, by simp, by simp⟩
  bare := h

/-- White space around a text does not change what it is cut down to. -/
theorem CutTo.of_padded (h : CutTo s s') (hpadded : Padded text.toList s.toList) :
    CutTo text s' where
  padded := hpadded.trans h.padded
  bare := h.bare

end Text

/-! ## Reading an address -/

namespace Endpoint

/-- What stands before and after the last colon of a text. -/
structure LastColon (s : String) (host port : List Char) : Prop where
  split : s.toList = host ++ ':' :: port
  last : ':' ∉ port

/-- **How a text without white space around it is read.** It has no colon; nothing stands before the
    last one; what stands behind it is no numeral up to 65535; or it is an address, as it stands. -/
inductive Reads (s : String) : Except EndpointError Endpoint → Prop where
  | missingPort (hnone : ':' ∉ s.toList) : Reads s (.error (.missingPort s))
  | emptyHost {port : List Char} (hcolon : LastColon s [] port) : Reads s (.error (.emptyHost s))
  | invalidPort {host port : List Char} (hcolon : LastColon s host port) (hhost : host ≠ [])
      (hport : ∀ n, Text.Unsigned port n → 65535 < n) : Reads s (.error (.invalidPort s))
  | named {host port : List Char} {n : Nat} (hcolon : LastColon s host port) (hhost : host ≠ [])
      (hport : Text.Unsigned port n) (hfits : n ≤ 65535) : Reads s (.ok ⟨s⟩)

variable {text s : String} {e : Endpoint} {r : Except EndpointError Endpoint}

theorem lastColon_iff {host port : List Char} :
    splitLast ':' s.toList = some (host, port) ↔ LastColon s host port := by
  rw [splitLast_eq_some_iff]
  exact ⟨fun ⟨hsplit, hlast⟩ => ⟨hsplit, hlast⟩, fun hcolon => ⟨hcolon.split, hcolon.last⟩⟩

/-- What stands behind the last colon is read as a number up to 65535, by the grammar
    `Text.Unsigned`. -/
theorem parsePort_eq_some_iff {port : List Char} {n : Nat} :
    Text.parseNat? UInt16.size port = some n ↔ Text.Unsigned port n ∧ n ≤ 65535 := by
  rw [Text.parseNat?_eq_some_iff]
  exact and_congr_right fun _ => Nat.lt_succ_iff

/-- **How `Endpoint.parse` reads a text.** -/
theorem parse_eq_iff (h : Text.CutTo text s) : parse text = r ↔ Reads s r := by
  rw [parse, h.padded.trimChars_eq_of_bare h.bare]
  simp only [String.ofList_toList]
  constructor
  · rintro rfl
    split
    · next hnone => exact .missingPort (splitLast_eq_none_iff.mp hnone)
    · next host port hsplit =>
        have hcolon := lastColon_iff.mp hsplit
        split
        · next hempty =>
            obtain rfl := List.isEmpty_iff.mp hempty
            exact .emptyHost hcolon
        · next hempty =>
            have hhost : host ≠ [] := fun heq => hempty (List.isEmpty_iff.mpr heq)
            split
            · next hport =>
                refine .invalidPort hcolon hhost fun n hn => ?_
                by_contra hfits
                rw [parsePort_eq_some_iff.mpr ⟨hn, Nat.not_lt.mp hfits⟩] at hport
                contradiction
            · next n hport =>
                obtain ⟨hn, hfits⟩ := parsePort_eq_some_iff.mp hport
                exact .named hcolon hhost hn hfits
  · intro hreads
    cases hreads with
    | missingPort hnone => rw [splitLast_eq_none_iff.mpr hnone]
    | emptyHost hcolon =>
        rw [lastColon_iff.mpr hcolon]
        rfl
    | invalidPort hcolon hhost hport =>
        rw [lastColon_iff.mpr hcolon]
        dsimp only
        rw [if_neg (fun hempty => hhost (List.isEmpty_iff.mp hempty))]
        split
        · rfl
        · next n hread =>
            obtain ⟨hn, hfits⟩ := parsePort_eq_some_iff.mp hread
            exact absurd (hport n hn) (Nat.not_lt.mpr hfits)
    | named hcolon hhost hport hfits =>
        rw [lastColon_iff.mpr hcolon]
        dsimp only
        rw [if_neg (fun hempty => hhost (List.isEmpty_iff.mp hempty)),
          parsePort_eq_some_iff.mpr ⟨hport, hfits⟩]

/-- The address of a server, `Endpoint.address`, is the text that was cut out. -/
theorem address_of_reads (h : Reads s (.ok e)) : e.address = s := by
  cases h with
  | named hcolon hhost hport hfits => rfl

theorem exists_reads_ok_iff :
    (∃ e, Reads s (.ok e)) ↔
      ∃ host port n, LastColon s host port ∧ host ≠ [] ∧ Text.Unsigned port n ∧ n ≤ 65535 := by
  constructor
  · rintro ⟨e, hreads⟩
    cases hreads with
    | named hcolon hhost hport hfits => exact ⟨_, _, _, hcolon, hhost, hport, hfits⟩
  · rintro ⟨host, port, n, hcolon, hhost, hport, hfits⟩
    exact ⟨_, .named hcolon hhost hport hfits⟩

/-- A text that is an address: without the white space around it, it is a host, a colon, and a
    numeral up to 65535. -/
def IsAddress (text : String) : Prop :=
  ∃ s, Text.CutTo text s ∧
    ∃ host port n, LastColon s host port ∧ host ≠ [] ∧ Text.Unsigned port n ∧ n ≤ 65535

/-- **What is an address is read** by `Endpoint.parse`. -/
theorem exists_parse_iff : (∃ e, parse text = .ok e) ↔ IsAddress text := by
  constructor
  · intro hread
    have hcut : Text.CutTo text (Text.trim text) := Text.cutTo_iff.mpr rfl
    simp only [parse_eq_iff hcut] at hread
    exact ⟨_, hcut, exists_reads_ok_iff.mp hread⟩
  · rintro ⟨s, hcut, hcolon⟩
    simp only [parse_eq_iff hcut]
    exact exists_reads_ok_iff.mpr hcolon

/-- **An address is its own spelling.** -/
theorem parse_address (h : parse text = .ok e) : parse e.address = .ok e := by
  have hcut : Text.CutTo text (Text.trim text) := Text.cutTo_iff.mpr rfl
  have hreads := (parse_eq_iff hcut).mp h
  rw [address_of_reads hreads]
  exact (parse_eq_iff hcut.bare.cutTo_self).mpr hreads

/-- **White space around a text does not change how it is read.** -/
theorem parse_of_padded (h : Text.Padded text.toList s.toList) : parse text = parse s := by
  have hcut : Text.CutTo s (Text.trim s) := Text.cutTo_iff.mpr rfl
  exact (parse_eq_iff (hcut.of_padded h)).mpr ((parse_eq_iff hcut).mp rfl)

end Endpoint

/-! ## Numeric socket addresses -/

namespace SocketAddress

/-- Four octets, or eight groups of 16 bits and a scope of 32, and a port of 16 bits, as the fields
    of a `SocketAddress` should be. -/
def WellFormed : SocketAddress → Prop
  | .v4 octets port => octets.length = 4 ∧ (∀ o ∈ octets, o < 256) ∧ port < UInt16.size
  | .v6 groups scope port =>
    groups.length = 8 ∧ (∀ g ∈ groups, g < 65536) ∧ scope < UInt32.size ∧ port < UInt16.size

/-- The port of a socket address. -/
def portNumber : SocketAddress → Nat
  | .v4 _ port => port
  | .v6 _ _ port => port

theorem WellFormed.portNumber_lt {a : SocketAddress} (h : a.WellFormed) :
    a.portNumber < UInt16.size := by
  cases a with
  | v4 octets port => exact h.2.2
  | v6 groups scope port => exact h.2.2.2

/-- The printed form `SocketAddress.text` ends with a colon and the port, and starts with a digit or
    a bracket. -/
theorem WellFormed.text_eq {a : SocketAddress} (h : a.WellFormed) :
    ∃ c rest, a.text.toList = c :: rest ++ ':' :: (toString a.portNumber).toList ∧
      Text.isBlank c = false := by
  cases a with
  | v4 octets port =>
      obtain ⟨o, p, q, r, rfl⟩ := List.length_eq_four.mp h.1
      have hdigit : ∀ c ∈ (toString o).toList, Text.isBlank c = false := fun c hc =>
        Text.isBlank_of_isDigit (Text.isDigit_of_mem_toString hc)
      have htext : (octetText [o, p, q, r]).toList =
          (toString o).toList ++ ('.' :: (octetText [p, q, r]).toList) := by
        simp only [octetText, List.map_cons, String.intercalate_cons_cons, String.toList_append]
        simp
      cases hfirst : (toString o).toList with
      | nil =>
          rw [Text.toList_toString] at hfirst
          exact absurd hfirst Nat.toDigits_ne_nil
      | cons c rest =>
          rw [hfirst] at hdigit htext
          refine ⟨c, rest ++ '.' :: (octetText [p, q, r]).toList, ?_,
            hdigit c List.mem_cons_self⟩
          simp only [text, String.toList_append, htext, SocketAddress.portNumber]
          simp
  | v6 groups scope port =>
      refine ⟨'[', (text6 groups ++ (if scope = 0 then "" else "%" ++ toString scope) ++ "]").toList,
        ?_, by decide⟩
      simp [text, SocketAddress.portNumber]

end SocketAddress

namespace Endpoint

/-- **A printed socket address is read as it stands**, as `SocketAddress.toEndpoint`. -/
theorem parse_text {a : SocketAddress} (h : a.WellFormed) : parse a.text = .ok a.toEndpoint := by
  obtain ⟨c, rest, htext, hc⟩ := h.text_eq
  have hnumeral : Text.Unsigned (toString a.portNumber).toList a.portNumber :=
    (Text.parseNat?_eq_some_iff.mp (Text.parseNat?_toString h.portNumber_lt)).1
  have hdigit : ∀ c ∈ (toString a.portNumber).toList, c.isDigit = true := fun c =>
    Text.isDigit_of_mem_toString
  have hbare : Text.Bare a.text.toList := by
    constructor
    · intro d hd
      rw [htext] at hd
      obtain rfl := Option.some.inj hd
      exact hc
    · intro d hd
      have hport : (toString a.portNumber).toList ≠ [] := by
        rw [Text.toList_toString]
        exact Nat.toDigits_ne_nil
      rw [htext, List.getLast?_append_of_ne_nil _ (List.cons_ne_nil _ _),
        List.getLast?_cons_of_ne_nil hport] at hd
      exact Text.isBlank_of_isDigit (hdigit d (List.mem_of_mem_getLast? hd))
  have hcolon : LastColon a.text (c :: rest) (toString a.portNumber).toList := by
    refine ⟨htext, fun hmem => ?_⟩
    have hnot : (':' : Char).isDigit = true := hdigit ':' hmem
    contradiction
  exact (parse_eq_iff hbare.cutTo_self).mpr
    (.named hcolon (List.cons_ne_nil _ _) hnumeral (Nat.le_of_lt_succ h.portNumber_lt))

/-- **Addresses have one normal form.**

    A text, cut down to what is not white space around it (`Text.CutTo`), is an address for
    `Endpoint.parse` just if it has a colon, the part before the last colon is not empty, and the
    part after it is a numeral up to 65535 (`LastColon`). The `Endpoint.address` is then what the
    text was cut down to; what other texts get is listed by `Reads`. An address is its own spelling,
    white space around a text makes no difference, and `SocketAddress.text` of every numeric socket
    address is the address of that server. -/
theorem parse_normal_form :
    (∀ text s, Text.CutTo text s →
      ((∃ e, parse text = .ok e) ↔
        ∃ host port n, LastColon s host port ∧ host ≠ [] ∧ Text.Unsigned port n ∧ n ≤ 65535) ∧
      (∀ e, parse text = .ok e → e.address = s) ∧
      (∀ r, parse text = r ↔ Reads s r)) ∧
    (∀ text, ∃ s, Text.CutTo text s) ∧
    (∀ text e, parse text = .ok e → parse e.address = .ok e) ∧
    (∀ text text' inner : String, Text.Padded text.toList inner.toList →
      Text.Padded text'.toList inner.toList → parse text = parse text') ∧
    (∀ a : SocketAddress, a.WellFormed → parse a.text = .ok a.toEndpoint) := by
  refine ⟨?_, fun text => ⟨_, Text.cutTo_iff.mpr rfl⟩, fun text e => parse_address, ?_,
    fun a => parse_text⟩
  · intro text s hcut
    refine ⟨?_, fun e h => address_of_reads ((parse_eq_iff hcut).mp h), fun r => parse_eq_iff hcut⟩
    simp only [parse_eq_iff hcut]
    exact exists_reads_ok_iff
  · intro text text' inner h h'
    exact (parse_of_padded h).trans (parse_of_padded h').symm

/-- A host and a port between an ideographic space and a line feed are cut out, and a printed socket
    address with a scope is read as it stands. -/
theorem parse_normal_form_cache :
    parse "\u3000cache-1:+11211\n" = .ok ⟨"cache-1:+11211"⟩ ∧
    parse "cache-1:+11211" = .ok ⟨"cache-1:+11211"⟩ ∧
    parse "[::1%5]:11211" = .ok (SocketAddress.v6 [0, 0, 0, 0, 0, 0, 0, 1] 5 11211).toEndpoint := by
  obtain ⟨hreads, -, hagain, -, hsocket⟩ := parse_normal_form
  have hcut : Text.CutTo "\u3000cache-1:+11211\n" "cache-1:+11211" := Text.cutTo_iff.mpr (by decide)
  have hcolon : LastColon "cache-1:+11211" "cache-1".toList "+11211".toList :=
    ⟨by decide, by decide⟩
  have hport : Text.Unsigned "+11211".toList 11211 :=
    (parsePort_eq_some_iff.mp (by decide +kernel)).1
  have hread : parse "\u3000cache-1:+11211\n" = .ok ⟨"cache-1:+11211"⟩ :=
    ((hreads _ _ hcut).2.2 _).mpr (.named hcolon (by decide) hport (by decide))
  have hsound : (SocketAddress.v6 [0, 0, 0, 0, 0, 0, 0, 1] 5 11211).WellFormed :=
    ⟨by decide, by decide, by decide, by decide⟩
  exact ⟨hread, hagain _ _ hread, hsocket _ hsound⟩

end Endpoint

end Memcache
