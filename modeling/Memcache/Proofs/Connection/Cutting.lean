import Mathlib
import Memcache.Proofs.Connection.Isolation
import Memcache.Proofs.Connection.Stream

/-!
# `Memcache.Proofs.Connection.Cutting` — where an answer is cut makes no difference

A connection takes in an answer read by read: `Exchange.receive` puts the octets behind those it
has, decodes what is complete, and hands it to `Command.handle`. The reference is a run that has the
whole answer before it and knows neither reads nor a `ReceiveBuffer` (`Command.Consumes`): it
decodes one packet after another and hands each to the command, until the command is done or
something is wrong. Wherever the answer is cut, the command is handed the same packets and comes to
the same end.

What carries the argument is that a reference run goes on. One that lacks octets (`Ending.short`)
goes on from what it left undecoded, and any other one has come to its end whatever may be behind.

## Contents

* `Command.Consumes` — the reference run, with its `Ending`; `exists_consumes`,
  `Consumes.unique` — there is one for any octets, and no more than one;
* `Consumes.resume`, `Consumes.extend` — **a reference run goes on**;
* `Settles` — what reads may make of an ending; `Exchange.settles_digest` — one read;
  `Agrees`, `Exchange.agrees_follow` — **any number of reads**;
* `Connection.perform_eq_reference` — **a command does what the reference run does, wherever its
  answer is cut**.
-/

namespace Memcache

/-! ## The reference run -/

/-- How a command stands to the octets of an answer. -/
inductive Ending where
  /-- A packet is missing, or the end of one; the octets `rest` are its beginning. -/
  | short (rest : Bytes)
  /-- A packet is malformed, or has a foreign tag, or the command refused it. -/
  | failed (e : ParseError)
  /-- The command is done, and the octets `behind` are left. -/
  | done (behind : Bytes)
  deriving DecidableEq, Repr

/-- A packet as `Command.handle` gets it: its tag counts from the command's first one, `base`. -/
def Packet.placed (p : Packet) (base : UInt32) : Packet :=
  { p with tag := p.tag - base }

variable {command : Command} {base : UInt32} {r r' r'' : Reply} {bs rest more : Bytes}
  {given given' : List Packet} {ending ending' : Ending}

namespace Command

/-- **The reference run.** With the reply `r` so far, the command is handed the packets `given` of
    the octets `bs`, which make its reply `r'`, and comes to this end. -/
inductive Consumes (command : Command) (base : UInt32) :
    Reply → Bytes → List Packet → Reply → Ending → Prop where
  | short {r : Reply} {bs : Bytes} (hparse : Decoder.responses.parse bs = .ok none) :
      Consumes command base r bs [] r (.short bs)
  | malformed {r : Reply} {bs : Bytes} {e : ParseError}
      (hparse : Decoder.responses.parse bs = .error e) :
      Consumes command base r bs [] r (.failed e)
  | foreign {r : Reply} {bs : Bytes} {p : Packet} {n : Nat}
      (hparse : Decoder.responses.parse bs = .ok (some (p, n)))
      (hspan : command.span ≤ p.tag - base) :
      Consumes command base r bs [] r (.failed (.unexpectedTag base p.tag))
  | refused {r r' : Reply} {bs : Bytes} {p : Packet} {n : Nat} {e : ParseError}
      (hparse : Decoder.responses.parse bs = .ok (some (p, n)))
      (hspan : p.tag - base < command.span)
      (hhandle : command.handle r (p.placed base) = (r', .error e)) :
      Consumes command base r bs [p.placed base] r' (.failed e)
  | done {r r' : Reply} {bs : Bytes} {p : Packet} {n : Nat}
      (hparse : Decoder.responses.parse bs = .ok (some (p, n)))
      (hspan : p.tag - base < command.span)
      (hhandle : command.handle r (p.placed base) = (r', .ok .done)) :
      Consumes command base r bs [p.placed base] r' (.done (bs.drop n))
  | more {r r' r'' : Reply} {bs : Bytes} {p : Packet} {n : Nat} {given : List Packet}
      {ending : Ending} (hparse : Decoder.responses.parse bs = .ok (some (p, n)))
      (hspan : p.tag - base < command.span)
      (hhandle : command.handle r (p.placed base) = (r', .ok .more))
      (hrest : Consumes command base r' (bs.drop n) given r'' ending) :
      Consumes command base r bs (p.placed base :: given) r'' ending

/-- There is a `Command.Consumes` for any octets. -/
theorem exists_consumes (command : Command) (base : UInt32) (r : Reply) (bs : Bytes) :
    ∃ given r' ending, Consumes command base r bs given r' ending := by
  induction bs using Decoder.drain.induct Decoder.responses generalizing r with
  | case1 bs e hparse => exact ⟨_, _, _, .malformed hparse⟩
  | case2 bs hparse => exact ⟨_, _, _, .short hparse⟩
  | case3 bs p n hparse ih =>
      by_cases hspan : command.span ≤ p.tag - base
      · exact ⟨_, _, _, .foreign hparse hspan⟩
      · have hown := UInt32.not_le.mp hspan
        rcases hhandle : command.handle r (p.placed base) with ⟨r', e | progress⟩
        · exact ⟨_, _, _, .refused hparse hown hhandle⟩
        · cases progress with
          | done => exact ⟨_, _, _, .done hparse hown hhandle⟩
          | more =>
              obtain ⟨given, r'', ending, hrest⟩ := ih r'
              exact ⟨_, _, _, .more hparse hown hhandle hrest⟩

namespace Consumes

/-! Which rule a reference run begins with is decided by the front of its octets, by the tag of the
packet there, and by what the command makes of it. -/

theorem of_none (h : Consumes command base r bs given r' ending)
    (hparse : Decoder.responses.parse bs = .ok none) :
    given = [] ∧ r' = r ∧ ending = .short bs := by
  cases h with
  | short => exact ⟨rfl, rfl, rfl⟩
  | malformed hother | foreign hother | refused hother | done hother | more hother =>
      exact nomatch hparse.symm.trans hother

theorem of_malformed {e : ParseError} (h : Consumes command base r bs given r' ending)
    (hparse : Decoder.responses.parse bs = .error e) :
    given = [] ∧ r' = r ∧ ending = .failed e := by
  cases h with
  | malformed hsame =>
      obtain rfl := Except.error.inj (hparse.symm.trans hsame)
      exact ⟨rfl, rfl, rfl⟩
  | short hother | foreign hother | refused hother | done hother | more hother =>
      exact nomatch hparse.symm.trans hother

section Packet
variable {p q : Packet} {m n : Nat} (h : Consumes command base r bs given r' ending)
  (hparse : Decoder.responses.parse bs = .ok (some (p, n)))

/-- Octets have one packet in front, for `Decoder.parse`. -/
theorem front_unique (hparse : Decoder.responses.parse bs = .ok (some (p, n)))
    (hparse' : Decoder.responses.parse bs = .ok (some (q, m))) : q = p ∧ m = n :=
  Prod.mk.inj (Option.some.inj (Except.ok.inj (hparse'.symm.trans hparse)))

include h hparse

theorem of_foreign (hspan : command.span ≤ p.tag - base) :
    given = [] ∧ r' = r ∧ ending = .failed (.unexpectedTag base p.tag) := by
  cases h with
  | short hother | malformed hother =>
      exact nomatch hparse.symm.trans hother
  | foreign hsame _ =>
      obtain ⟨rfl, -⟩ := front_unique hparse hsame
      exact ⟨rfl, rfl, rfl⟩
  | refused hsame hown | done hsame hown | more hsame hown =>
      obtain ⟨rfl, -⟩ := front_unique hparse hsame
      exact absurd hspan (UInt32.not_le.mpr hown)

theorem of_own {r₁ : Reply} {result : Except ParseError Progress}
    (hspan : p.tag - base < command.span)
    (hhandle : command.handle r (p.placed base) = (r₁, result)) :
    (∃ e, result = .error e ∧ given = [p.placed base] ∧ r' = r₁ ∧ ending = .failed e) ∨
      (result = .ok .done ∧ given = [p.placed base] ∧ r' = r₁ ∧ ending = .done (bs.drop n)) ∨
      (result = .ok .more ∧ ∃ given₁, given = p.placed base :: given₁ ∧
        Consumes command base r₁ (bs.drop n) given₁ r' ending) := by
  cases h with
  | short hother | malformed hother =>
      exact nomatch hparse.symm.trans hother
  | foreign hsame hforeign =>
      obtain ⟨rfl, -⟩ := front_unique hparse hsame
      exact absurd hforeign (UInt32.not_le.mpr hspan)
  | @refused _ _ _ _ _ e hsame _ hrefused =>
      obtain ⟨rfl, rfl⟩ := front_unique hparse hsame
      obtain ⟨rfl, rfl⟩ := Prod.mk.inj (hhandle.symm.trans hrefused)
      exact .inl ⟨e, rfl, rfl, rfl, rfl⟩
  | done hsame _ hdone =>
      obtain ⟨rfl, rfl⟩ := front_unique hparse hsame
      obtain ⟨rfl, rfl⟩ := Prod.mk.inj (hhandle.symm.trans hdone)
      exact .inr (.inl ⟨rfl, rfl, rfl, rfl⟩)
  | more hsame _ hmore hrest =>
      obtain ⟨rfl, rfl⟩ := front_unique hparse hsame
      obtain ⟨rfl, rfl⟩ := Prod.mk.inj (hhandle.symm.trans hmore)
      exact .inr (.inr ⟨rfl, _, rfl, hrest⟩)

end Packet

/-- **There is no more than one**: two reference runs begin with the same rule, and what is behind the
    first packet is the same. -/
theorem unique (h : Consumes command base r bs given r' ending)
    (h' : Consumes command base r bs given' r'' ending') :
    given' = given ∧ r'' = r' ∧ ending' = ending := by
  induction h generalizing given' r'' ending' with
  | short hparse => exact h'.of_none hparse
  | malformed hparse => exact h'.of_malformed hparse
  | foreign hparse hspan => exact h'.of_foreign hparse hspan
  | refused hparse hspan hhandle =>
      obtain ⟨e, he, rfl, rfl, rfl⟩ | ⟨hdone, -⟩ | ⟨hmore, -⟩ := h'.of_own hparse hspan hhandle
      · obtain rfl := Except.error.inj he
        exact ⟨rfl, rfl, rfl⟩
      · contradiction
      · contradiction
  | done hparse hspan hhandle =>
      obtain ⟨e, he, -⟩ | ⟨-, rfl, rfl, rfl⟩ | ⟨hmore, -⟩ := h'.of_own hparse hspan hhandle
      · contradiction
      · exact ⟨rfl, rfl, rfl⟩
      · contradiction
  | more hparse hspan hhandle _ ih =>
      obtain ⟨e, he, -⟩ | ⟨hdone, -⟩ | ⟨-, given₁, rfl, hrest'⟩ := h'.of_own hparse hspan hhandle
      · contradiction
      · contradiction
      · obtain ⟨rfl, rfl, rfl⟩ := ih hrest'
        exact ⟨rfl, rfl, rfl⟩

/-- **A reference run that ends `Ending.short` goes on** from what it left. -/
theorem resume (h : Consumes command base r bs given r' (.short rest))
    (hmore : Consumes command base r' (rest ++ more) given' r'' ending) :
    Consumes command base r (bs ++ more) (given ++ given') r'' ending := by
  generalize hending : Ending.short rest = ended at h
  induction h with
  | short hparse =>
      obtain rfl := Ending.short.inj hending
      exact hmore
  | malformed | foreign | refused | done => contradiction
  | more hparse hspan hhandle hrest ih =>
      obtain ⟨hstands, hdrop⟩ := Decoder.parse_append_of_packet more hparse
      refine .more hstands hspan hhandle ?_
      rw [hdrop]
      exact ih hmore hending

end Consumes

end Command

namespace Ending

/-- The ending when the octets `more` are behind. -/
def extend : Ending → Bytes → Ending
  | .short rest, more => .short (rest ++ more)
  | .failed e, _ => .failed e
  | .done behind, more => .done (behind ++ more)

end Ending

/-- **A reference run that has come to its end stays there**, whatever may be behind. -/
theorem Command.Consumes.extend (h : Consumes command base r bs given r' ending)
    (hended : ∀ rest, ending ≠ .short rest) :
    Consumes command base r (bs ++ more) given r' (ending.extend more) := by
  induction h with
  | short => exact absurd rfl (hended _)
  | malformed hparse =>
      apply Consumes.malformed
      rw [Decoder.parse_append more (by simp [hparse]), hparse]
  | foreign hparse hspan =>
      exact .foreign (Decoder.parse_append_of_packet more hparse).1 hspan
  | refused hparse hspan hhandle =>
      exact .refused (Decoder.parse_append_of_packet more hparse).1 hspan hhandle
  | done hparse hspan hhandle =>
      obtain ⟨hstands, hdrop⟩ := Decoder.parse_append_of_packet more hparse
      rw [Ending.extend, ← hdrop]
      exact .done hstands hspan hhandle
  | more hparse hspan hhandle hrest ih =>
      obtain ⟨hstands, hdrop⟩ := Decoder.parse_append_of_packet more hparse
      refine .more hstands hspan hhandle ?_
      rw [hdrop]
      exact ih hended

/-! ## One read -/

/-- What reads may make of an `Ending`: the verdict on the command, and the octets that are held
    unread then. Of the octets behind a command that is done, those that came with its last packet
    are in the way, and those that have not come are not. -/
inductive Settles : Ending → Verdict → Bytes → Prop where
  | waiting (rest : Bytes) : Settles (.short rest) .waiting rest
  | failed (e : ParseError) (held : Bytes) : Settles (.failed e) (.ended (.error (.parse e))) held
  | done (behind : Bytes) : Settles (.done behind) (.ended (.ok ())) []
  | trailing {held : Bytes} (behind : Bytes) (hne : held ≠ []) :
      Settles (.done (held ++ behind)) (.ended (.error (.trailingData held.length))) held

/-- A command that has ended does not mind what may be behind. -/
theorem Settles.extend {v : Verdict} {held : Bytes} (h : Settles ending v held)
    (hended : ∀ rest, ending ≠ .short rest) (more : Bytes) :
    Settles (ending.extend more) v held := by
  cases h with
  | waiting => exact absurd rfl (hended _)
  | failed e held => exact .failed e held
  | done behind => exact .done _
  | trailing behind hne =>
      rw [Ending.extend, List.append_assoc]
      exact .trailing _ hne

/-- Only a command that lacks octets has `Verdict.waiting`. -/
theorem Settles.exists_ended {v : Verdict} {held : Bytes} (h : Settles ending v held)
    (hended : ∀ rest, ending ≠ .short rest) : ∃ result, v = .ended result := by
  cases h with
  | waiting => exact absurd rfl (hended _)
  | failed | done | trailing => exact ⟨_, rfl⟩

/-- The packets that a command was given, `Reading.given?` of each reading, in order. -/
def handed (rs : List Reading) : List Packet :=
  rs.filterMap (·.given?)

@[simp] theorem handed_nil : handed [] = [] := rfl

@[simp] theorem handed_append (rs rs' : List Reading) :
    handed (rs ++ rs') = handed rs ++ handed rs' := by
  simp [handed]

namespace Exchange

variable {b : ReceiveBuffer} {p : Packet} {n : Nat}

theorem take_of_foreign {x : Exchange} (hspan : x.command.span ≤ p.tag - x.base) :
    x.take p = (x, .error (.unexpectedTag x.base p.tag)) := by
  simp [take, hspan]

/-- A packet of the command's own tags goes to `Command.handle`. -/
theorem take_of_own {result : Except ParseError Progress} (hspan : p.tag - base < command.span)
    (hhandle : command.handle r (p.placed base) = (r', result)) :
    take ⟨command, r, base⟩ p = (⟨command, r', base⟩, result) := by
  have hhandle' : command.handle r { p with tag := p.tag - base } = (r', result) := hhandle
  simp [take, hhandle', hspan]

theorem handed_of_end {result : Except ParseError Progress}
    (hfront : b.front Decoder.responses = .ok (some (p, n))) (hspan : p.tag - base < command.span)
    (hhandle : command.handle r (p.placed base) = (r', result)) (hend : result ≠ .ok .more) :
    handed (readings ⟨command, r, base⟩ b) = [p.placed base] := by
  have hresult : (command.handle r { p with tag := p.tag - base }).2 = result :=
    congrArg Prod.snd hhandle
  rw [readings_of_end (x := ⟨command, r, base⟩) hfront (UInt32.not_le.mpr hspan) (by rwa [hresult])]
  rfl

theorem handed_of_more (hfront : b.front Decoder.responses = .ok (some (p, n)))
    (hspan : p.tag - base < command.span)
    (hhandle : command.handle r (p.placed base) = (r', .ok .more)) :
    handed (readings ⟨command, r, base⟩ b) =
      p.placed base :: handed (readings ⟨command, r', base⟩ (b.use n)) := by
  have hresult : command.handle r { p with tag := p.tag - base } = (r', .ok .more) := hhandle
  rw [readings_of_more (x := ⟨command, r, base⟩) hfront (UInt32.not_le.mpr hspan)
    (congrArg Prod.snd hresult)]
  simp [handed, hresult, Packet.placed]

/-- **One `Exchange.digest` does what the reference run does** with the octets that are there. -/
theorem settles_digest (h : command.Consumes base r bs given r' ending) (hb : b.contents = bs) :
    handed (readings ⟨command, r, base⟩ b) = given ∧
      (digest ⟨command, r, base⟩ b).1 = ⟨command, r', base⟩ ∧
      Settles ending (digest ⟨command, r, base⟩ b).2.2
        (digest ⟨command, r, base⟩ b).2.1.contents := by
  have hfront := ReceiveBuffer.front_eq Decoder.responses b
  rw [hb] at hfront
  induction h generalizing b with
  | short hparse =>
      rw [hparse] at hfront
      rw [readings_of_none hfront, digest_of_none hfront]
      exact ⟨rfl, rfl, hb ▸ .waiting _⟩
  | malformed hparse =>
      rw [hparse] at hfront
      rw [readings_of_error hfront, digest_of_error hfront]
      exact ⟨rfl, rfl, .failed _ _⟩
  | foreign hparse hspan =>
      rw [hparse] at hfront
      rw [readings_of_foreign hfront hspan, digest_of_packet hfront, take_of_foreign hspan]
      exact ⟨rfl, rfl, .failed _ _⟩
  | refused hparse hspan hhandle =>
      rw [hparse] at hfront
      rw [handed_of_end hfront hspan hhandle (by simp), digest_of_packet hfront,
        take_of_own hspan hhandle]
      exact ⟨rfl, rfl, .failed _ _⟩
  | @done r r' bs p n hparse hspan hhandle =>
      rw [hparse] at hfront
      have hbehind : (b.use n).contents = bs.drop n := by simp [hb]
      rw [handed_of_end hfront hspan hhandle (by simp), digest_of_packet hfront,
        take_of_own hspan hhandle]
      refine ⟨rfl, rfl, ?_⟩
      -- the command has succeeded if nothing is behind its last packet
      show Settles _ (.ended (if (b.use n).held = 0 then _ else _)) (b.use n).contents
      rw [ReceiveBuffer.held_eq, hbehind]
      by_cases hnil : bs.drop n = []
      · simp [hnil, Settles.done]
      · have htrailing := Settles.trailing [] hnil
        rw [List.append_nil] at htrailing
        rw [if_neg (mt List.length_eq_zero_iff.mp hnil)]
        exact htrailing
  | @more r r' r'' bs p n given ending hparse hspan hhandle hrest ih =>
      rw [hparse] at hfront
      have hbehind : (b.use n).contents = bs.drop n := by simp [hb]
      have hnext : (b.use n).front Decoder.responses = Decoder.responses.parse (bs.drop n) := by
        rw [ReceiveBuffer.front_eq, hbehind]
      obtain ⟨hgiven, hreply, hsettles⟩ := ih hbehind hnext
      rw [handed_of_more hfront hspan hhandle, digest_of_packet hfront, take_of_own hspan hhandle,
        hgiven]
      exact ⟨rfl, hreply, hsettles⟩

end Exchange

/-! ## Any number of reads -/

/-- A command under way agrees with the reference run on the octets `bs`: it was given the same
    packets, has the same reply, and stands where it should. -/
inductive Agrees (command : Command) (base : UInt32) (r : Reply) (bs : Bytes) (rs : List Reading) :
    Exchange × Connection × Verdict → Prop where
  | intro {r' : Reply} {ending : Ending} {c : Connection} {v : Verdict}
      (hconsumes : command.Consumes base r bs (handed rs) r' ending)
      (hsettles : Settles ending v c.buffer.contents) :
      Agrees command base r bs rs (⟨command, r', base⟩, c, v)

/-- A command that lacks octets agrees on more of them if what it makes of these agrees. -/
theorem Agrees.resume {rs rs' : List Reading} {out : Exchange × Connection × Verdict}
    (h : command.Consumes base r bs (handed rs) r' (.short rest))
    (hnext : Agrees command base r' (rest ++ more) rs' out) :
    Agrees command base r (bs ++ more) (rs ++ rs') out := by
  cases hnext with
  | intro hconsumes hsettles =>
      refine .intro ?_ hsettles
      rw [handed_append]
      exact h.resume hconsumes

namespace Exchange

/-- **Any number of reads do what the reference run does** with all the octets together:
    `Exchange.follow` agrees. -/
theorem agrees_follow (command : Command) (base : UInt32) (r : Reply) (c : Connection)
    (reads : List Bytes) {x : Exchange} {b : ReceiveBuffer} {v : Verdict}
    (hdigest : digest ⟨command, r, base⟩ c.buffer = (x, b, v)) :
    Agrees command base r (c.buffer.contents ++ reads.flatten)
      (readings ⟨command, r, base⟩ c.buffer ++ x.followed { c with buffer := b } v reads)
      (x.follow { c with buffer := b } v reads) := by
  induction reads generalizing r c x b v with
  | nil =>
      obtain ⟨given, r', ending, hconsumes⟩ :=
        Command.exists_consumes command base r c.buffer.contents
      obtain ⟨rfl, hx, hsettles⟩ := settles_digest hconsumes rfl
      rw [hdigest] at hx hsettles
      obtain rfl : x = _ := hx
      cases v <;> simpa [follow, followed] using Agrees.intro hconsumes hsettles
  | cons bs reads ih =>
      obtain ⟨given, r', ending, hconsumes⟩ :=
        Command.exists_consumes command base r c.buffer.contents
      obtain ⟨rfl, hx, hsettles⟩ := settles_digest hconsumes rfl
      rw [hdigest] at hx hsettles
      obtain rfl : x = _ := hx
      rw [List.flatten_cons]
      by_cases hshort : ∃ rest, ending = .short rest
      · obtain ⟨rest, rfl⟩ := hshort
        generalize hheld : b.contents = held at hsettles
        cases hsettles
        -- the next read is put behind what is left, and taken in from there
        rcases hdigest' : digest ⟨command, r', base⟩ (b.makeRoom.push bs) with ⟨x', b', v'⟩
        have hreceive : receive ⟨command, r', base⟩ { c with buffer := b } bs =
            (x', { c with buffer := b' }, v') := by
          simp [receive, hdigest']
        have hnext := ih r' { c with buffer := b.makeRoom.push bs } hdigest'
        simp only [ReceiveBuffer.contents_push, ReceiveBuffer.contents_makeRoom, hheld,
          List.append_assoc] at hnext
        simp only [follow, followed, hreceive]
        exact .resume hconsumes hnext
      · have hended : ∀ rest, ending ≠ .short rest := fun rest heq => hshort ⟨rest, heq⟩
        obtain ⟨result, rfl⟩ := hsettles.exists_ended hended
        rw [follow_ended, followed_ended, List.append_nil]
        exact .intro (hconsumes.extend hended) (hsettles.extend hended _)

end Exchange

/-! ## The main statement -/

namespace Connection

/-- What `Connection.perform` does agrees with the reference run on what was left unread before it
    and all that is read for it. -/
theorem exists_agrees_perform (c : Connection) (command : Command) (reads : List Bytes) :
    ∃ ending, command.Consumes c.nextTag {} (c.buffer.contents ++ reads.flatten)
        (handed (c.perform ⟨command, some reads⟩).2.readings)
        (c.perform ⟨command, some reads⟩).2.reply ending ∧
      Settles ending (c.perform ⟨command, some reads⟩).2.verdict
        (c.perform ⟨command, some reads⟩).1.buffer.contents := by
  rcases hdigest : Exchange.digest ⟨command, {}, c.nextTag⟩ c.buffer with ⟨x, b, v⟩
  have hagrees := Exchange.agrees_follow command c.nextTag {}
    { c with nextTag := c.nextTag + command.span } reads hdigest
  simp only [perform, begin, hdigest]
  generalize hout : x.follow _ v reads = out at hagrees ⊢
  cases hagrees with
  | intro hconsumes hsettles => exact ⟨_, hconsumes, hsettles⟩

/-- **A command does what the reference run does, wherever its answer is cut.** There is one
    reference run, `Command.Consumes`, on the octets of an answer, behind those that were left
    unread before (`ReceiveBuffer.contents`). However the answer is cut into reads,
    `Connection.perform` gives the command the packets of the reference run in the same order, and
    so it has the same reply. If the reference run ends with `Ending.failed`, so does the command.
    If it ends with the command done at the very end of the octets, the command has succeeded; if
    octets are behind, they are in the way of success just if some of them had come by then; and if
    a packet is missing, the command waits. Whenever a command has succeeded nothing is left
    unread. -/
theorem perform_eq_reference (c : Connection) (command : Command) (answer : Bytes) :
    ∃ given reply ending,
      command.Consumes c.nextTag {} (c.buffer.contents ++ answer) given reply ending ∧
      (∀ given' reply' ending',
        command.Consumes c.nextTag {} (c.buffer.contents ++ answer) given' reply' ending' →
          given' = given ∧ reply' = reply ∧ ending' = ending) ∧
      ∀ reads : List Bytes, reads.flatten = answer →
        handed (c.perform ⟨command, some reads⟩).2.readings = given ∧
        (c.perform ⟨command, some reads⟩).2.reply = reply ∧
        (∀ e, ending = .failed e →
          (c.perform ⟨command, some reads⟩).2.verdict = .ended (.error (.parse e))) ∧
        (ending = .done [] →
          (c.perform ⟨command, some reads⟩).2.verdict = .ended (.ok ()) ∧
            (c.perform ⟨command, some reads⟩).1.buffer.contents = []) ∧
        (∀ behind, ending = .done behind →
          (c.perform ⟨command, some reads⟩).2.verdict = .ended (.ok ()) ∨
            ∃ n, 0 < n ∧ n ≤ behind.length ∧
              (c.perform ⟨command, some reads⟩).2.verdict = .ended (.error (.trailingData n))) ∧
        (∀ rest, ending = .short rest →
          (c.perform ⟨command, some reads⟩).2.verdict = .waiting) ∧
        ((c.perform ⟨command, some reads⟩).2.verdict = .ended (.ok ()) →
          (c.perform ⟨command, some reads⟩).1.buffer.contents = []) := by
  obtain ⟨given, reply, ending, hconsumes⟩ :=
    Command.exists_consumes command c.nextTag {} (c.buffer.contents ++ answer)
  refine ⟨given, reply, ending, hconsumes, fun _ _ _ h => hconsumes.unique h, ?_⟩
  rintro reads rfl
  obtain ⟨ending', hconsumes', hsettles⟩ := c.exists_agrees_perform command reads
  obtain ⟨hgiven, hreply, rfl⟩ := hconsumes.unique hconsumes'
  refine ⟨hgiven, hreply, ?_⟩
  generalize (c.perform ⟨command, some reads⟩).2.verdict = v at hsettles ⊢
  generalize (c.perform ⟨command, some reads⟩).1.buffer.contents = held at hsettles ⊢
  cases hsettles with
  | waiting rest => simp
  | failed e held => simp
  | done behind => simp
  | @trailing held behind hne =>
      have hlength : 0 < held.length := List.length_pos_iff.mpr hne
      simp [hne, hlength]

/-- A hit of a batched read for one key. -/
def firstHit : Packet :=
  { magic := Magic.response, opcode := Opcode.getKeyQuiet, cas := 9, extras := be 4 7, key := [0x6b]
    value := [0x31] }

/-- The packet `firstHit`, and an octet that starts no packet. -/
def brokenOff : Bytes :=
  firstHit.encode ++ [0x2b]

theorem consumes_brokenOff :
    Command.Consumes (.multiGet ["k"]) 0 {} brokenOff [firstHit]
      { found := [("k", ⟨⟨7, [0x31]⟩, 9⟩)] } (.failed (.invalidMagic 0x2b)) := by
  have hhit : Decoder.responses.parse brokenOff = .ok (some (firstHit, 30)) := by cbv
  have hstray : Decoder.responses.parse (brokenOff.drop 30) = .error (.invalidMagic 0x2b) := by cbv
  exact .more hhit (by decide) (by cbv) (.malformed hstray)

/-- Read octet by octet, `firstHit` is given to the command, and the octet behind it is the
    error. -/
theorem perform_eq_reference_brokenOff :
    (brokenOff.map fun octet => [octet]).flatten = brokenOff ∧
      ∃ t : Trial, t.reads? = some (brokenOff.map fun octet => [octet]) ∧
        handed (({ link := 0 : Connection }.perform t).2.readings) = [firstHit] ∧
        ({ link := 0 : Connection }.perform t).2.reply.found = [("k", ⟨⟨7, [0x31]⟩, 9⟩)] ∧
        ({ link := 0 : Connection }.perform t).2.verdict =
          .ended (.error (.parse (.invalidMagic 0x2b))) := by
  have hcut : (brokenOff.map fun octet => [octet]).flatten = brokenOff := by decide
  obtain ⟨given, reply, ending, -, hunique, hreads⟩ :=
    perform_eq_reference { link := 0 } (.multiGet ["k"]) brokenOff
  obtain ⟨rfl, rfl, rfl⟩ := hunique _ _ _ consumes_brokenOff
  obtain ⟨hgiven, hreply, hfailed, -⟩ := hreads _ hcut
  exact ⟨hcut, _, rfl, hgiven, by rw [hreply], hfailed _ rfl⟩

end Connection

end Memcache
