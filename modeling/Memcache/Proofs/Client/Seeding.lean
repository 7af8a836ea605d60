import Mathlib
import Memcache.Client
import Memcache.Sim.Server
import Memcache.Proofs.Batch.Shares
import Memcache.Proofs.Client.Coherence
import Memcache.Proofs.Client.Flushing
import Memcache.Proofs.Connection.Stream
import Memcache.Proofs.Expiration.Reading
import Memcache.Proofs.Value.Storage
import Memcache.Proofs.Wire.Requests

/-!
# `Memcache.Proofs.Client.Seeding` — counters that are created when they are first changed

A `Request.mutate` names the number with which an absent counter is to start. It names an
expiration, too, and there is one number among the expirations that takes the wish back:
`Server.noCreation`, the largest that fits in 32 bits, with which a server leaves an absent counter
absent.

That number is also the last second that fits in 32 bits. `Expiration.encodeAt` writes an expiration
as it only for moments in that second, and for lengths of time that end in it; a length of time up
to `Expiration.maxRelative` is written as a small number, and everything later is refused or written
as never. So a change creates its counter unless it is asked for with one of these expirations
(`Expiration.Withholds`), and then it does not.

The argument follows one request: what `Client.plan` and `Command.encode` write, what
`Server.respond` finds in it and does, what `Command.handle` reads of the reply, and what
`Client.conclude` tells the caller.

## Contents

* `Expiration.Withholds`, `Expiration.encodeAt_eq_noCreation_iff` — **which expirations take the wish
  back**;
* `Command.mutateRequest`, `Command.drain_mutate` — the one packet of a counter change;
* `Sim.Server.respond_mutate_absent` — what a server makes of it if it has no counter;
* `Client.Seeded`, `Client.Withheld`; `Client.counter_seeded` — **a missing counter is created with
  the number that was asked for, but not in the last second**;
* `Client.counter_not_seeded` — so not every expiration that is accepted creates it.
-/

namespace Memcache

/-! ## Expirations -/

namespace Expiration

/-- The last second that fits in 32 bits. -/
def lastSecond : Int := 4294967295

/-- **The expirations with which a counter is not created:** those in `lastSecond`. -/
def Withholds (now : WallTime) : Expiration → Prop
  | .never => False
  | .after d =>
    maxRelative < d ∧ d < Duration.longest ∧ WallTime.second (now + d) = lastSecond
  | .at t => t.second = lastSecond

variable {now t : WallTime} {d : Duration}

theorem unixSeconds_eq_noCreation_iff :
    unixSeconds t = .ok Sim.Server.noCreation ↔ t.second = lastSecond := by
  have hvalue : ((Sim.Server.noCreation.toNat : Nat) : Int) = lastSecond := by rfl
  have hsize : ((UInt32.size : Nat) : Int) = lastSecond + 1 := by rfl
  rw [unixSeconds_eq_ok_iff, hvalue, hsize]
  unfold lastSecond WallTime.second
  simp only [WallTime] at *
  omega

/-- No distance, up to `Expiration.maxRelative`, is that large. -/
theorem ofNat_ceilSeconds_ne_noCreation (hshort : d ≤ maxRelative) :
    UInt32.ofNat d.ceilSeconds ≠ Sim.Server.noCreation := by
  intro heq
  have hle : d.ceilSeconds ≤ 2592000 := ceilSeconds_le_maxDistance hshort
  have hnat : (UInt32.ofNat d.ceilSeconds).toNat = d.ceilSeconds :=
    UInt32.toNat_ofNat_of_lt' (Nat.lt_of_le_of_lt hle (by decide))
  rw [heq] at hnat
  have hlarge : Sim.Server.noCreation.toNat = 4294967295 := by rfl
  omega

/-- The number of `Expiration.never` is another one. -/
theorem ok_zero_ne_noCreation :
    (.ok 0 : Except ExpirationError UInt32) ≠ .ok Sim.Server.noCreation := by
  decide

theorem encodeAfter_eq_noCreation_iff :
    encodeAfter now d = .ok Sim.Server.noCreation ↔
      maxRelative < d ∧ d < Duration.longest ∧ WallTime.second (now + d) = lastSecond := by
  have hzero := ok_zero_ne_noCreation
  unfold encodeAfter
  split
  · next hnever =>
      refine ⟨fun h => absurd h hzero, fun ⟨hlong, hends, _⟩ => ?_⟩
      rcases hnever with rfl | hlongest
      · exact absurd hlong (Nat.not_lt_zero _)
      · exact absurd hends (Nat.not_lt.mpr hlongest)
  · next hends =>
      split
      · next hshort =>
          exact ⟨fun h => absurd (Except.ok.inj h) (ofNat_ceilSeconds_ne_noCreation hshort),
            fun h => absurd h.1 (Nat.not_lt.mpr hshort)⟩
      · next hlong =>
          have hlong : maxRelative < d := Nat.not_le.mp hlong
          have hends : d < Duration.longest := Nat.not_le.mp (not_or.mp hends).2
          split
          · next hlimit =>
              refine ⟨fun h => absurd h hzero, fun ⟨_, _, hlast⟩ => ?_⟩
              have hlate := (endless_of_limit hlong hlimit).2
              rw [hlast] at hlate
              exact absurd hlate (by decide)
          · -- what is out of range is written as never, and that is not in the last second
            rw [← unixSeconds_eq_noCreation_iff]
            cases unixSeconds (now + d) with
            | ok n => exact ⟨fun h => ⟨hlong, hends, h⟩, fun h => h.2.2⟩
            | error e =>
                have hrefused : (.error e : Except ExpirationError UInt32) ≠
                    .ok Sim.Server.noCreation := by simp
                cases e with
                | beforeEpoch => exact ⟨fun h => absurd h hrefused, fun h => absurd h.2.2 hrefused⟩
                | outOfRange seconds =>
                    exact ⟨fun h => absurd h hzero, fun h => absurd h.2.2 hrefused⟩

/-- **Which expirations `Expiration.encodeAt` writes as `Server.noCreation`.** -/
theorem encodeAt_eq_noCreation_iff {e : Expiration} :
    e.encodeAt now = .ok Sim.Server.noCreation ↔ e.Withholds now := by
  cases e with
  | never => exact ⟨fun h => absurd h ok_zero_ne_noCreation, fun h => h.elim⟩
  | after d => exact encodeAfter_eq_noCreation_iff
  | «at» t => exact unixSeconds_eq_noCreation_iff

end Expiration

/-! ## The request -/

section Request
variable {mode : MutateMode} {key : String} {initial delta cas : UInt64} {expires tag : UInt32}

/-- The one packet of a `Command.mutate`. -/
def Command.mutateRequest (mode : MutateMode) (key : String) (initial delta : UInt64)
    (expires : UInt32) (cas : UInt64) (tag : UInt32) : Packet where
  opcode := mode.opcode
  tag := tag
  cas := cas
  extras := mutateExtras delta initial expires
  key := Text.encode key

theorem length_mutateExtras : (mutateExtras delta initial expires).length = 20 := by
  simp only [mutateExtras, List.length_append, length_be]

/-- **A server finds `Command.mutateRequest` in the octets of the request.** -/
theorem Command.drain_mutate (hkey : Key.validate key = .ok ()) :
    Decoder.requests.drain ((mutate mode key initial delta expires cas).encode tag) =
      ⟨[mutateRequest mode key initial delta expires cas tag], [], none⟩ := by
  have hone : (mutate mode key initial delta expires cas).encode tag =
      (mutateRequest mode key initial delta expires cas tag).encode := List.flatMap_singleton ..
  have hname := Key.length_le_of_validate hkey
  have hlimits : Key.maxLength = 250 ∧ Decoder.requests.maxBody = 2097152 := ⟨rfl, rfl⟩
  rw [hone]
  refine Decoder.drain_encode rfl ?_ ?_ ?_ ?_
  all_goals
    simp only [mutateRequest, Packet.bodyLength, length_mutateExtras, List.length_nil]
    omega

/-! ## The server -/

namespace Sim.Server

variable {s : Server}

theorem number32_mutateExtras :
    number32 ((mutateExtras delta initial expires).drop 16) = expires := by
  have hlength : (be 8 delta.toNat ++ be 8 initial.toNat).length = 16 := by
    rw [List.length_append, length_be, length_be]
  rw [mutateExtras, List.drop_left' hlength, number32, read32_of_be]

theorem number64_mutateExtras :
    number64 ((mutateExtras delta initial expires).drop 8) = initial := by
  rw [mutateExtras, List.append_assoc, List.drop_left' (length_be 8 delta.toNat), number64,
    read64_be]

/-- A number that is written as a text is read back from it by `Server.counter?`. -/
theorem counter?_encode (n : UInt64) : counter? (Text.encode (toString n)) = some n := by
  have hblank : ∀ c ∈ (toString n).toList, Text.isBlank c = false := fun c hc =>
    Text.isBlank_of_isDigit (Text.isDigit_of_mem_toString (n := n.toNat) hc)
  rw [counter?, Text.decode?_encode]
  dsimp only
  rw [Text.trimChars_eq_self hblank]
  exact Text.parseU64?_toString n

/-- The reply that there is no such key. -/
def missing (request : Packet) : Packet :=
  { success request with status := Status.keyNotFound.code, value := Text.encode "Not found" }

/-- The reply that a counter has a number and a version token. -/
def counted (request : Packet) (n : UInt64) (cas : UInt64) : Packet :=
  { success request with value := be 8 n.toNat, cas := cas }

/-- **What a server makes of a counter change if it has no counter**: with `Server.noCreation` it
    has none afterwards, and otherwise one with the number `initial`. -/
theorem respond_mutate_absent (habsent : s.items.lookup (Text.encode key) = none) :
    s.respond (Command.mutateRequest mode key initial delta expires cas tag) =
      if expires = noCreation then
        (s, [missing (Command.mutateRequest mode key initial delta expires cas tag)])
      else
        ({ items := s.items.insert (Text.encode key)
             ⟨0, Text.encode (toString initial), s.lastCas + 1⟩
           lastCas := s.lastCas + 1 },
          [counted (Command.mutateRequest mode key initial delta expires cas tag) initial
            (s.lastCas + 1)]) := by
  have hmutate : s.respond (Command.mutateRequest mode key initial delta expires cas tag) =
      s.mutate (Command.mutateRequest mode key initial delta expires cas tag) := by
    cases mode <;> rfl
  have hlookup : s.items.lookup (Command.mutateRequest mode key initial delta expires cas tag).key =
      none := habsent
  have hexpires : number32 ((Command.mutateRequest mode key initial delta expires cas
      tag).extras.drop 16) = expires := number32_mutateExtras
  have hinitial : number64 ((Command.mutateRequest mode key initial delta expires cas
      tag).extras.drop 8) = initial := number64_mutateExtras
  rw [hmutate, mutate, hlookup]
  dsimp only
  rw [hexpires, hinitial]
  by_cases hwithheld : expires = noCreation
  · rw [if_pos hwithheld, if_pos hwithheld]
    rfl
  · rw [if_neg hwithheld, if_neg hwithheld]
    rfl

end Sim.Server

/-! ## The reply -/

namespace Command

variable {p : Packet} {n : UInt64}

/-- A success that names a counter gives a counter change its `Reply.counter?`. -/
theorem handle_mutate_of_ok (hopcode : p.opcode = mode.opcode) (hstatus : p.status = 0)
    (hvalue : p.value = be 8 n.toNat) :
    (mutate mode key initial delta expires cas).handle {} p =
      ({ status? := some .ok, cas := p.cas, counter? := some n }, .ok .done) := by
  simp only [handle, expecting, if_pos hopcode, Reply.absorb_of_ok _ hstatus, hvalue, read64_of_be]
  rfl

/-- A failure ends a counter change as it is, by `Reply.absorb`. -/
theorem handle_mutate_of_failed (hopcode : p.opcode = mode.opcode) (hstatus : p.status ≠ 0) :
    (mutate mode key initial delta expires cas).handle {} p =
      (({} : Reply).absorb p, .ok .done) := by
  have hfailed : ¬ (({} : Reply).absorb p).status.isOk = true := by
    rw [Reply.status, Reply.status?_absorb, Option.getD_some, Status.isOk_ofWire]
    exact hstatus
  simp only [handle, expecting, if_pos hopcode, if_neg hfailed]

/-- **A client finds the whole answer in the octets of such a reply** (`Exchange.scan`). -/
theorem scan_mutate {reply : Reply} (hmagic : p.magic = Magic.response) (hplace : p.tag = tag)
    (hextras : p.extras = []) (hkey : p.key = []) (hshort : p.value.length ≤ 250)
    (hdone : (mutate mode key initial delta expires cas).handle {} { p with tag := 0 } =
      (reply, .ok .done)) :
    ((mutate mode key initial delta expires cas).exchange tag).scan p.encode =
      (⟨mutate mode key initial delta expires cas, reply, tag⟩, [], .ended (.ok ())) := by
  have hfirst : p.tag - tag = 0 := by rw [hplace, UInt32.sub_self]
  have hsize : p.bodyLength ≤ 250 := by
    rw [Packet.bodyLength, hextras, hkey, List.length_nil, Nat.zero_add]
    exact hshort
  have hmax : Decoder.responses.maxBody = 2097152 := rfl
  have hparse : Decoder.responses.parse (p.encode ++ []) = .ok (some (p, p.encode.length)) :=
    Decoder.parse_encode_of_lt [] (by rw [hmagic]; rfl) (by omega) (by omega)
      (by rw [hkey]; decide) (by rw [hextras]; decide)
  rw [List.append_nil] at hparse
  refine Exchange.scan_of_done (x := (mutate mode key initial delta expires cas).exchange tag)
    hparse ?_ ?_
  · show ¬ (1 : UInt32) ≤ p.tag - tag
    rw [hfirst]
    decide
  · show (mutate mode key initial delta expires cas).handle {} { p with tag := p.tag - tag } = _
    rw [hfirst]
    exact hdone

/-- The reply `Server.counted`, read by the client. -/
theorem scan_counted (n token : UInt64) :
    ((mutate mode key initial delta expires cas).exchange tag).scan
        (Sim.Server.counted (mutateRequest mode key initial delta expires cas tag) n token).encode =
      (⟨mutate mode key initial delta expires cas,
          { status? := some .ok, cas := token, counter? := some n }, tag⟩, [], .ended (.ok ())) := by
  refine scan_mutate rfl rfl rfl rfl ?_ (handle_mutate_of_ok rfl rfl rfl)
  rw [Sim.Server.counted, length_be]
  decide

/-- The reply `Server.missing`, read by the client. -/
theorem scan_missing (mode : MutateMode) (key : String) (initial delta : UInt64)
    (expires : UInt32) (cas : UInt64) (tag : UInt32) :
    ∃ reply : Reply, reply.status? = some .keyNotFound ∧
      ((mutate mode key initial delta expires cas).exchange tag).scan
          (Sim.Server.missing (mutateRequest mode key initial delta expires cas tag)).encode =
        (⟨mutate mode key initial delta expires cas, reply, tag⟩, [], .ended (.ok ())) := by
  have hshort : (Text.encode "Not found").length ≤ 250 := by decide
  have hstatus : Status.keyNotFound.code ≠ 0 := by decide
  exact ⟨_, Reply.status?_absorb .., scan_mutate rfl rfl rfl rfl hshort
    (handle_mutate_of_failed rfl hstatus)⟩

end Command

end Request

/-! ## The caller -/

namespace Client

variable {c : Client} {clock : WallTime} {f : Fleet} {mode : MutateMode} {key wire : String}
  {initial delta cas : UInt64} {expiration : Expiration} {expires tag : UInt32}

/-- **The counter was created, and the caller is told so:** under the key stands the text of the
    number, and the number is the value of a success. -/
structure Seeded (wire : String) (n : UInt64) (s' : Sim.Server) (answer : Answer) : Prop where
  stored : ∃ item, s'.items.lookup (Text.encode wire) = some item ∧
    Sim.Server.counter? item.data = some n
  told : ∃ o, answer = .counted o ∧ o.success = true ∧ o.value? = some n

/-- **The counter was not created:** nothing has changed, and the caller is told that there is no
    such key. -/
structure Withheld (s s' : Sim.Server) (answer : Answer) : Prop where
  unchanged : s' = s
  told : ∃ o, answer = .counted o ∧ o.success = false ∧ o.report.status = .keyNotFound ∧
    o.value? = none

theorem plan_mutate (hopen : f.disposed = false) (hkey : c.wireKey key = .ok wire)
    (hwritten : expiration.encodeAt clock = .ok expires) :
    c.plan clock f (.mutate mode key initial delta expiration cas) =
      .ok (.single (f.locate wire) (.mutate mode wire initial delta expires cas)) := by
  unfold plan
  simp only [hopen, hkey, encodeExpiration, hwritten]
  rfl

/-- The answer of `Client.conclude` to a request that one server has replied to. -/
def told (c : Client) (r : Request) (server? : Option Endpoint) (server : Endpoint)
    (x : Exchange) : Answer :=
  c.conclude r (.single server? x.command) [⟨server, Node.outcome x.reply, x.reply⟩]

/-- A success that names a number tells the caller that number, as `Outcome.value?`. -/
theorem told_of_ok {server? : Option Endpoint} {server : Endpoint} {x : Exchange} {n : UInt64}
    (hstatus : x.reply.status? = some .ok) (hcounter : x.reply.counter? = some n) :
    ∃ o, c.told (.mutate mode key initial delta expiration cas) server? server x = .counted o ∧
      o.success = true ∧ o.value? = some n := by
  have houtcome : Node.outcome x.reply = .pass x.reply.cas := by
    rw [Node.outcome, Reply.status, hstatus]
    rfl
  refine ⟨(Node.outcome x.reply).withValue x.reply.counter?, rfl, ?_, ?_⟩
  · rw [houtcome]
    rfl
  · rw [houtcome, hcounter]
    rfl

/-- A failure tells the caller its `Reply.status?`, and no number. -/
theorem told_of_failed {server? : Option Endpoint} {server : Endpoint} {x : Exchange}
    {status : Status} (hstatus : x.reply.status? = some status) (hfailed : status.isOk = false) :
    ∃ o, c.told (.mutate mode key initial delta expiration cas) server? server x = .counted o ∧
      o.success = false ∧ o.report.status = status ∧ o.value? = none := by
  have hreported : (Node.outcome x.reply).report.status = status :=
    Node.status_outcome hstatus fun hok => absurd hok (by rw [hfailed]; decide)
  have hcoherent := Node.coherent_outcome x.reply
  have hunsuccessful : (Node.outcome x.reply).success = false := by
    by_contra hsuccess
    have hok := hcoherent.report.status.mp (Bool.not_eq_false _ ▸ hsuccess)
    rw [← hreported, hok] at hfailed
    contradiction
  have hwith := hcoherent.withValue x.reply.counter?
  exact ⟨_, rfl, hunsuccessful, hreported, hwith.value hunsuccessful⟩

/-- **A missing counter is created with the number that was asked for, but not in the last second.**

    Let a counter change be asked for with an expiration that is accepted. `Client.plan` has it sent
    to the owner of the key, and the number that is written for the expiration is
    `Server.noCreation` just if the expiration lies in the last second that fits in 32 bits
    (`Expiration.Withholds`). A server finds one packet in the octets of the request, and in it the
    amount, the first number and that expiration (`Spells`). If it has no counter under the key,
    `Server.respond` gives one packet, in which the client finds a complete answer. Unless the
    expiration lies in the last second, the counter then stands under the key with the first number,
    and the caller is told that number (`Client.Seeded`); otherwise nothing has changed, and the
    caller is told that there is no such key (`Client.Withheld`). -/
theorem counter_seeded (c : Client) (clock : WallTime) (f : Fleet) (mode : MutateMode)
    (key wire : String) (initial delta : UInt64) (expiration : Expiration) (cas : UInt64)
    (expires : UInt32) (hopen : f.disposed = false) (hkey : c.wireKey key = .ok wire)
    (hwritten : expiration.encodeAt clock = .ok expires) :
    c.plan clock f (.mutate mode key initial delta expiration cas) =
        .ok (.single (f.locate wire) (.mutate mode wire initial delta expires cas)) ∧
      (expires = Sim.Server.noCreation ↔ expiration.Withholds clock) ∧
      ∀ tag, ∃ p, Decoder.requests.drain
          ((Command.mutate mode wire initial delta expires cas).encode tag) = ⟨[p], [], none⟩ ∧
        Spells p.extras [(8, delta.toNat), (8, initial.toNat), (4, expires.toNat)] ∧
        ∀ s : Sim.Server, s.items.lookup (Text.encode wire) = none →
          ∃ s' answer x, s.respond p = (s', [answer]) ∧
            ((Command.mutate mode wire initial delta expires cas).exchange tag).scan answer.encode =
              (x, [], .ended (.ok ())) ∧
            ∀ server,
              (¬ expiration.Withholds clock → Seeded wire initial s'
                (c.told (.mutate mode key initial delta expiration cas) (f.locate wire) server x)) ∧
              (expiration.Withholds clock → Withheld s s'
                (c.told (.mutate mode key initial delta expiration cas) (f.locate wire) server
                  x)) := by
  have hnumber : expires = Sim.Server.noCreation ↔ expiration.Withholds clock := by
    rw [← Expiration.encodeAt_eq_noCreation_iff, hwritten, Except.ok.injEq]
  refine ⟨plan_mutate hopen hkey hwritten, hnumber, fun tag => ?_⟩
  refine ⟨_, Command.drain_mutate (wireKey_eq_ok hkey).2, spells_mutateExtras .., ?_⟩
  intro s habsent
  rw [Sim.Server.respond_mutate_absent habsent]
  by_cases hwithheld : expires = Sim.Server.noCreation
  · obtain ⟨reply, hstatus, hscan⟩ :=
      Command.scan_missing mode wire initial delta expires cas tag
    rw [if_pos hwithheld]
    refine ⟨s, _, _, rfl, hscan, fun server => ⟨?_, fun _ => ⟨rfl, ?_⟩⟩⟩
    · exact fun hcreated => absurd (hnumber.mp hwithheld) hcreated
    · exact told_of_failed hstatus (by decide)
  · rw [if_neg hwithheld]
    refine ⟨_, _, _, rfl, Command.scan_counted initial _, fun server => ⟨fun _ => ⟨?_, ?_⟩, ?_⟩⟩
    · refine ⟨⟨0, Text.encode (toString initial), s.lastCas + 1⟩, ?_,
        Sim.Server.counter?_encode initial⟩
      rw [Table.lookup_insert, if_pos rfl]
    · exact told_of_ok rfl rfl
    · exact fun hlast => absurd (hnumber.mpr hlast) hwithheld

/-- A counter that is to last for a minute is created with 5 by an empty server. -/
theorem counter_seeded_minute :
    oneServer.disposed = false ∧ wireKey {} "hits" = .ok "hits" ∧
      (Expiration.after 60000000000).encodeAt 1700000000000000000 = .ok 60 ∧
      ∃ p s' answer x, Decoder.requests.drain
          ((Command.mutate .increment "hits" 5 1 60 0).encode 7) = ⟨[p], [], none⟩ ∧
        ({} : Sim.Server).respond p = (s', [answer]) ∧
        Seeded "hits" 5 s' (told {} (.mutate .increment "hits" 5 1 (.after 60000000000) 0)
          (oneServer.locate "hits") ⟨"a:1"⟩ x) := by
  have hkey : wireKey {} "hits" = .ok "hits" := by decide +kernel
  have hwritten : (Expiration.after 60000000000).encodeAt 1700000000000000000 = .ok 60 := by rfl
  obtain ⟨-, -, hsent⟩ := counter_seeded {} 1700000000000000000 oneServer .increment "hits" "hits"
    5 1 (.after 60000000000) 0 60 rfl hkey hwritten
  obtain ⟨p, hdrain, -, hserved⟩ := hsent 7
  obtain ⟨s', answer, x, hrespond, -, htold⟩ := hserved {} rfl
  have hshort : ¬ (Expiration.after 60000000000).Withholds 1700000000000000000 := by
    rw [← Expiration.encodeAt_eq_noCreation_iff, hwritten]
    decide
  exact ⟨rfl, hkey, hwritten, p, s', answer, x, hdrain, hrespond, (htold ⟨"a:1"⟩).1 hshort⟩

/-- So it is not true of every expiration that is accepted: a change that is to end in `lastSecond`
    asks the server not to create the counter. -/
theorem counter_not_seeded :
    ¬ ∀ (c : Client) (clock : WallTime) (f : Fleet) (mode : MutateMode) (key wire : String)
      (initial delta : UInt64) (expiration : Expiration) (cas : UInt64) (server? : Option Endpoint)
      (expires : UInt32),
      c.plan clock f (.mutate mode key initial delta expiration cas) =
        .ok (.single server? (.mutate mode wire initial delta expires cas)) →
      expires ≠ Sim.Server.noCreation := by
  intro hclaim
  have hplan : Client.plan {} 1700000000000000000 oneServer
      (.mutate .increment "hits" 5 1 (.at 4294967295000000000) 0) =
        .ok (.single (oneServer.locate "hits") (.mutate .increment "hits" 5 1 0xffffffff 0)) :=
    plan_mutate rfl (by decide +kernel) rfl
  exact hclaim _ _ _ _ _ _ _ _ _ _ _ _ hplan rfl

end Client

end Memcache
