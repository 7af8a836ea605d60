import Mathlib
import Memcache.Proofs.Connection.Stream
import Memcache.Proofs.Pool.TaskSteps
import Memcache.Proofs.Pool.Workload
import Memcache.Proofs.Wire.Requests

/-!
# `Memcache.Proofs.Node.Course` — the course of a command on its node

A command on a node waits for a connection, is sent, and is answered, while others use the same
node. It may fail at any of these waits, and whoever asked learns of it by the `Outcome`. Here the
course of its task is followed from one `Stage` to the next, and beside it what was asked of the
network (`requests`) and what was heard (`Task.hears`). When the task has ended there are three
cases: the command was not sent, or it was sent once and failed, or it was sent once and the octets
that were heard are its whole answer.

## Contents

* `requests`, `Task.hears` — what is sent and what is heard;
* `Task.Course` — the steps of a task, with those of others in between;
* `Served` — what became of a command; `Served.of_scan` — one that has heard its answer to the end
  reports it; `Stage.Tells` — the same from wait to wait;
* `Task.Course.served` — **what a task reports is what became of its command**;
* `Task.Course.exists_answered` — a command on a new node can be answered.
-/

namespace Memcache

/-! ## Courses -/

/-- The octets that the network is asked to send by `Effect.send`, each with its connection. -/
def requests (effects : List Effect) : List (Nat × Bytes) :=
  effects.filterMap fun
    | .dial _ => none
    | .send link bs => some (link, bs)

theorem requests_append (effects effects' : List Effect) :
    requests (effects ++ effects') = requests effects ++ requests effects' :=
  List.filterMap_append

namespace Task

/-- The octets that a task takes in. Only one in `Stage.talking` does. -/
def hears (t : Task) (arrival? : Option Arrival) : Bytes :=
  match t.stage, arrival? with
  | .talking _ _, some (.octets bs) => bs
  | _, _ => []

/-- Who is not in `Stage.talking` takes nothing in. -/
theorem hears_of_not_talking {t : Task} {arrival? : Option Arrival}
    (hsilent : ∀ x deadline, t.stage ≠ .talking x deadline) : t.hears arrival? = [] := by
  unfold hears
  split
  · next x deadline bs hstage => exact absurd hstage (hsilent x deadline)
  · rfl

/-- Who is in `Stage.talking` takes in the octets that come. -/
theorem hears_octets {t : Task} {x : Exchange} {deadline : Time}
    (hstage : t.stage = .talking x deadline) (bs : Bytes) : t.hears (some (.octets bs)) = bs := by
  unfold hears
  rw [hstage]

/-- The course of a command's task: its node and the task as they are now, what the network was
    asked for, and the octets that were heard. Others do what they do in between
    (`Pool.Evolves`). -/
inductive Course (ticket : Ticket) (command : Command) : Node → Task → List Effect → Bytes → Prop
    where
  | begun {n : Node} (hsound : n.pool.Sound) (hnone : n.pool.claims.lookup ticket = none) :
      Course ticket command n { purpose := .execute command } [] []
  | stepped {n : Node} {t : Task} {effects : List Effect} {heard : Bytes} {turn : Turn}
      (now : Time) (arrival? : Option Arrival) (h : Course ticket command n t effects heard)
      (hfresh : ∀ link, arrival? = some (.connected link) → n.pool.uses link = 0)
      (hturn : t.step now ticket arrival? n = some turn) :
      Course ticket command turn.node turn.task (effects ++ turn.effects)
        (heard ++ t.hears arrival?)
  | others {n n' : Node} {t : Task} {effects : List Effect} {heard : Bytes} {ahead : Bool}
      {k : Ticket} (h : Course ticket command n t effects heard) (hk : ticket ≠ k)
      (hevolves : n.pool.Evolves ahead k n'.pool) : Course ticket command n' t effects heard

end Task

/-! ## What became of a command -/

/-- **What became of a command**, given what was `sent` and `heard`, the outcome and the reply. -/
inductive Served (command : Command) (sent : List (Nat × Bytes)) (heard : Bytes)
    (outcome : Outcome Unit) (reply : Reply) : Prop where
  /-- It was not sent. -/
  | unsent (hsent : sent = []) (hheard : heard = []) (hfailed : outcome.success = false)
  /-- It was sent once, and what was heard is not its answer, or not all of it. -/
  | failed (link : Nat) (base : UInt32) (hsent : sent = [(link, command.encode base)])
      (hscan : ((command.exchange base).scan heard).2.2 ≠ .ended (.ok ()))
      (hfailed : outcome.success = false)
  /-- It was sent once, and what was `heard` is its answer. -/
  | answered (link : Nat) (base : UInt32) (hsent : sent = [(link, command.encode base)])
      (hscan : ((command.exchange base).scan heard).2.2 = .ended (.ok ()))
      (hreply : reply = ((command.exchange base).scan heard).1.reply)
      (houtcome : outcome = Node.outcome reply)

/-- **A command that has heard its answer to the end** (`Exchange.scan`) **reports what it
    heard.** -/
theorem Served.of_scan {command : Command} {sent : List (Nat × Bytes)} {heard : Bytes}
    {outcome : Outcome Unit} {reply : Reply} {link : Nat} {base : UInt32}
    (h : Served command sent heard outcome reply) (hsent : sent = [(link, command.encode base)])
    (hscan : ((command.exchange base).scan heard).2.2 = .ended (.ok ())) :
    reply = ((command.exchange base).scan heard).1.reply ∧ outcome = Node.outcome reply := by
  cases h with
  | unsent hnothing _ _ =>
      rw [hsent] at hnothing
      cases hnothing
  | failed link' base' hsent' hfailed _ =>
      rw [hsent] at hsent'
      obtain rfl := Command.base_eq_of_sent hsent'
      exact absurd hscan hfailed
  | answered link' base' hsent' _ hreply houtcome =>
      rw [hsent] at hsent'
      obtain rfl := Command.base_eq_of_sent hsent'
      exact ⟨hreply, houtcome⟩

/-- What the stage of a command's task tells of what was `sent` and `heard`. -/
def Stage.Tells (command : Command) (claim? : Option Claim) (sent : List (Nat × Bytes))
    (heard : Bytes) : Stage → Prop
  | .fresh | .queued _ | .dialling _ => sent = [] ∧ heard = []
  | .talking x _ => ∃ link base c, sent = [(link, command.encode base)] ∧
      claim? = some (.lent ⟨c, false⟩) ∧
      (command.exchange base).scan heard = (x, c.buffer.contents, .waiting)
  | .finished (.executed outcome reply) => Served command sent heard outcome reply
  | .probing _ _ _ | .finished _ => False

/-- What a turn tells (`Stage.Tells`), if its requests are added to those that were sent before. -/
def Turn.Tells (ticket : Ticket) (command : Command) (sent : List (Nat × Bytes)) (heard : Bytes)
    (turn : Turn) : Prop :=
  turn.task.stage.Tells command (turn.node.pool.claims.lookup ticket)
    (sent ++ requests turn.effects) heard

namespace Task

variable {ticket : Ticket} {command : Command} {now : Time} {n : Node} {t : Task}
  {sent : List (Nat × Bytes)} {heard : Bytes}

/-! ## Ends -/

theorem tells_denied {e : PoolError} (hpurpose : t.purpose = .execute command) :
    (t.denied now n e).Tells ticket command [] [] := by
  unfold denied
  rw [hpurpose]
  exact Served.unsent rfl rfl rfl

/-- A command that went wrong while it was under way, in `Task.ended`. -/
theorem tells_ended_error {link : Nat} {base : UInt32} {reply : Reply} {e : ConnectionError}
    (hpurpose : t.purpose = .execute command) (hsent : sent = [(link, command.encode base)])
    (hscan : ((command.exchange base).scan heard).2.2 ≠ .ended (.ok ())) :
    (t.ended now ticket n reply (.error e)).Tells ticket command sent heard := by
  unfold ended
  rw [hpurpose]
  refine Served.failed link base ?_ hscan rfl
  rw [hsent]
  rfl

/-- A command that has taken in what there was, in `Task.heard`. -/
theorem tells_heard {link : Nat} {base : UInt32} {x : Exchange} {c : Connection} {v : Verdict}
    (hpurpose : t.purpose = .execute command) (hsent : sent = [(link, command.encode base)])
    (hlent : n.pool.claims.lookup ticket = some (.lent ⟨c, false⟩))
    (hscan : (command.exchange base).scan heard = (x, c.buffer.contents, v)) :
    (t.heard now ticket n x v).Tells ticket command sent heard := by
  unfold Task.heard
  cases v with
  | waiting => exact ⟨link, base, c, by rw [hsent]; rfl, hlent, hscan⟩
  | ended result =>
      cases result with
      | error e =>
          apply tells_ended_error hpurpose hsent
          rw [hscan]
          nofun
      | ok u =>
          dsimp only [ended]
          rw [hpurpose]
          refine Served.answered link base ?_ ?_ ?_ rfl
          · rw [hsent]
            rfl
          · rw [hscan]
          · rw [hscan]

/-! ## Talking -/

/-- A command that begins by `Task.engage` on a connection without octets left over is sent, and
    waits for its answer. -/
theorem engage_of_empty {lease : Lease}
    (hlent : n.pool.claims.lookup ticket = some (.lent lease))
    (hempty : lease.connection.buffer.contents = []) :
    t.engage now ticket ticket n command =
      { node :=
          { n with
            pool := n.pool.putLease ticket
              ⟨⟨lease.connection.link, lease.connection.nextTag + command.span,
                lease.connection.buffer⟩, false⟩ }
        task :=
          { t with
            stage := .talking (command.exchange lease.connection.nextTag)
              (now + n.pool.settings.receiveTimeout) }
        effects := [.send lease.connection.link (command.encode lease.connection.nextTag)] } := by
  have hfront : lease.connection.buffer.front Decoder.responses = .ok none := by
    rw [ReceiveBuffer.front_eq, hempty]
    rfl
  have hdigest : (command.exchange lease.connection.nextTag).digest lease.connection.buffer =
      (command.exchange lease.connection.nextTag, lease.connection.buffer, .waiting) :=
    Exchange.digest_of_none hfront
  unfold engage Connection.begin
  rw [Pool.lease?_eq_some_iff.mpr hlent]
  dsimp only
  rw [← Command.exchange, hdigest]
  rfl

theorem tells_engage {lease : Lease}
    (hlent : n.pool.claims.lookup ticket = some (.lent lease))
    (hempty : lease.connection.buffer.contents = []) :
    (t.engage now ticket ticket n command).Tells ticket command [] [] := by
  rw [engage_of_empty hlent hempty]
  obtain ⟨-, hlent'⟩ : n.pool.Evolves false ticket _ ∧ _ :=
    Pool.evolves_putLease ⟨⟨lease.connection.link, lease.connection.nextTag + command.span,
      lease.connection.buffer⟩, false⟩ hlent rfl nofun
  refine ⟨lease.connection.link, lease.connection.nextTag, _, rfl, hlent', ?_⟩
  rw [hempty]
  exact Exchange.scan_of_none rfl

/-- A command in `Stage.talking` takes in what arrives, or goes wrong. -/
theorem tells_listen {x : Exchange} {deadline : Time} {arrival? : Option Arrival} {turn : Turn}
    (hpurpose : t.purpose = .execute command) (hstage : t.stage = .talking x deadline)
    (htells : t.stage.Tells command (n.pool.claims.lookup ticket) sent heard)
    (hlistened : t.Listened now ticket arrival? n x deadline turn) :
    turn.Tells ticket command sent (heard ++ t.hears arrival?) := by
  have hholder : t.holder ticket = ticket := holder_of_acquires (by rw [hpurpose]; rfl)
  rw [hstage] at htells
  obtain ⟨link, base, c, hsent, hlent, hscan⟩ := htells
  have hlease : n.pool.lease? (t.holder ticket) = some ⟨c, false⟩ := by
    rw [hholder, Pool.lease?_eq_some_iff.mpr hlent]
  cases hlistened with
  | @heard bs lease harrival hlease' =>
      obtain rfl : lease = ⟨c, false⟩ := Option.some.inj (hlease'.symm.trans hlease)
      have hhears : t.hears arrival? = bs := by
        rw [harrival]
        exact hears_octets hstage bs
      obtain ⟨-, hlent'⟩ : n.pool.Evolves false ticket _ ∧ _ :=
        Pool.evolves_putLease ⟨(x.receive c bs).2.1, false⟩ hlent rfl nofun
      rw [hhears, hholder]
      apply tells_heard (n := { n with pool := _ }) hpurpose hsent hlent'
      -- octets that come later are taken in as if all had come at once
      exact Exchange.scan_append_eq_receive bs hscan
  | interrupted hunheard _ =>
      have hhears : t.hears arrival? = [] := by
        unfold hears
        split
        · next bs _ _ => exact absurd hlease (hunheard bs _ rfl)
        · rfl
      rw [hhears, List.append_nil]
      apply tells_ended_error hpurpose hsent
      rw [hscan]
      nofun

/-! ## Acquiring a connection -/

theorem tells_admitted {a : Admission} (hpurpose : t.purpose = .execute command)
    (hleaves : a.Leaves (n.pool.claims.lookup ticket)) :
    (t.admitted now ticket n a).Tells ticket command [] [] := by
  cases a with
  | queued => exact ⟨rfl, rfl⟩
  | opening => exact ⟨rfl, rfl⟩
  | refused => exact tells_denied hpurpose
  | lent =>
      obtain ⟨lease, hlent, hempty⟩ := hleaves
      have hengage : (t.engage now ticket ticket n command).Tells ticket command [] [] :=
        tells_engage hlent hempty
      unfold admitted equipped
      rwa [hpurpose]

theorem tells_start (hpurpose : t.purpose = .execute command) (hsound : n.pool.Sound)
    (hnone : n.pool.claims.lookup ticket = none) :
    (t.start now ticket n).Tells ticket command [] [] := by
  unfold start
  rw [hpurpose]
  dsimp only
  split
  · obtain ⟨-, hleaves⟩ : n.pool.Evolves false ticket _ ∧ _ := Pool.evolves_enter hsound hnone
    exact tells_admitted (n := { n with pool := _ }) hpurpose hleaves
  · exact Served.unsent rfl rfl rfl

theorem tells_connected {link : Nat} (hpurpose : t.purpose = .execute command)
    (hopening : n.pool.claims.lookup ticket = some .opening) (hfresh : n.pool.uses link = 0) :
    (t.connected now ticket n link).Tells ticket command [] [] := by
  obtain ⟨-, hlent⟩ : n.pool.Evolves false ticket (n.pool.opened ticket link) ∧ _ :=
    Pool.evolves_opened hopening hfresh
  have hengage : (t.engage now ticket ticket { n with pool := n.pool.opened ticket link }
      command).Tells ticket command [] [] := tells_engage hlent rfl
  unfold connected equipped
  rw [hpurpose]
  exact hengage

theorem tells_unreachable {e : ConnectionError} (hpurpose : t.purpose = .execute command) :
    (t.unreachable now ticket n e).Tells ticket command [] [] := by
  have hdenied : (t.denied now { n with pool := n.pool.withdraw ticket } (.connect e)).Tells ticket
      command [] [] := tells_denied hpurpose
  unfold unreachable
  rwa [hpurpose]

/-! ## Steps and courses -/

/-- **Every `Task.step` tells what was sent and heard.** -/
theorem tells_step {turn : Turn} {arrival? : Option Arrival} (hpurpose : t.purpose = .execute command)
    (hsound : n.pool.Sound) (hfits : t.Fits ticket n.pool)
    (htells : t.stage.Tells command (n.pool.claims.lookup ticket) sent heard)
    (hfresh : ∀ link, arrival? = some (.connected link) → n.pool.uses link = 0)
    (hturn : t.step now ticket arrival? n = some turn) :
    turn.Tells ticket command sent (heard ++ t.hears arrival?) := by
  have hholds := (fits_of_acquires (by rw [hpurpose]; rfl)).mp hfits
  -- before the command is sent nothing is heard
  have hbefore : ∀ {told : Turn}, told.Tells ticket command [] [] → sent = [] ∧ heard = [] →
      (∀ x deadline, t.stage ≠ .talking x deadline) →
      told.Tells ticket command sent (heard ++ t.hears arrival?) := by
    rintro told htold ⟨rfl, rfl⟩ hsilent
    rwa [hears_of_not_talking hsilent]
  cases step_eq_some_iff.mp hturn with
  | begun hstage =>
      rw [hstage] at htells hholds
      exact hbefore (tells_start hpurpose hsound hholds) htells
        (by rw [hstage]; exact fun _ _ => nofun)
  | @resumed _ pool _ hstage hresume =>
      rw [hstage] at htells
      obtain ⟨-, hleaves⟩ : n.pool.Evolves false ticket pool ∧ _ :=
        Pool.evolves_resume hsound hresume
      exact hbefore (tells_admitted (n := { n with pool := pool }) hpurpose hleaves) htells
        (by rw [hstage]; exact fun _ _ => nofun)
  | overdue hstage _ _ =>
      rw [hstage] at htells
      exact hbefore (tells_denied hpurpose) htells (by rw [hstage]; exact fun _ _ => nofun)
  | connected hstage harrival =>
      rw [hstage] at htells hholds
      exact hbefore (tells_connected hpurpose hholds (hfresh _ harrival)) htells
        (by rw [hstage]; exact fun _ _ => nofun)
  | refused hstage _ | unconnected hstage _ _ _ =>
      rw [hstage] at htells
      exact hbefore (tells_unreachable hpurpose) htells (by rw [hstage]; exact fun _ _ => nofun)
  | listened hstage hlistened => exact tells_listen hpurpose hstage htells hlistened
  | sounded hstage _ | broken hstage _ _ =>
      rw [hstage] at htells
      exact absurd htells id

end Task

/-- What others do changes nothing of what the stage of a task tells (`Stage.Tells`). -/
theorem Stage.Tells.frame {command : Command} {stage : Stage} {c? c?' : Option Claim}
    {sent : List (Nat × Bytes)} {heard : Bytes} (h : stage.Tells command c? sent heard)
    (hc : c?' = c? ∨ c? = some .waiting ∧ c?' = some .granted) :
    stage.Tells command c?' sent heard := by
  rcases hc with rfl | ⟨rfl, rfl⟩
  · exact h
  · cases stage with
    | fresh | queued _ | dialling _ | probing _ _ _ => exact h
    | talking x deadline =>
        obtain ⟨link, base, c, -, hlent, -⟩ := h
        cases hlent
    | finished result => cases result <;> exact h

namespace Task.Course

variable {ticket : Ticket} {command : Command} {n : Node} {t : Task} {effects : List Effect}
  {heard : Bytes}

/-- At every point of a course the books are `Pool.Sound`, and the stage tells what the ticket holds
    and what was sent and heard. -/
theorem standing (h : Course ticket command n t effects heard) :
    t.purpose = .execute command ∧ n.pool.Sound ∧ t.Fits ticket n.pool ∧
      t.stage.Tells command (n.pool.claims.lookup ticket) (requests effects) heard := by
  induction h with
  | begun hsound hnone => exact ⟨rfl, hsound, hnone, rfl, rfl⟩
  | @stepped n t effects heard turn now arrival? _ hfresh hturn ih =>
      obtain ⟨hpurpose, hsound, hfits, htells⟩ := ih
      have hkeeps := keeps_step hsound hfits hfresh hturn
      have htold := tells_step hpurpose hsound hfits htells hfresh hturn
      rw [Turn.Tells, ← requests_append] at htold
      exact ⟨hkeeps.purpose.trans hpurpose, hkeeps.evolves.sound hsound, hkeeps.fits, htold⟩
  | @others n n' t effects heard ahead k _ hk hevolves ih =>
      obtain ⟨hpurpose, hsound, hfits, htells⟩ := ih
      have hframe : t.Fits ticket n'.pool := by
        refine hfits.frame hevolves hk fun other huse => ?_
        rw [hpurpose] at huse
        contradiction
      exact ⟨hpurpose, hevolves.sound hsound, hframe, htells.frame (hevolves.others ticket hk)⟩

/-- **What a task reports is what became of its command** (`Served`). -/
theorem served {result : TaskResult} (h : Course ticket command n t effects heard)
    (hresult : t.result? = some result) :
    ∃ outcome reply, result = .executed outcome reply ∧
      Served command (requests effects) heard outcome reply := by
  obtain ⟨-, -, -, htells⟩ := h.standing
  unfold result? at hresult
  cases hstage : t.stage with
  | finished ended =>
      rw [hstage] at hresult htells
      obtain rfl := Option.some.inj hresult
      cases ended with
      | executed outcome reply => exact ⟨outcome, reply, rfl, htells⟩
      | borrowed _ | ran _ _ | probed _ | warmed _ => exact absurd htells id
  | fresh | queued _ | dialling _ | talking _ _ | probing _ _ _ =>
      rw [hstage] at hresult
      contradiction

end Task.Course

/-! ## A course to the end -/

/-- A new node with one claim on its pool. -/
def Node.claimed (endpoint : Endpoint) (settings : PoolSettings) (policy : PolicyChoice)
    (ticket : Ticket) (claim : Claim) : Node :=
  { Node.new endpoint settings policy with
    pool :=
      { Pool.new endpoint settings with
        permits := Pool.size settings - 1
        claims := [(ticket, claim)] } }

namespace Task

section New
variable (endpoint : Endpoint) (settings : PoolSettings) (policy : PolicyChoice) (ticket : Ticket)
  (command : Command)

/-- On a new node a command has a connection opened for it. -/
theorem step_new :
    Task.step 0 ticket none (.new endpoint settings policy) { purpose := .execute command } =
      some
        { node := .claimed endpoint settings policy ticket .opening
          task :=
            { purpose := .execute command, stage := .dialling (0 + settings.connectTimeout) }
          effects := [.dial endpoint] } := by
  have hpermits : Pool.size settings ≠ 0 := by
    unfold Pool.size
    omega
  unfold step start acquire Pool.enter Node.new Pool.new
  dsimp only
  rw [if_pos rfl, if_neg Bool.false_ne_true, if_neg hpermits]
  rfl

/-- It is sent as soon as the connection is there. -/
theorem step_connected (link : Nat) :
    Task.step 0 ticket (some (.connected link))
        (.claimed endpoint settings policy ticket .opening)
        { purpose := .execute command, stage := .dialling (0 + settings.connectTimeout) } =
      some
        { node := .claimed endpoint settings policy ticket
            (.lent ⟨{ link := link, nextTag := 0 + command.span }, false⟩)
          task :=
            { purpose := .execute command
              stage := .talking (command.exchange 0) (0 + settings.receiveTimeout) }
          effects := [.send link (command.encode 0)] } := by
  have hfront : ReceiveBuffer.empty.front Decoder.responses = .ok none := rfl
  simp only [step, connected, equipped, engage, Node.claimed, Pool.opened, Pool.lease?,
    Pool.putLease, Table.modify, Table.lookup, List.map_cons, List.map_nil, if_true,
    Connection.begin, Exchange.digest_of_none hfront]
  rfl

/-- It ends with its answer. -/
theorem step_answered (c : Connection) (deadline : Time) {x : Exchange} {bs : Bytes}
    (hverdict : (x.receive c bs).2.2 = .ended (.ok ())) :
    ∃ turn, Task.step 0 ticket (some (.octets bs))
        (.claimed endpoint settings policy ticket (.lent ⟨c, false⟩))
        { purpose := .execute command, stage := .talking x deadline } = some turn ∧
      turn.effects = [] ∧ turn.task.result? =
        some (.executed (Node.outcome (x.receive c bs).1.reply) (x.receive c bs).1.reply) := by
  have hlease : (Node.claimed endpoint settings policy ticket (.lent ⟨c, false⟩)).pool.lease?
      ticket = some ⟨c, false⟩ := by
    simp [Node.claimed, Pool.lease?, Table.lookup]
  simp only [step, listen, holder, hlease, hverdict]
  exact ⟨_, rfl, rfl, rfl⟩

end New

namespace Course

/-- **Every answer can be heard**: by a command on a new node, over a connection that is opened for
    it. -/
theorem exists_answered (endpoint : Endpoint) (settings : PoolSettings) (policy : PolicyChoice)
    (ticket : Ticket) (link : Nat) {command : Command} {bs : Bytes}
    (hscan : ((command.exchange 0).scan bs).2.2 = .ended (.ok ())) :
    ∃ n t, Course ticket command n t [.dial endpoint, .send link (command.encode 0)] bs ∧
      t.result? = some (.executed (Node.outcome ((command.exchange 0).scan bs).1.reply)
        ((command.exchange 0).scan bs).1.reply) := by
  have hcontents : (ReceiveBuffer.empty.makeRoom.push bs).contents = bs := by
    rw [ReceiveBuffer.contents_push, ReceiveBuffer.contents_makeRoom]
    rfl
  have hseen := (command.exchange 0).seen_digest (ReceiveBuffer.empty.makeRoom.push bs)
  rw [hcontents] at hseen
  rw [← hseen] at hscan ⊢
  obtain ⟨turn, hturn, heffects, hresult⟩ := step_answered endpoint settings policy ticket command
    { link := link, nextTag := 0 + command.span } (0 + settings.receiveTimeout) hscan
  have hdialled : Course ticket command _ _ _ _ :=
    .stepped 0 none (.begun (Pool.sound_new endpoint settings) rfl) nofun
      (step_new endpoint settings policy ticket command)
  have hengaged := Course.stepped 0 (some (.connected link)) hdialled (fun _ _ => rfl)
    (step_connected endpoint settings policy ticket command link)
  have hended := Course.stepped 0 (some (.octets bs)) hengaged nofun hturn
  rw [heffects] at hended
  exact ⟨turn.node, turn.task, hended, hresult⟩

end Course

end Task

end Memcache
