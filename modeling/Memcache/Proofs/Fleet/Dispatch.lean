import Mathlib
import Memcache.Proofs.Fleet.Courses

/-!
# `Memcache.Proofs.Fleet.Dispatch` — what commands on the servers of a fleet send

What a command's task reports is known only where nobody interferes with its connection. What it
sends is known everywhere: a turn of it has `Effect.send` of the command, under the tags of some
connection, or no send (`Turn.Sends`). So whatever else happens at a server, and however often a
task has its turn, all that a ticket has sent there are the octets of its own command; and at a
server that is not the task's own a ticket sends nothing. A task that finds its node dead sends
nothing at all, so where something was sent `Node.alive` has been set.

## Contents

* `Turn.Sends`, `Task.sends_step` — **a turn sends the command, or nothing**;
* `Site.of_mem_requests_record` — what every turn keeps and every request has, a whole record has;
* `Site.exists_alive_of_sent` — **nothing is sent before the node is alive**;
* `Fleet.sent_of_play` — **a ticket sends its command, at home**;
* `Fleet.Steady`, `Fleet.alive_of_sent` — **only a server that is alive is sent anything**.
-/

namespace Memcache

/-! ## Turns -/

/-- All that is sent in a turn, by `Effect.send`, is a command, under some tags. -/
def Turn.Sends (command : Command) (turn : Turn) : Prop :=
  ∀ request ∈ requests turn.effects, ∃ base, request.2 = command.encode base

theorem Turn.sends_of_silent {command : Command} {turn : Turn} (h : requests turn.effects = []) :
    turn.Sends command := by
  intro request hrequest
  rw [h] at hrequest
  contradiction

namespace Task

variable {now : Time} {ticket : Ticket} {n : Node} {t : Task} {command : Command}

@[simp] theorem effects_denied (e : PoolError) : (t.denied now n e).effects = [] := by
  unfold denied
  split <;> rfl

@[simp] theorem effects_ended (reply : Reply) (result : Except ConnectionError Unit) :
    (t.ended now ticket n reply result).effects = [] := by
  unfold ended
  dsimp only
  split
  · rfl
  · split <;> rfl

@[simp] theorem effects_heard (x : Exchange) (v : Verdict) :
    (t.heard now ticket n x v).effects = [] := by
  cases v with
  | waiting => rfl
  | ended result => exact effects_ended ..

@[simp] theorem effects_sounded (c : Connection) (x : Exchange) (v : Verdict) :
    (t.sounded now n c x v).effects = [] := by
  cases v <;> rfl

/-- The command goes out by `Task.engage` under the next tags of the connection. -/
theorem sends_engage (holder : Ticket) : (t.engage now ticket holder n command).Sends command := by
  unfold engage
  split
  · exact Turn.sends_of_silent (by simp [requests])
  · next lease hlease =>
      intro request hrequest
      simp only [effects_heard, requests, List.filterMap_cons, List.filterMap_nil,
        List.mem_singleton] at hrequest
      subst hrequest
      exact ⟨lease.connection.nextTag, rfl⟩

theorem sends_equipped (hpurpose : t.purpose = .execute command) :
    (t.equipped now ticket n).Sends command := by
  unfold equipped
  rw [hpurpose]
  exact sends_engage ticket

theorem sends_admitted {a : Admission} (hpurpose : t.purpose = .execute command) :
    (t.admitted now ticket n a).Sends command := by
  cases a with
  | queued => exact Turn.sends_of_silent rfl
  | lent => exact sends_equipped hpurpose
  | opening => exact Turn.sends_of_silent rfl
  | refused => exact Turn.sends_of_silent (by simp [admitted, requests])

theorem sends_start (hpurpose : t.purpose = .execute command) :
    (t.start now ticket n).Sends command := by
  unfold start
  rw [hpurpose]
  dsimp only
  split
  · exact sends_admitted (n := { n with pool := _ }) hpurpose
  · exact Turn.sends_of_silent rfl

theorem sends_connected {link : Nat} (hpurpose : t.purpose = .execute command) :
    (t.connected now ticket n link).Sends command := by
  unfold connected
  rw [hpurpose]
  exact sends_equipped hpurpose

theorem sends_unreachable {e : ConnectionError} (hpurpose : t.purpose = .execute command) :
    (t.unreachable now ticket n e).Sends command := by
  unfold unreachable
  rw [hpurpose]
  exact Turn.sends_of_silent (by simp [requests])

/-- **A turn of a command's task sends the command, or nothing** (`Turn.Sends`). -/
theorem sends_step {arrival? : Option Arrival} {turn : Turn} (hpurpose : t.purpose = .execute command)
    (hturn : t.step now ticket arrival? n = some turn) : turn.Sends command := by
  cases step_eq_some_iff.mp hturn with
  | begun _ => exact sends_start hpurpose
  | resumed _ _ => exact sends_admitted hpurpose
  | connected _ _ => exact sends_connected hpurpose
  | refused _ _ | unconnected _ _ _ _ => exact sends_unreachable hpurpose
  | listened _ hlistened =>
      cases hlistened with
      | heard _ _ | interrupted _ _ => exact Turn.sends_of_silent (by simp [requests])
  | overdue _ _ _ | sounded _ _ => exact Turn.sends_of_silent (by simp [requests])
  | broken _ _ _ => exact Turn.sends_of_silent rfl

/-- The task of a command in `Stage.fresh` or `Stage.finished`. -/
def Unsent (command : Command) (t : Task) : Prop :=
  t.purpose = .execute command ∧ (t.stage = .fresh ∨ ∃ result, t.stage = .finished result)

end Task

/-! ## Sites -/

namespace Site

variable {site : Site} {ticket : Ticket} {e : Happening} {tale : List Happening}

/-- Nothing is sent but in a turn of the task. -/
theorem exists_turn_of_told {request : Nat × Bytes}
    (h : request ∈ requests (site.told ticket e).1) :
    ∃ now arrival? turn, e = .turn now ticket arrival? ∧
      site.turn? now ticket arrival? = some turn ∧ request ∈ requests turn.effects := by
  cases e with
  | turn now other arrival? =>
      unfold told at h
      dsimp only at h
      split at h
      · next task turn _ hturn =>
          split at h
          · next hticket =>
              subst hticket
              exact ⟨now, arrival?, turn, rfl, hturn, h⟩
          · contradiction
      · contradiction
  | setUp | forgotten | givenUp | tended | markedDead | markedAlive | launched | closed =>
      contradiction

theorem mem_requests_record {request : Nat × Bytes} {later : List Happening} :
    request ∈ requests (site.record ticket (e :: later)).1 ↔
      request ∈ requests (site.told ticket e).1 ∨
        request ∈ requests ((site.after e).record ticket later).1 := by
  rw [record, requests_append, List.mem_append]

/-- **What every `Task.step` keeps, and what all that it sends has, is true of all that is sent
    under its ticket,** whatever else happens. -/
theorem of_mem_requests_record {P : Task → Prop} {Q : Nat × Bytes → Prop}
    (hstep : ∀ {now : Time} {arrival? : Option Arrival} {node : Node} {task : Task} {turn : Turn},
      P task → task.step now ticket arrival? node = some turn →
        P turn.task ∧ ∀ request ∈ requests turn.effects, Q request)
    (hnew : ticket ∉ tale.filterMap Happening.newTicket?)
    (h : ∀ task, site.tasks ticket = some task → P task) :
    ∀ request ∈ requests (site.record ticket tale).1, Q request := by
  induction tale generalizing site with
  | nil => exact fun _ hnothing => absurd hnothing List.not_mem_nil
  | cons e later ih =>
      obtain ⟨hfirst, hrest⟩ := Happening.not_new_cons hnew
      have hturned : ∀ {now : Time} {arrival? : Option Arrival} {turn : Turn},
          site.turn? now ticket arrival? = some turn →
            P turn.task ∧ ∀ request ∈ requests turn.effects, Q request := by
        intro now arrival? turn hturn
        obtain ⟨task, node, htask, -, hstepped⟩ := exists_of_turn? hturn
        exact hstep (h task htask) hstepped
      intro request hrequest
      rcases mem_requests_record.mp hrequest with htold | hlater
      · obtain ⟨now, arrival?, turn, -, hturn, hsent⟩ := exists_turn_of_told htold
        exact (hturned hturn).2 request hsent
      · refine ih hrest (fun task' htask' => ?_) request hlater
        rcases task_after_cases hfirst htask' with
          ⟨hkept, -⟩ | ⟨now, arrival?, turn, -, hturn, rfl⟩
        · exact h task' hkept
        · exact (hturned hturn).1

/-- True of a site whose node is there, with `Node.alive`. -/
def alive (site : Site) : Bool :=
  site.node?.any (·.alive)

/-- A dead node makes an end of a command that is `Task.Unsent`, and nothing is sent. -/
theorem unsent_of_turn? {command : Command} {now : Time} {arrival? : Option Arrival} {turn : Turn}
    (hdead : site.alive = false) (h : ∀ task, site.tasks ticket = some task → Task.Unsent command task)
    (hturn : site.turn? now ticket arrival? = some turn) :
    Task.Unsent command turn.task ∧ turn.effects = [] := by
  obtain ⟨task, node, htask, hnode, hstep⟩ := exists_of_turn? hturn
  obtain ⟨hpurpose, hstage⟩ := h task htask
  have hnodeDead : node.alive = false := by
    unfold alive at hdead
    rwa [hnode] at hdead
  rcases hstage with hfresh | ⟨result, hfinished⟩
  · rw [Task.step_dead hpurpose hfresh hnodeDead] at hstep
    obtain rfl := Option.some.inj hstep
    exact ⟨⟨hpurpose, .inr ⟨_, rfl⟩⟩, rfl⟩
  · have hended := Task.unended_of_step hstep
    rw [Task.result?_of_finished hfinished] at hended
    contradiction

/-- **A command that is `Task.Unsent` is not sent before its node is alive.** -/
theorem exists_alive_of_sent {command : Command} {request : Nat × Bytes}
    (hnew : ticket ∉ tale.filterMap Happening.newTicket?)
    (h : ∀ task, site.tasks ticket = some task → Task.Unsent command task)
    (hsent : request ∈ requests (site.record ticket tale).1) :
    ∃ before, before <+: tale ∧ (before.foldl after site).alive = true := by
  induction tale generalizing site with
  | nil => exact absurd hsent List.not_mem_nil
  | cons e later ih =>
      by_cases halive : site.alive = true
      · exact ⟨[], List.nil_prefix, halive⟩
      have hdead : site.alive = false := eq_false_of_ne_true halive
      obtain ⟨hfirst, hrest⟩ := Happening.not_new_cons hnew
      rcases mem_requests_record.mp hsent with htold | hlater
      · obtain ⟨now, arrival?, turn, -, hturn, hmem⟩ := exists_turn_of_told htold
        rw [(unsent_of_turn? hdead h hturn).2] at hmem
        contradiction
      · have hunsent : ∀ task', (site.after e).tasks ticket = some task' →
            Task.Unsent command task' := by
          intro task' htask'
          rcases task_after_cases hfirst htask' with
            ⟨hkept, -⟩ | ⟨now, arrival?, turn, -, hturn, rfl⟩
          · exact h task' hkept
          · exact (unsent_of_turn? hdead h hturn).1
        obtain ⟨before, hbefore, hlive⟩ := ih hrest hunsent hlater
        exact ⟨e :: before, (List.prefix_cons_inj e).mpr hbefore, hlive⟩

end Site

/-! ## Fleets -/

namespace Fleet

variable {f f' : Fleet} {server other : Endpoint} {ticket : Ticket} {script : Script}

/-- In the course of a script a server neither dies nor comes back, as `Fleet.isAlive?` has it. -/
def Steady (f : Fleet) (script : Script) : Prop :=
  ∀ server ∈ f.nodes.keys, ∀ before ∈ (f.tale server script).inits,
    (before.foldl Site.after (f.site server)).alive = (f.site server).alive

instance (f : Fleet) (script : Script) : Decidable (f.Steady script) :=
  inferInstanceAs (Decidable (∀ server ∈ f.nodes.keys, ∀ before ∈ (f.tale server script).inits,
    (before.foldl Site.after (f.site server)).alive = (f.site server).alive))

section Sent
variable (h : f.Booked) {command : Command}
  (hjob : f.jobs.lookup ticket = some (newJob (server, .execute command)))
  (hplay : f.play script = some f')
include h hjob hplay

/-- The ticket is not given out again (`Happening.newTicket?`). -/
theorem not_mem_newTickets (other : Endpoint) :
    ticket ∉ (f.tale other script).filterMap Happening.newTicket? := by
  obtain ⟨-, hnumbered, -⟩ := numbered_tale other hplay
  intro hmem
  rw [h.numbered ticket (hnumbered.new ticket hmem)] at hjob
  contradiction

/-- **A ticket sends its command, at home**: the octets are those of `Command.encode`, and the
    server is that of its `Job`. -/
theorem sent_of_play {request : Nat × Bytes}
    (hsent : request ∈ requests ((f.site other).record ticket (f.tale other script)).1) :
    other = server ∧ ∃ base, request.2 = command.encode base := by
  have hnew := not_mem_newTickets h hjob hplay other
  have hhome : f.home? ticket = some server := home?_eq_some_iff.mpr ⟨_, hjob, rfl⟩
  constructor
  · -- elsewhere the ticket has no task, in the beginning and so ever after
    by_contra hother
    refine Site.of_mem_requests_record (P := fun _ => False) (Q := fun _ => False)
      (fun hfalse _ => hfalse.elim) hnew ?_ request hsent
    intro task htask
    rw [site_tasks_of_home_ne fun heq => hother (Option.some.inj (heq.symm.trans hhome))] at htask
    contradiction
  · refine Site.of_mem_requests_record (P := fun task => task.purpose = .execute command)
      (Q := fun request => ∃ base, request.2 = command.encode base) ?_ hnew ?_ request hsent
    · intro now arrival? node task turn hpurpose hturn
      exact ⟨(Task.lawful_step hturn).task.trans hpurpose, Task.sends_step hpurpose hturn⟩
    · intro task htask
      obtain ⟨job, hthere, -, rfl⟩ := site_tasks_eq_some_iff.mp htask
      obtain rfl := Option.some.inj (hjob.symm.trans hthere)
      rfl

/-- **Only a server that is alive is sent anything,** as long as none dies or comes back
    (`Fleet.Steady`). -/
theorem alive_of_sent (hsteady : f.Steady script) {request : Nat × Bytes}
    (hsent : request ∈ requests ((f.site server).record ticket (f.tale server script)).1) :
    f.isAlive? server = some true := by
  have hunsent : ∀ task, (f.site server).tasks ticket = some task → Task.Unsent command task := by
    intro task htask
    obtain ⟨job, hthere, -, rfl⟩ := site_tasks_eq_some_iff.mp htask
    obtain rfl := Option.some.inj (hjob.symm.trans hthere)
    exact ⟨rfl, .inl rfl⟩
  obtain ⟨before, hbefore, hlive⟩ :=
    Site.exists_alive_of_sent (not_mem_newTickets h hjob hplay server) hunsent hsent
  -- a node that is alive at some time was there before
  have hthere : (f.site server).node?.isSome = true := by
    rw [← Site.node?_foldl before]
    unfold Site.alive at hlive
    exact Option.isSome_of_any hlive
  obtain ⟨node, hnode⟩ := Option.isSome_iff_exists.mp hthere
  have hkey : server ∈ f.nodes.keys := by
    by_contra hmissing
    have hnone : f.nodes.lookup server = some node := hnode
    rw [Table.lookup_of_not_mem_keys hmissing] at hnone
    contradiction
  rw [hsteady server hkey before ((List.mem_inits ..).mpr hbefore)] at hlive
  unfold Site.alive at hlive
  rw [hnode] at hlive
  have hlookup : f.nodes.lookup server = some node := hnode
  unfold isAlive?
  rw [hlookup]
  exact congrArg some hlive

end Sent

end Fleet

end Memcache
