import Vtb.Construction.EpollLoop
import Vtb.Proof.Stream.PacketFraming

namespace Vtb
open Library

namespace LoopEvent

/-- The call goes to the connection that the kernel reported. -/
def Meets : LoopEvent → Prop
  | .read reported actual _ => reported = actual
  | .closed reported actual => reported = actual
  | .stray _ _ => False
  | .accepted _ => True
  | .processed _ _ => True

def opened : LoopEvent → Option Connection
  | .accepted connection => some connection
  | _ => none

def shut : LoopEvent → Option Nat
  | .closed _ actual => some actual
  | _ => none

end LoopEvent

/-- The connections that were accepted, in their order. -/
def openings (events : List LoopEvent) : List Connection := events.filterMap LoopEvent.opened

/-- The serials of the connections that were closed, in their order. -/
def closings (events : List LoopEvent) : List Nat := events.filterMap LoopEvent.shut

@[simp] theorem openings_append (first second : List LoopEvent) :
    openings (first ++ second) = openings first ++ openings second := List.filterMap_append

@[simp] theorem closings_append (first second : List LoopEvent) :
    closings (first ++ second) = closings first ++ closings second := List.filterMap_append

namespace EpollLoop

/-- The open connections have different descriptors and different serials. -/
structure Sound (loop : EpollLoop) : Prop where
  fds : (loop.connections.map Connection.fd).Nodup
  serials : (loop.connections.map Connection.serial).Nodup
  below : ∀ connection ∈ loop.connections, connection.serial < loop.accepted

theorem sound_initial : initial.Sound := ⟨List.nodup_nil, List.nodup_nil, by simp [initial]⟩

/-- An open descriptor leads to its connection. -/
theorem Sound.find {loop : EpollLoop} (sound : loop.Sound) {connection : Connection}
    (member : connection ∈ loop.connections) :
    loop.connections.find? (fun other => other.fd = connection.fd) = some connection := by
  cases found : loop.connections.find? fun other => other.fd = connection.fd with
  | none => simpa using List.find?_eq_none.mp found connection member
  | some other =>
      have same : other.fd = connection.fd := by simpa using List.find?_some found
      rw [List.inj_on_of_nodup_map sound.fds (List.mem_of_find?_eq_some found) member same]

/-- An `accept` fails, or it opens a connection under an unused descriptor. -/
theorem accept_cases {loop next : EpollLoop} {outcome : AcceptOutcome} {events : List LoopEvent}
    (stepped : loop.acceptClient outcome = some (next, events)) :
    (outcome = .refused ∧ next = loop ∧ events = []) ∨
    ∃ fd watched, outcome = .accepted fd watched ∧ fd ∉ loop.connections.map Connection.fd ∧
      next = { loop with connections := ⟨loop.accepted, fd, watched⟩ :: loop.connections, accepted := loop.accepted + 1 } ∧
      events = [.accepted ⟨loop.accepted, fd, watched⟩] := by
  cases outcome with
  | refused =>
      obtain ⟨rfl, rfl⟩ := Prod.mk.inj (Option.some.inj stepped)
      exact .inl ⟨rfl, rfl, rfl⟩
  | accepted fd watched =>
      by_cases used : fd ∈ loop.connections.map Connection.fd
      · simp only [acceptClient, if_pos used] at stepped
        simp at stepped
      · simp only [acceptClient, if_neg used] at stepped
        obtain ⟨rfl, rfl⟩ := Prod.mk.inj (Option.some.inj stepped)
        exact .inr ⟨fd, watched, rfl, used, rfl, rfl⟩

/-- Two open connections of one descriptor are the same connection. -/
theorem Sound.same_socket {loop : EpollLoop} (sound : loop.Sound) {connection other : Connection}
    (present : connection ∈ loop.connections) (member : other ∈ loop.connections) :
    connection.fd = other.fd ↔ connection.serial = other.serial := by
  constructor
  · intro fds
    rw [List.inj_on_of_nodup_map sound.fds present member fds]
  · intro serials
    rw [List.inj_on_of_nodup_map sound.serials present member serials]

/-- A new connection has an unused descriptor and the next serial. -/
theorem Sound.accept {loop : EpollLoop} (sound : loop.Sound) {fd : Int}
    (unused : fd ∉ loop.connections.map Connection.fd) (watched : Bool) :
    Sound { loop with
      connections := ⟨loop.accepted, fd, watched⟩ :: loop.connections
      accepted := loop.accepted + 1 } where
  fds := List.nodup_cons.mpr ⟨unused, sound.fds⟩
  serials := by
    refine List.nodup_cons.mpr ⟨?_, sound.serials⟩
    intro taken
    obtain ⟨connection, member, same⟩ := List.mem_map.mp taken
    have small := sound.below connection member
    dsimp only at same
    omega
  below connection member := by
    rcases List.mem_cons.mp member with same | older
    · subst same
      exact Nat.lt_succ_self _
    · exact Nat.lt_succ_of_lt (sound.below connection older)

/-- A read of a reported connection returns its bytes, or it closes this connection and no other. -/
theorem Sound.client_cases {loop next : EpollLoop} (sound : loop.Sound) {connection : Connection}
    (member : connection ∈ loop.connections) {bytes : List UInt8} {events : List LoopEvent}
    (stepped : loop.readClient connection.serial connection.fd bytes = some (next, events)) :
    (bytes.length = 0 ∧ events = [.closed connection.serial connection.serial] ∧
      next = { loop with connections := loop.connections.filter fun other => other.serial ≠ connection.serial }) ∨
    (0 < bytes.length ∧ bytes.length ≤ packetSize ∧ next = { loop with pdrs := EpollWorker.fill loop.pdrs bytes } ∧
      events = .read connection.serial connection.serial bytes ::
        if bytes.length = packetSize then
          [.processed connection.serial (Packet.ofBytes (EpollWorker.fill loop.pdrs bytes).toList)] else []) := by
  rw [readClient, sound.find member] at stepped
  dsimp only at stepped
  split at stepped
  · next empty =>
      obtain ⟨rfl, rfl⟩ := Prod.mk.inj (Option.some.inj stepped)
      refine .inl ⟨empty, rfl, ?_⟩
      congr 1
      apply List.filter_congr
      intro other present
      simp [sound.same_socket present member]
  · next arrived =>
      split at stepped
      · next bounded =>
          obtain ⟨rfl, rfl⟩ := Prod.mk.inj (Option.some.inj stepped)
          exact .inr ⟨Nat.pos_of_ne_zero arrived, bounded, rfl, rfl⟩
      · simp at stepped

theorem Sound.filter {loop : EpollLoop} (sound : loop.Sound) (keep : Connection → Bool) :
    Sound { loop with connections := loop.connections.filter keep } where
  fds := sound.fds.sublist (List.filter_sublist.map _)
  serials := sound.serials.sublist (List.filter_sublist.map _)
  below connection member := sound.below connection (List.mem_of_mem_filter member)

/-- What an entry of a batch leaves for the rest of the batch. -/
structure Keeps (loop : EpollLoop) (report : EpollReport) (next : EpollLoop) (events : List LoopEvent) : Prop where
  sound : next.Sound
  meets : ∀ event ∈ events, event.Meets
  others : ∀ other : EpollReport, other.source ≠ report.source → other.Known loop.connections →
    other.Known next.connections

/-- An entry that the kernel reported is handled on its connection, and the other entries stay as reported. -/
theorem Sound.report {loop next : EpollLoop} (sound : loop.Sound) {report : EpollReport}
    (known : report.Known loop.connections) {events : List LoopEvent}
    (stepped : loop.handleReport report = some (next, events)) : Keeps loop report next events := by
  cases report with
  | listening outcome =>
      rcases accept_cases stepped with ⟨_, rfl, rfl⟩ | ⟨fd, watched, _, unused, rfl, rfl⟩
      · exact ⟨sound, by simp, fun other _ before => before⟩
      · refine ⟨sound.accept unused watched, by simp [LoopEvent.Meets], ?_⟩
        intro other _ before
        cases other with
        | listening _ => trivial
        | client serial number epollIn bytes => exact List.mem_cons_of_mem _ before
  | client serial fd epollIn bytes =>
      cases epollIn with
      | false =>
          obtain ⟨rfl, rfl⟩ := Prod.mk.inj (Option.some.inj stepped)
          exact ⟨sound, by simp, fun other _ before => before⟩
      | true =>
          rcases sound.client_cases known stepped with ⟨_, rfl, rfl⟩ | ⟨_, _, rfl, rfl⟩
          · refine ⟨sound.filter _, ?_, ?_⟩
            · intro event member
              rw [List.mem_singleton.mp member]
              rfl
            · intro other apart before
              cases other with
              | listening _ => trivial
              | client later number flag chunk =>
                  have different : later ≠ serial := fun same => apart (congrArg some same)
                  exact List.mem_filter.mpr ⟨before, by simpa using different⟩
          · refine ⟨⟨sound.fds, sound.serials, sound.below⟩, ?_, fun other _ before => before⟩
            intro event member
            rcases List.mem_cons.mp member with same | processed
            · subst same
              rfl
            · split at processed
              · rw [List.mem_singleton.mp processed]
                trivial
              · simp at processed

/-- What every reported entry keeps holds after a batch. -/
theorem batch_keeps (holds : List EpollReport → List LoopEvent → EpollLoop → Prop)
    (advance : ∀ done past loop report next events, holds done past loop → loop.Sound →
      report.Known loop.connections → loop.handleReport report = some (next, events) →
      holds (done ++ [report]) (past ++ events) next)
    {batch : List EpollReport} (once : (batch.map EpollReport.source).Nodup) {loop final : EpollLoop}
    (sound : loop.Sound) (known : ∀ report ∈ batch, report.Known loop.connections) {done : List EpollReport}
    {past events : List LoopEvent} (before : holds done past loop)
    (ran : reports.run loop batch = some (final, events)) :
    final.Sound ∧ holds (done ++ batch) (past ++ events) final := by
  induction batch generalizing loop done past events with
  | nil =>
      obtain ⟨rfl, rfl⟩ := Prod.mk.inj (Option.some.inj ran)
      exact ⟨sound, by simpa using before⟩
  | cons report rest ih =>
      obtain ⟨next, emitted, later, stepped, continued, rfl⟩ := reports.run_cons_eq_some.mp ran
      have here := known report (by simp)
      have kept := sound.report here stepped
      obtain ⟨fresh, distinct⟩ := List.nodup_cons.mp once
      have still : ∀ other ∈ rest, other.Known next.connections := by
        intro other member
        apply kept.others other _ (known other (by simp [member]))
        intro same
        exact fresh (same ▸ List.mem_map_of_mem member)
      have after := ih distinct kept.sound still (advance done past loop report next emitted before sound here stepped)
        continued
      simpa using after

/-- What one move of the worker does to the connections. -/
theorem handle_cases {loop next : EpollLoop} {input : LoopInput} {events : List LoopEvent}
    (stepped : loop.handle input = some (next, events)) :
    (∃ batch handled, input = .wait batch ∧ Reportable loop.connections batch ∧
      reports.run loop batch = some (handled, events) ∧ next = { handled with phase := .testing }) ∨
    ((∀ batch, input ≠ .wait batch) ∧ events = [] ∧ next.connections = loop.connections ∧ next.accepted = loop.accepted ∧ next.pdrs = loop.pdrs) := by
  unfold handle at stepped
  split at stepped
  · obtain ⟨rfl, rfl⟩ := Prod.mk.inj (Option.some.inj stepped)
    exact .inr ⟨by simp, rfl, rfl, rfl, rfl⟩
  · obtain ⟨rfl, rfl⟩ := Prod.mk.inj (Option.some.inj stepped)
    exact .inr ⟨by simp, rfl, rfl, rfl, rfl⟩
  · next batch _ =>
      split at stepped
      · next reportable =>
          obtain ⟨⟨handled, emitted⟩, ran, same⟩ := Option.map_eq_some_iff.mp stepped
          obtain ⟨rfl, rfl⟩ := Prod.mk.inj same
          exact .inl ⟨batch, handled, rfl, reportable, ran, rfl⟩
      · simp at stepped
  · obtain ⟨rfl, rfl⟩ := Prod.mk.inj (Option.some.inj stepped)
    exact .inr ⟨by simp, rfl, rfl, rfl, rfl⟩
  · simp at stepped

/-- The entries of all batches in their order. -/
def reported (inputs : List LoopInput) : List EpollReport :=
  inputs.flatMap fun input =>
    match input with
    | .wait batch => batch
    | _ => []

/-- What every reported entry keeps holds in every run. -/
theorem run_keeps (holds : List EpollReport → List LoopEvent → EpollLoop → Prop) (start : holds [] [] initial)
    (advance : ∀ done past loop report next events, holds done past loop → loop.Sound →
      report.Known loop.connections → loop.handleReport report = some (next, events) →
      holds (done ++ [report]) (past ++ events) next)
    (moves : ∀ done past loop next, holds done past loop → next.connections = loop.connections →
      next.accepted = loop.accepted → next.pdrs = loop.pdrs → holds done past next)
    {inputs : List LoopInput} {final : EpollLoop} {events : List LoopEvent}
    (ran : machine.run initial inputs = some (final, events)) :
    final.Sound ∧ holds (reported inputs) events final := by
  apply machine.run_history (fun past loop emitted => loop.Sound ∧ holds (reported past) emitted loop)
    ⟨sound_initial, start⟩ _ ran
  intro past loop emitted input next events _ before stepped
  obtain ⟨sound, held⟩ := before
  have split : reported (past ++ [input]) = reported past ++ reported [input] := List.flatMap_append
  rw [split]
  rcases handle_cases stepped with ⟨batch, handled, rfl, reportable, batchRan, rfl⟩ | ⟨quiet, rfl, same, count, buffer⟩
  · have single : reported [.wait batch] = batch := by simp [reported]
    obtain ⟨after, kept⟩ := batch_keeps holds advance reportable.2.1 sound reportable.2.2 held batchRan
    rw [single]
    exact ⟨⟨after.fds, after.serials, after.below⟩, moves _ _ handled _ kept rfl rfl rfl⟩
  · have single : reported [input] = [] := by
      cases input with
      | wait batch => exact absurd rfl (quiet batch)
      | _ => rfl
    rw [single, List.append_nil, List.append_nil]
    refine ⟨⟨same ▸ sound.fds, same ▸ sound.serials, ?_⟩, moves _ _ loop next held same count buffer⟩
    rw [same, count]
    exact sound.below

/-- The events account for the connections: each is opened under the next serial, is closed once at most, and is open
exactly as long as it is not closed. Every call went to the connection that the kernel reported. -/
structure Accounts (events : List LoopEvent) (loop : EpollLoop) : Prop where
  meets : ∀ event ∈ events, event.Meets
  serials : (openings events).map Connection.serial = List.range loop.accepted
  once : (closings events).Nodup
  remaining : loop.connections = ((openings events).filter fun connection => connection.serial ∉ closings events).reverse

  closed : ∀ serial ∈ closings events, serial < loop.accepted

/-- A connection that is open has not been closed. -/
theorem Accounts.open {events : List LoopEvent} {loop : EpollLoop} (accounts : Accounts events loop)
    {connection : Connection} (member : connection ∈ loop.connections) : connection.serial ∉ closings events := by
  rw [accounts.remaining, List.mem_reverse, List.mem_filter] at member
  simpa using member.2

/-- The next serial is not closed yet. -/
theorem Accounts.fresh {events : List LoopEvent} {loop : EpollLoop} (accounts : Accounts events loop) :
    loop.accepted ∉ closings events :=
  fun member => Nat.lt_irrefl _ (accounts.closed loop.accepted member)

theorem Accounts.meets_append {past events : List LoopEvent} {loop : EpollLoop} (accounts : Accounts past loop)
    (meets : ∀ event ∈ events, event.Meets) : ∀ event ∈ past ++ events, event.Meets := by
  intro event member
  rcases List.mem_append.mp member with earlier | now
  · exact accounts.meets event earlier
  · exact meets event now

/-- An accepted connection is added to the account. -/
theorem Accounts.accept {past : List LoopEvent} {loop next : EpollLoop} (accounts : Accounts past loop)
    {connection : Connection} (serial : connection.serial = loop.accepted)
    (connections : next.connections = connection :: loop.connections)
    (accepted : next.accepted = loop.accepted + 1) : Accounts (past ++ [.accepted connection]) next := by
  have opened : openings (past ++ [.accepted connection]) = openings past ++ [connection] := by
    rw [openings_append]
    rfl
  have shut : closings (past ++ [.accepted connection]) = closings past := by
    rw [closings_append]
    exact List.append_nil _
  constructor
  · exact accounts.meets_append (by simp [LoopEvent.Meets])
  · rw [opened, List.map_append, accounts.serials, accepted, List.range_succ, List.map_singleton, serial]
  · rw [shut]
    exact accounts.once
  · rw [opened, shut, List.filter_append, List.reverse_append, connections, accounts.remaining]
    simp [serial, accounts.fresh]
  · rw [shut, accepted]
    exact fun serial member => Nat.lt_succ_of_lt (accounts.closed serial member)

/-- A closed connection is removed from the account. -/
theorem Accounts.close {past : List LoopEvent} {loop next : EpollLoop} (accounts : Accounts past loop) {serial : Nat}
    (present : serial ∉ closings past) (below : serial < loop.accepted)
    (connections : next.connections = loop.connections.filter fun other => other.serial ≠ serial)
    (accepted : next.accepted = loop.accepted) : Accounts (past ++ [.closed serial serial]) next := by
  have opened : openings (past ++ [.closed serial serial]) = openings past := by
    rw [openings_append]
    exact List.append_nil _
  have shut : closings (past ++ [.closed serial serial]) = closings past ++ [serial] := by
    rw [closings_append]
    rfl
  constructor
  · exact accounts.meets_append (by simp [LoopEvent.Meets])
  · rw [opened, accepted, accounts.serials]
  · rw [shut]
    refine List.nodup_append.mpr ⟨accounts.once, List.nodup_singleton _, ?_⟩
    intro other member last single equal
    rw [List.mem_singleton.mp single] at equal
    exact present (equal ▸ member)
  · rw [opened, shut, connections, accounts.remaining, List.filter_reverse, List.filter_filter]
    congr 2
    funext connection
    simp [and_comm]
  · rw [shut, accepted]
    intro other member
    rcases List.mem_append.mp member with earlier | now
    · exact accounts.closed other earlier
    · rw [List.mem_singleton.mp now]
      exact below

/-- A read changes nothing in the account. -/
theorem Accounts.read {past events : List LoopEvent} {loop next : EpollLoop} (accounts : Accounts past loop)
    (meets : ∀ event ∈ events, event.Meets) (silent : openings events = [] ∧ closings events = [])
    (connections : next.connections = loop.connections) (accepted : next.accepted = loop.accepted) :
    Accounts (past ++ events) next := by
  have opened : openings (past ++ events) = openings past := by rw [openings_append, silent.1, List.append_nil]
  have shut : closings (past ++ events) = closings past := by rw [closings_append, silent.2, List.append_nil]
  constructor
  · exact accounts.meets_append meets
  · rw [opened, accepted, accounts.serials]
  · rw [shut]
    exact accounts.once
  · rw [opened, shut, connections, accounts.remaining]
  · rw [shut, accepted]
    exact accounts.closed

/-- Every entry of a batch keeps the account. -/
theorem Accounts.report {past events : List LoopEvent} {loop next : EpollLoop} (accounts : Accounts past loop)
    (sound : loop.Sound) {report : EpollReport} (known : report.Known loop.connections)
    (stepped : loop.handleReport report = some (next, events)) : Accounts (past ++ events) next := by
  have meets := (sound.report known stepped).meets
  cases report with
  | listening outcome =>
      rcases accept_cases stepped with ⟨_, rfl, rfl⟩ | ⟨fd, watched, _, unused, rfl, rfl⟩
      · exact accounts.read meets ⟨rfl, rfl⟩ rfl rfl
      · exact accounts.accept rfl rfl rfl
  | client serial fd epollIn bytes =>
      cases epollIn with
      | false =>
          obtain ⟨rfl, rfl⟩ := Prod.mk.inj (Option.some.inj stepped)
          exact accounts.read meets ⟨rfl, rfl⟩ rfl rfl
      | true =>
          rcases sound.client_cases known stepped with ⟨_, rfl, rfl⟩ | ⟨_, _, rfl, rfl⟩
          · exact accounts.close (accounts.open known) (sound.below _ known) rfl rfl
          · refine accounts.read meets ?_ rfl rfl
            split <;> exact ⟨rfl, rfl⟩

/-- In every run of the worker each call goes to the connection that the kernel reported, whatever descriptors are
reused within a batch, and the open connections are those that were accepted and not closed, each closed once at most. -/
theorem connections_accounted {inputs : List LoopInput} {final : EpollLoop} {events : List LoopEvent}
    (ran : machine.run initial inputs = some (final, events)) : final.Sound ∧ Accounts events final := by
  apply run_keeps (fun _ => Accounts) ⟨by simp, rfl, List.nodup_nil, rfl, by simp [closings]⟩ _ _ ran
  · intro _ past loop report next events held sound known stepped
    exact held.report sound known stepped
  · intro _ past loop next held same count _
    have kept : Accounts (past ++ []) next := held.read (by simp) ⟨rfl, rfl⟩ same count
    rwa [List.append_nil] at kept

/-- A client writes a packet and leaves, and in the same batch the next client gets its descriptor. -/
def reusedDescriptor : List LoopInput :=
  [.test, .wait [.listening (.accepted 5 true)], .test, .wait [.client 0 5 true EpollWorker.sample.bytes], .test,
    .interrupted, .test, .wait [.client 0 5 true [], .listening (.accepted 5 true)], .stop]

/-- The first connection is closed, and the second one is open under the same descriptor. -/
theorem connections_accounted_reused_descriptor :
    ∃ final events, machine.run initial reusedDescriptor = some (final, events) ∧
      final.connections = [⟨1, 5, true⟩] ∧ closings events = [0] ∧ final.Sound ∧ Accounts events final := by
  have outcome : (machine.run initial reusedDescriptor).map (fun result => (result.1.connections, closings result.2)) =
      some ([⟨1, 5, true⟩], [0]) := by decide +kernel
  obtain ⟨⟨final, events⟩, ran, same⟩ := Option.map_eq_some_iff.mp outcome
  obtain ⟨open_, shut⟩ := Prod.mk.inj same
  exact ⟨final, events, ran, open_, shut, connections_accounted ran⟩

end EpollLoop

namespace LoopEvent

def received : LoopEvent → Option (Nat × List UInt8)
  | .read _ actual bytes => some (actual, bytes)
  | _ => none

def packet : LoopEvent → Option Packet
  | .processed _ packet => some packet
  | _ => none

end LoopEvent

namespace EpollLoop

/-- The reads that return bytes, each with its connection. -/
def receptions (events : List LoopEvent) : List (Nat × List UInt8) := events.filterMap LoopEvent.received

/-- The packets that `process_notification` is called on. -/
def packets (events : List LoopEvent) : List Packet := events.filterMap LoopEvent.packet

/-- The entry as an event of the worker without batches and serials. -/
def EpollReport.entry : EpollReport → Option EpollEvent
  | .listening (.accepted fd true) => some (.connected fd)
  | .listening _ => none
  | .client _ fd true bytes => some (.readable fd bytes)
  | .client _ fd false _ => some (.other fd)

/-- The worker registers the watched descriptors. -/
def registered (connections : List Connection) : List Int :=
  (connections.filter Connection.watched).map Connection.fd

/-- One entry is one event of the worker, or none. -/
theorem report_simulates {loop next : EpollLoop} (sound : loop.Sound) {report : EpollReport}
    (known : report.Known loop.connections) {events : List LoopEvent}
    (stepped : loop.handleReport report = some (next, events)) :
    EpollWorker.machine.run ⟨loop.pdrs, registered loop.connections⟩ (EpollReport.entry report).toList =
      some (⟨next.pdrs, registered next.connections⟩, packets events) := by
  cases report with
  | listening outcome =>
      rcases accept_cases stepped with ⟨rfl, rfl, rfl⟩ | ⟨fd, watched, rfl, unused, rfl, rfl⟩
      · rfl
      · cases watched <;> rfl
  | client serial fd epollIn bytes =>
      cases epollIn with
      | false =>
          obtain ⟨rfl, rfl⟩ := Prod.mk.inj (Option.some.inj stepped)
          rfl
      | true =>
          have client : fd ∈ registered loop.connections :=
            List.mem_map.mpr ⟨⟨serial, fd, true⟩, List.mem_filter.mpr ⟨known, rfl⟩, rfl⟩
          have single : EpollWorker.machine.run ⟨loop.pdrs, registered loop.connections⟩ [.readable fd bytes] =
              EpollWorker.handle ⟨loop.pdrs, registered loop.connections⟩ (.readable fd bytes) :=
            EpollWorker.machine.run_singleton _ _
          rw [EpollReport.entry, Option.toList_some, single, EpollWorker.handle]
          rcases sound.client_cases known stepped with ⟨empty, rfl, rfl⟩ | ⟨arrived, bounded, rfl, rfl⟩
          · rw [if_pos ⟨client, by omega⟩, if_pos empty]
            simp only [packets, List.filterMap_cons, LoopEvent.packet, List.filterMap_nil]
            congr 3
            rw [registered, registered, List.filter_map, List.filter_filter, List.filter_filter]
            congr 1
            apply List.filter_congr
            intro other present
            have same := sound.same_socket present known
            simp [same, Bool.and_comm]
          · rw [if_pos ⟨client, bounded⟩, if_neg (by omega)]
            split
            · rfl
            · rfl

/-- The loop with its batches, phases and descriptors is the worker that takes one event after the other. -/
theorem loop_refines_worker {inputs : List LoopInput} {final : EpollLoop} {events : List LoopEvent}
    (ran : machine.run initial inputs = some (final, events)) :
    EpollWorker.machine.run EpollWorker.initial ((reported inputs).filterMap EpollReport.entry) =
      some (⟨final.pdrs, registered final.connections⟩, packets events) := by
  have kept := run_keeps (fun done past loop =>
    EpollWorker.machine.run EpollWorker.initial (done.filterMap EpollReport.entry) =
      some (⟨loop.pdrs, registered loop.connections⟩, packets past)) rfl ?_ ?_ ran
  · exact kept.2
  · intro done past loop report next events held sound known stepped
    have one := report_simulates sound known stepped
    have split : [report].filterMap EpollReport.entry = (EpollReport.entry report).toList := by
      cases entry : EpollReport.entry report <;> simp [entry]
    rw [List.filterMap_append, split]
    exact EpollWorker.machine.run_append_eq_some.mpr ⟨_, _, _, held, one, List.filterMap_append⟩
  · intro done past loop next held same _ buffer
    rw [same, buffer]
    exact held

/-- The worker sees one connection come, write and go, and another one come. -/
theorem loop_refines_worker_reused_descriptor :
    ∃ final events, machine.run initial reusedDescriptor = some (final, events) ∧
      packets events = [EpollWorker.sample] ∧
      EpollWorker.machine.run EpollWorker.initial ((reported reusedDescriptor).filterMap EpollReport.entry) =
        some (⟨final.pdrs, registered final.connections⟩, packets events) := by
  have outcome : (machine.run initial reusedDescriptor).map (fun result => packets result.2) =
      some [EpollWorker.sample] := by decide +kernel
  obtain ⟨⟨final, events⟩, ran, same⟩ := Option.map_eq_some_iff.mp outcome
  exact ⟨final, events, ran, same, loop_refines_worker ran⟩

/-- The packets are the full reads, and each read has at most the bytes that were asked for. -/
theorem packets_framed {inputs : List LoopInput} {final : EpollLoop} {events : List LoopEvent}
    (ran : machine.run initial inputs = some (final, events)) :
    packets events = packetCodec.framed ((receptions events).map Prod.snd) ∧
      ∀ read ∈ receptions events, read.2 ≠ [] ∧ read.2.length ≤ packetSize := by
  have kept := run_keeps (fun _ past _ => packets past = packetCodec.framed ((receptions past).map Prod.snd) ∧
    ∀ read ∈ receptions past, read.2 ≠ [] ∧ read.2.length ≤ packetSize) ⟨rfl, by simp [receptions]⟩ ?_ ?_ ran
  · exact kept.2
  · intro done past loop report next events held sound known stepped
    suffices here : packets events = packetCodec.framed ((receptions events).map Prod.snd) ∧
        ∀ read ∈ receptions events, read.2 ≠ [] ∧ read.2.length ≤ packetSize by
      constructor
      · simp only [packets, receptions, List.filterMap_append, List.map_append, RecordCodec.framed] at held here ⊢
        rw [held.1, here.1]
      · intro read member
        simp only [receptions, List.filterMap_append, List.mem_append] at member
        exact member.elim (held.2 read) (here.2 read)
    cases report with
    | listening outcome =>
        rcases accept_cases stepped with ⟨_, rfl, rfl⟩ | ⟨fd, watched, _, unused, rfl, rfl⟩
        · exact ⟨rfl, by simp [receptions]⟩
        · exact ⟨rfl, by simp [receptions, LoopEvent.received]⟩
    | client serial fd epollIn bytes =>
        cases epollIn with
        | false =>
            obtain ⟨rfl, rfl⟩ := Prod.mk.inj (Option.some.inj stepped)
            exact ⟨rfl, by simp [receptions]⟩
        | true =>
            rcases sound.client_cases known stepped with ⟨_, rfl, rfl⟩ | ⟨arrived, bounded, rfl, rfl⟩
            · exact ⟨rfl, by simp [receptions, LoopEvent.received]⟩
            · have filled : bytes ≠ [] := List.ne_nil_of_length_pos arrived
              by_cases full : bytes.length = packetSize
              · rw [if_pos full, EpollWorker.toList_fill _ full]
                simp [packets, receptions, LoopEvent.packet, LoopEvent.received, packetCodec, RecordCodec.framed,
                  List.filterMap_cons, full, filled]
              · rw [if_neg full]
                simp [packets, receptions, LoopEvent.packet, LoopEvent.received, packetCodec, RecordCodec.framed,
                  List.filterMap_cons, full, filled, bounded]
  · exact fun _ _ _ _ held _ _ _ => held

/-- When all bytes of completely written packets are read, `process_notification` was called on the packets of each
connection, each once and in order, exactly when no read was short. Connections that share a descriptor one after
the other are kept apart. -/
theorem connections_framed_iff {inputs : List LoopInput} {final : EpollLoop} {events : List LoopEvent}
    (ran : machine.run initial inputs = some (final, events)) {written : Nat → List Packet}
    (stream : ∀ serial, (fromSource serial (receptions events)).flatten = (written serial).flatMap Packet.bytes) :
    Interleaves written (packets events) ↔ ∀ read ∈ receptions events, read.2.length = packetSize := by
  obtain ⟨framed, inside⟩ := packets_framed ran
  rw [framed]
  exact RecordCodec.interleaves_framed_iff inside stream

/-- The packet of the first connection is delivered, and the second connection has written nothing. -/
theorem connections_framed_iff_reused_descriptor :
    ∃ final events, machine.run initial reusedDescriptor = some (final, events) ∧
      Interleaves (fun serial : Nat => if serial = 0 then [EpollWorker.sample] else []) (packets events) := by
  have outcome : (machine.run initial reusedDescriptor).map (fun result => receptions result.2) =
      some [(0, EpollWorker.sample.bytes)] := by decide +kernel
  obtain ⟨⟨final, events⟩, ran, same⟩ := Option.map_eq_some_iff.mp outcome
  replace same : receptions events = [(0, EpollWorker.sample.bytes)] := same
  refine ⟨final, events, ran, (connections_framed_iff ran ?_).mpr ?_⟩
  · intro serial
    rw [same]
    by_cases first : serial = 0
    · subst first
      simp [fromSource]
    · simp [fromSource, first, Ne.symm first]
  · rw [same]
    decide

end EpollLoop

end Vtb
