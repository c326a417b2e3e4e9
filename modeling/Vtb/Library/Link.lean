import Vtb.Library.Machine

namespace Vtb.Library

/-- A sender, a receiver and the packets that the receiver has not read yet. -/
structure Link (Sender Packet Receiver : Type*) where
  sender : Sender
  inFlight : List Packet
  receiver : Receiver

/-- The sender handles an input, or the receiver reads a packet under a choice of its environment. -/
inductive LinkEvent (Input Choice : Type*) where
  | send (input : Input)
  | deliver (choice : Choice)

namespace LinkEvent
variable {Input Choice : Type*}

/-- The input of the sender in one event. -/
def sentInput : LinkEvent Input Choice → Option Input
  | .send input => some input
  | .deliver _ => none

/-- The inputs of the sender in the order of the events. -/
def inputs (events : List (LinkEvent Input Choice)) : List Input := events.filterMap sentInput

theorem inputs_concat_send (past : List (LinkEvent Input Choice)) (input : Input) :
    inputs (past ++ [.send input]) = inputs past ++ [input] := by
  simp [inputs, sentInput]

theorem inputs_concat_deliver (past : List (LinkEvent Input Choice)) (choice : Choice) :
    inputs (past ++ [.deliver choice]) = inputs past := by
  simp [inputs, sentInput]

end LinkEvent

namespace Link
variable {Sender Input Packet Choice Receiver Received Output : Type*}
  (sending : Machine Sender Input Packet) (receiving : Machine Receiver Received Output)
  (receive : Packet → Choice → Received)

/-- Delivery is lossless and in order; a delivery with no packet in flight does nothing. -/
def machine : Machine (Link Sender Packet Receiver) (LinkEvent Input Choice) Output where
  step link event :=
    match event with
    | .send input =>
        (sending.step link.sender input).map fun sent =>
          ({ link with sender := sent.1, inFlight := link.inFlight ++ sent.2 }, [])
    | .deliver choice =>
        match link.inFlight with
        | [] => some (link, [])
        | packet :: rest =>
            (receiving.step link.receiver (receive packet choice)).map fun received =>
              ({ link with inFlight := rest, receiver := received.1 }, received.2)

/-- The reads of the receiver, each with the choice of its environment. -/
def reads (delivered : List (Packet × Choice)) : List Received :=
  delivered.map fun read => receive read.1 read.2

/-- Both parties ran, and what was sent was read in order or is still in flight. -/
def Ran (start : Link Sender Packet Receiver) (events : List (LinkEvent Input Choice))
    (final : Link Sender Packet Receiver) (outputs : List Output) : Prop :=
  ∃ (sent : List Packet) (delivered : List (Packet × Choice)),
    sending.run start.sender (LinkEvent.inputs events) = some (final.sender, sent) ∧
    receiving.run start.receiver (reads receive delivered) = some (final.receiver, outputs) ∧
    start.inFlight ++ sent = delivered.map Prod.fst ++ final.inFlight

variable {sending receiving receive}

/-- One event of the link is one step of one party. -/
theorem Ran.step {start link next : Link Sender Packet Receiver}
    {past : List (LinkEvent Input Choice)} {event : LinkEvent Input Choice} {outputs later : List Output}
    (ran : Ran sending receiving receive start past link outputs)
    (stepped : (machine sending receiving receive).step link event = some (next, later)) :
    Ran sending receiving receive start (past ++ [event]) next (outputs ++ later) := by
  obtain ⟨sent, delivered, sender, receiver, conserved⟩ := ran
  cases event with
  | send input =>
      obtain ⟨after, handled, same⟩ := Option.map_eq_some_iff.mp stepped
      obtain ⟨rfl, rfl⟩ := Prod.mk.inj same
      refine ⟨sent ++ after.2, delivered, ?_, by rw [List.append_nil]; exact receiver, ?_⟩
      · rw [LinkEvent.inputs_concat_send]
        exact sending.run_concat_of_step sender handled
      · rw [← List.append_assoc, conserved, List.append_assoc]
  | deliver choice =>
      rw [Ran, LinkEvent.inputs_concat_deliver]
      cases flight : link.inFlight with
      | nil =>
          simp only [machine, flight, Option.some.injEq, Prod.mk.injEq] at stepped
          obtain ⟨rfl, rfl⟩ := stepped
          rw [List.append_nil]
          exact ⟨sent, delivered, sender, receiver, conserved⟩
      | cons packet rest =>
          simp only [machine, flight, Option.map_eq_some_iff] at stepped
          obtain ⟨after, handled, same⟩ := stepped
          obtain ⟨rfl, rfl⟩ := Prod.mk.inj same
          refine ⟨sent, delivered ++ [(packet, choice)], sender, ?_, ?_⟩
          · rw [reads, List.map_append]
            exact receiving.run_concat_of_step receiver handled
          · simp [conserved, flight]

/-- Every run of the link runs both parties. -/
theorem ran_of_run {start final : Link Sender Packet Receiver} {events : List (LinkEvent Input Choice)}
    {outputs : List Output}
    (ran : (machine sending receiving receive).run start events = some (final, outputs)) :
    Ran sending receiving receive start events final outputs :=
  (machine sending receiving receive).run_history (Ran sending receiving receive start)
    ⟨[], [], rfl, rfl, by simp⟩
    (fun _ _ _ _ _ _ _ held stepped => held.step stepped) ran

/-- A delivery is defined when the receiver runs on the packets read so far and then on the next one. -/
theorem deliver_defined {link : Link Sender Packet Receiver} {receiver : Receiver} {packet : Packet}
    {rest : List Packet} {choice : Choice} {delivered later : List (Packet × Choice)} {emitted : List Output}
    (reached : receiving.run receiver (reads receive delivered) = some (link.receiver, emitted))
    (flight : link.inFlight = packet :: rest)
    (continued : ∃ last outputs,
      receiving.run receiver (reads receive (delivered ++ (packet, choice) :: later)) = some (last, outputs)) :
    ∃ next now, (machine sending receiving receive).step link (.deliver choice) = some (next, now) := by
  obtain ⟨last, outputs, ran⟩ := continued
  rw [reads, List.map_append] at ran
  obtain ⟨middle, early, late, before, after, _⟩ := receiving.run_append_eq_some.mp ran
  obtain ⟨same, _⟩ := Prod.mk.inj (Option.some.inj (reached.symm.trans before))
  obtain ⟨next, now, _, stepped, _, _⟩ := receiving.run_cons_eq_some.mp after
  apply Exists.intro { link with inFlight := rest, receiver := next }
  apply Exists.intro now
  simp only [machine, flight, same, stepped, Option.map_some]

/-- The link runs on every interleaving when the sender runs on its inputs
and the receiver runs on all packets that are sent. -/
theorem run_defined {start : Link Sender Packet Receiver} {valid : Packet → Prop}
    (received : ∀ delivered : List (Packet × Choice), (∀ read ∈ delivered, valid read.1) →
      ∃ last outputs, receiving.run start.receiver (reads receive delivered) = some (last, outputs))
    (held : ∀ packet ∈ start.inFlight, valid packet) {events : List (LinkEvent Input Choice)}
    {last : Sender} {sent : List Packet}
    (handled : sending.run start.sender (LinkEvent.inputs events) = some (last, sent))
    (emitted : ∀ packet ∈ sent, valid packet) :
    ∃ final outputs, (machine sending receiving receive).run start events = some (final, outputs) := by
  induction events using List.reverseRecOn generalizing last sent with
  | nil => exact ⟨start, [], rfl⟩
  | append_singleton past event ih =>
      cases event with
      | send input =>
          rw [LinkEvent.inputs_concat_send] at handled
          obtain ⟨middle, early, late, before, stepped, rfl⟩ := sending.run_concat_eq_some.mp handled
          obtain ⟨link, outputs, ran⟩ := ih before fun packet member =>
            emitted packet (List.mem_append_left _ member)
          obtain ⟨_, _, sender, _, _⟩ := ran_of_run ran
          obtain ⟨same, _⟩ := Prod.mk.inj (Option.some.inj (sender.symm.trans before))
          refine ⟨{ link with sender := last, inFlight := link.inFlight ++ late }, outputs ++ [], ?_⟩
          apply (machine sending receiving receive).run_concat_of_step ran
          simp only [machine, same, stepped, Option.map_some]
      | deliver choice =>
          rw [LinkEvent.inputs_concat_deliver] at handled
          obtain ⟨link, outputs, ran⟩ := ih handled emitted
          obtain ⟨all, delivered, sender, receiver, conserved⟩ := ran_of_run ran
          obtain ⟨_, rfl⟩ := Prod.mk.inj (Option.some.inj (sender.symm.trans handled))
          cases flight : link.inFlight with
          | nil =>
              refine ⟨link, outputs ++ [], ?_⟩
              apply (machine sending receiving receive).run_concat_of_step ran
              simp only [machine, flight]
          | cons packet rest =>
              have whole : ∀ packet ∈ start.inFlight ++ all, valid packet := by
                intro packet member
                exact (List.mem_append.mp member).elim (held packet) (emitted packet)
              rw [conserved, flight] at whole
              have continued := received (delivered ++ [(packet, choice)]) (by
                intro read member
                rcases List.mem_append.mp member with earlier | newest
                · exact whole read.1 (List.mem_append_left _ (List.mem_map_of_mem earlier))
                · rw [List.mem_singleton.mp newest]
                  exact whole packet (by simp))
              obtain ⟨next, now, stepped⟩ := deliver_defined receiver flight continued
              exact ⟨next, outputs ++ now, (machine sending receiving receive).run_concat_of_step ran stepped⟩

variable (sending receiving receive)

/-- Whenever the sender has handled a prefix of the inputs, the next delivery is defined. -/
def DeliversSafely (start : Link Sender Packet Receiver) (inputs : List Input) : Prop :=
  ∀ (events : List (LinkEvent Input Choice)) (final : Link Sender Packet Receiver) (outputs : List Output),
    LinkEvent.inputs events <+: inputs →
    (machine sending receiving receive).run start events = some (final, outputs) →
    ∀ choice, ∃ next later, (machine sending receiving receive).step final (.deliver choice) = some (next, later)

variable {sending receiving receive}

/-- The inputs of a list of sends are the inputs. -/
theorem inputs_sends (inputs : List Input) :
    LinkEvent.inputs (inputs.map LinkEvent.send : List (LinkEvent Input Choice)) = inputs := by
  induction inputs with
  | nil => rfl
  | cons input rest ih =>
      rw [List.map_cons, LinkEvent.inputs, List.filterMap_cons, ← LinkEvent.inputs, ih]
      rfl

/-- Sends without deliveries leave all packets in flight. -/
theorem run_sends {start : Link Sender Packet Receiver} {inputs : List Input} {last : Sender}
    {sent : List Packet} (handled : sending.run start.sender inputs = some (last, sent)) :
    (machine sending receiving receive).run start (inputs.map LinkEvent.send) =
      some (⟨last, start.inFlight ++ sent, start.receiver⟩, []) := by
  induction inputs using List.reverseRecOn generalizing last sent with
  | nil =>
      obtain ⟨rfl, rfl⟩ := Prod.mk.inj (Option.some.inj handled)
      simp
  | append_singleton past input ih =>
      obtain ⟨middle, early, late, before, stepped, rfl⟩ := sending.run_concat_eq_some.mp handled
      rw [List.map_append]
      apply (machine sending receiving receive).run_concat_of_step (ih before)
      simp only [machine, stepped, Option.map_some, List.append_assoc]

/-- A safe link delivers the packets in flight one after the other. -/
theorem DeliversSafely.drain {start link : Link Sender Packet Receiver} {inputs : List Input}
    (safe : DeliversSafely sending receiving receive start inputs) (delivered : List (Packet × Choice))
    {events : List (LinkEvent Input Choice)} {outputs : List Output}
    (within : LinkEvent.inputs events <+: inputs)
    (ran : (machine sending receiving receive).run start events = some (link, outputs))
    (flight : link.inFlight = delivered.map Prod.fst) :
    ∃ last later, receiving.run link.receiver (reads receive delivered) = some (last, later) := by
  induction delivered generalizing link events outputs with
  | nil => exact ⟨link.receiver, [], rfl⟩
  | cons read rest ih =>
      obtain ⟨next, later, stepped⟩ := safe events link outputs within ran read.2
      have ranNext := (machine sending receiving receive).run_concat_of_step ran stepped
      rw [List.map_cons] at flight
      simp only [machine, flight, Option.map_eq_some_iff] at stepped
      obtain ⟨received, handled, same⟩ := stepped
      obtain ⟨rfl, rfl⟩ := Prod.mk.inj same
      obtain ⟨last, more, continued⟩ := ih (by rw [LinkEvent.inputs_concat_deliver]; exact within) ranNext rfl
      exact ⟨last, received.2 ++ more,
        receiving.run_cons_eq_some.mpr ⟨received.1, received.2, more, handled, continued, rfl⟩⟩

/-- The deliveries are safe exactly when the receiver runs on all that the sender can send. -/
theorem deliversSafely_iff {start : Link Sender Packet Receiver} (quiet : start.inFlight = [])
    {inputs : List Input} :
    DeliversSafely sending receiving receive start inputs ↔
      ∀ (past : List Input) (last : Sender) (sent : List Packet), past <+: inputs →
        sending.run start.sender past = some (last, sent) →
        ∀ delivered : List (Packet × Choice), delivered.map Prod.fst = sent →
          ∃ final outputs, receiving.run start.receiver (reads receive delivered) = some (final, outputs) := by
  constructor
  · intro safe past last sent within handled delivered rfl
    have ran : (machine sending receiving receive).run start (past.map LinkEvent.send) =
        some (⟨last, start.inFlight ++ delivered.map Prod.fst, start.receiver⟩, []) := run_sends handled
    rw [quiet, List.nil_append] at ran
    have sends : LinkEvent.inputs (past.map LinkEvent.send : List (LinkEvent Input Choice)) <+: inputs := by
      rw [inputs_sends]
      exact within
    have drained := safe.drain delivered sends ran rfl
    exact drained
  · intro received events final outputs within ran choice
    obtain ⟨sent, delivered, handled, receiver, conserved⟩ := ran_of_run ran
    cases flight : final.inFlight with
    | nil => exact ⟨final, [], by simp only [machine, flight]⟩
    | cons packet rest =>
        have all : (delivered ++ (packet, choice) :: rest.map fun later => (later, choice)).map Prod.fst =
            sent := by
          rw [quiet, List.nil_append] at conserved
          rw [conserved, flight]
          simp [Function.comp_def]
        exact deliver_defined receiver flight (received _ _ _ within handled _ all)

end Link

end Vtb.Library
