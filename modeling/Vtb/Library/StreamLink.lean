import Vtb.Library.Framing
import Vtb.Library.Link

namespace Vtb.Library

namespace Link
variable {Sender Input Record Byte Packet Choice Receiver Received Reader Output : Type*}

/-- The sender writes whole records to a stream of bytes. A read takes the bytes that are there, and at most as many
as a record has; nothing is read from an empty stream. -/
def streamMachine (sending : Machine Sender Input Record) (encode : Record → List Byte) (size : Nat)
    (reading : Machine Reader (List Byte × Choice) Output) :
    Machine (Link Sender Byte Reader) (LinkEvent Input Choice) Output where
  step link event :=
    match event with
    | .send input =>
        (sending.step link.sender input).map fun sent =>
          ({ link with sender := sent.1, inFlight := link.inFlight ++ sent.2.flatMap encode }, [])
    | .deliver choice =>
        match link.inFlight with
        | [] => some (link, [])
        | first :: rest =>
            (reading.step link.receiver ((first :: rest).take size, choice)).map fun received =>
              ({ link with inFlight := (first :: rest).drop size, receiver := received.1 }, received.2)

section
variable (sending : Machine Sender Input Record) (plain : Machine Sender Input Packet) (value : Record → Packet)
  (codec : RecordCodec Record Byte) (reading : Machine Reader (List Byte × Choice) Output)
  (receiving : Machine Receiver Received Output) (receive : Packet → Choice → Received)
  (related : Reader → Receiver → Prop)

/-- The records are the packets of the plain sender. -/
def WritesPackets : Prop :=
  ∀ sender input next records, sending.step sender input = some (next, records) →
    plain.step sender input = some (next, records.map value)

/-- The reader does with the bytes of a record what the receiver does with its packet. -/
def ReadsPackets : Prop :=
  ∀ reader receiver record choice next outputs, related reader receiver →
    reading.step reader (codec.encode record, choice) = some (next, outputs) →
    ∃ after, receiving.step receiver (receive (value record) choice) = some (after, outputs) ∧ related next after

/-- Valid packets are written as records. -/
def WritesRecords (valid : Packet → Prop) : Prop :=
  ∀ sender input next packets, plain.step sender input = some (next, packets) → (∀ packet ∈ packets, valid packet) →
    ∃ records, sending.step sender input = some (next, records) ∧ records.map value = packets

/-- The reader handles the bytes of a record whenever the receiver handles its packet. -/
def ReadsRecords : Prop :=
  ∀ reader receiver record choice after outputs, related reader receiver →
    receiving.step receiver (receive (value record) choice) = some (after, outputs) →
    ∃ next, reading.step reader (codec.encode record, choice) = some (next, outputs) ∧ related next after

/-- The stream holds the bytes of the packets in flight. -/
structure Carries (stream : Link Sender Byte Reader) (link : Link Sender Packet Receiver) : Prop where
  sender : stream.sender = link.sender
  bytes : ∃ records : List Record, stream.inFlight = records.flatMap codec.encode ∧
    link.inFlight = records.map value
  receiver : related stream.receiver link.receiver

end

section
variable {sending : Machine Sender Input Record} {plain : Machine Sender Input Packet} {value : Record → Packet}
  {codec : RecordCodec Record Byte} {reading : Machine Reader (List Byte × Choice) Output}
  {receiving : Machine Receiver Received Output} {receive : Packet → Choice → Received}
  {related : Reader → Receiver → Prop}

/-- The front of the stream is a whole record. -/
theorem take_records (codec : RecordCodec Record Byte) (record : Record) (rest : List Record) :
    ((record :: rest).flatMap codec.encode).take codec.size = codec.encode record ∧
      ((record :: rest).flatMap codec.encode).drop codec.size = rest.flatMap codec.encode := by
  rw [List.flatMap_cons, ← codec.length_encode record]
  exact ⟨List.take_left, List.drop_left⟩

/-- The bytes of a record are not nothing. -/
theorem encode_ne_nil (codec : RecordCodec Record Byte) (record : Record) (rest : List Record) :
    (record :: rest).flatMap codec.encode ≠ [] := by
  apply List.ne_nil_of_length_pos
  rw [List.flatMap_cons, List.length_append, codec.length_encode]
  exact Nat.lt_of_lt_of_le codec.positive (Nat.le_add_right ..)

/-- One event of the stream is the same event of the packets. -/
theorem Carries.advance (writes : WritesPackets sending plain value)
    (reads : ReadsPackets value codec reading receiving receive related) {stream next : Link Sender Byte Reader}
    {link : Link Sender Packet Receiver} (carries : Carries value codec related stream link)
    {event : LinkEvent Input Choice} {outputs : List Output}
    (stepped : (streamMachine sending codec.encode codec.size reading).step stream event = some (next, outputs)) :
    ∃ after, (machine plain receiving receive).step link event = some (after, outputs) ∧
      Carries value codec related next after := by
  obtain ⟨records, bytes, packets⟩ := carries.bytes
  cases event with
  | send input =>
      obtain ⟨⟨sender, sent⟩, written, same⟩ := Option.map_eq_some_iff.mp stepped
      obtain ⟨rfl, rfl⟩ := Prod.mk.inj same
      rw [carries.sender] at written
      have plainly := writes _ _ _ _ written
      refine ⟨{ link with sender, inFlight := link.inFlight ++ sent.map value }, ?_, rfl, ?_, carries.receiver⟩
      · simp only [machine, plainly, Option.map_some]
      · exact ⟨records ++ sent, by rw [bytes, List.flatMap_append], by rw [packets, List.map_append]⟩
  | deliver choice =>
      cases records with
      | nil =>
          simp only [streamMachine, show stream.inFlight = [] from bytes, Option.some.injEq, Prod.mk.injEq] at stepped
          obtain ⟨rfl, rfl⟩ := stepped
          refine ⟨link, ?_, carries⟩
          simp only [machine, show link.inFlight = [] from packets]
      | cons record rest =>
          cases flight : stream.inFlight with
          | nil => exact absurd (bytes.symm.trans flight) (encode_ne_nil codec record rest)
          | cons first later =>
              obtain ⟨front, back⟩ := take_records codec record rest
              rw [← bytes, flight] at front back
              simp only [streamMachine, flight, front, back, Option.map_eq_some_iff, Prod.mk.injEq] at stepped
              obtain ⟨⟨reader, emitted⟩, read, rfl, rfl⟩ := stepped
              obtain ⟨receiver, received, kept⟩ := reads _ _ _ _ _ _ carries.receiver read
              refine ⟨{ link with inFlight := rest.map value, receiver }, ?_, carries.sender, ⟨rest, rfl, rfl⟩, kept⟩
              simp only [machine, show link.inFlight = value record :: rest.map value from packets, received,
                Option.map_some]

/-- Every run over the stream is the same run over the packets: reads of whole blocks tear no record. -/
theorem stream_refines (writes : WritesPackets sending plain value)
    (reads : ReadsPackets value codec reading receiving receive related) {stream final : Link Sender Byte Reader}
    {link : Link Sender Packet Receiver} (carries : Carries value codec related stream link)
    {events : List (LinkEvent Input Choice)} {outputs : List Output}
    (ran : (streamMachine sending codec.encode codec.size reading).run stream events = some (final, outputs)) :
    ∃ last, (machine plain receiving receive).run link events = some (last, outputs) ∧
      Carries value codec related final last := by
  have simulated := (streamMachine sending codec.encode codec.size reading).run_simulates (machine plain receiving receive)
    (Carries value codec related) id some (fun _ => True)
    (fun stream link event next outputs carries _ stepped => by
      rw [List.filterMap_some]
      exact carries.advance writes reads stepped)
    (fun _ _ => trivial) carries ran
  rwa [List.map_id, List.filterMap_some] at simulated

/-- One event of the packets whose packets are valid is the same event of the stream. -/
theorem Carries.follow {valid : Packet → Prop} (writes : WritesRecords sending plain value valid)
    (reads : ReadsRecords value codec reading receiving receive related) {stream : Link Sender Byte Reader}
    {link after : Link Sender Packet Receiver} (carries : Carries value codec related stream link)
    {event : LinkEvent Input Choice} {outputs : List Output}
    (stepped : (machine plain receiving receive).step link event = some (after, outputs))
    (fits : ∀ input next packets, event = .send input → plain.step link.sender input = some (next, packets) →
      ∀ packet ∈ packets, valid packet) :
    ∃ next, (streamMachine sending codec.encode codec.size reading).step stream event = some (next, outputs) ∧
      Carries value codec related next after := by
  obtain ⟨records, bytes, packets⟩ := carries.bytes
  cases event with
  | send input =>
      obtain ⟨⟨sender, sent⟩, written, same⟩ := Option.map_eq_some_iff.mp stepped
      obtain ⟨rfl, rfl⟩ := Prod.mk.inj same
      obtain ⟨more, plainly, rfl⟩ := writes _ _ _ _ written (fits input sender sent rfl written)
      rw [← carries.sender] at plainly
      refine ⟨{ stream with sender, inFlight := stream.inFlight ++ more.flatMap codec.encode }, ?_, rfl, ?_,
        carries.receiver⟩
      · simp only [streamMachine, plainly, Option.map_some]
      · exact ⟨records ++ more, by rw [bytes, List.flatMap_append], by rw [packets, List.map_append]⟩
  | deliver choice =>
      cases records with
      | nil =>
          simp only [machine, show link.inFlight = [] from packets, Option.some.injEq, Prod.mk.injEq] at stepped
          obtain ⟨rfl, rfl⟩ := stepped
          refine ⟨stream, ?_, carries⟩
          simp only [streamMachine, show stream.inFlight = [] from bytes]
      | cons record rest =>
          simp only [machine, show link.inFlight = value record :: rest.map value from packets,
            Option.map_eq_some_iff, Prod.mk.injEq] at stepped
          obtain ⟨⟨receiver, emitted⟩, received, rfl, rfl⟩ := stepped
          obtain ⟨reader, read, kept⟩ := reads _ _ _ _ _ _ carries.receiver received
          cases flight : stream.inFlight with
          | nil => exact absurd (bytes.symm.trans flight) (encode_ne_nil codec record rest)
          | cons first later =>
              obtain ⟨front, back⟩ := take_records codec record rest
              rw [← bytes, flight] at front back
              refine ⟨{ stream with inFlight := rest.flatMap codec.encode, receiver := reader }, ?_, carries.sender,
                ⟨rest, rfl, rfl⟩, kept⟩
              simp only [streamMachine, flight, front, back, read, Option.map_some]

/-- A run over packets that are all valid is the same run over the stream. -/
theorem stream_follows {valid : Packet → Prop} (writes : WritesRecords sending plain value valid)
    (reads : ReadsRecords value codec reading receiving receive related) {stream : Link Sender Byte Reader}
    {link last : Link Sender Packet Receiver} (carries : Carries value codec related stream link)
    {events : List (LinkEvent Input Choice)} {outputs : List Output}
    (ran : (machine plain receiving receive).run link events = some (last, outputs)) {sender : Sender}
    {sent : List Packet} (sends : plain.run link.sender (LinkEvent.inputs events) = some (sender, sent))
    (fits : ∀ packet ∈ sent, valid packet) :
    ∃ final, (streamMachine sending codec.encode codec.size reading).run stream events = some (final, outputs) ∧
      Carries value codec related final last := by
  induction events generalizing stream link outputs sent with
  | nil =>
      obtain ⟨rfl, rfl⟩ := Prod.mk.inj (Option.some.inj ran)
      exact ⟨stream, rfl, carries⟩
  | cons event rest ih =>
      obtain ⟨after, emitted, later, stepped, continued, rfl⟩ := Machine.run_cons_eq_some _ |>.mp ran
      cases event with
      | send input =>
          obtain ⟨next, first, others, handled, remaining, rfl⟩ := plain.run_cons_eq_some.mp sends
          obtain ⟨stream', moved, kept⟩ := carries.follow writes reads stepped (by
            intro other state packets same again packet member
            obtain rfl := LinkEvent.send.inj same
            obtain ⟨_, rfl⟩ := Prod.mk.inj (Option.some.inj (again.symm.trans handled))
            exact fits packet (List.mem_append_left _ member))
          have sender : after.sender = next := by
            obtain ⟨made, written, same⟩ := Option.map_eq_some_iff.mp stepped
            rw [handled] at written
            rw [← (Prod.mk.inj same).1, ← Option.some.inj written]
          obtain ⟨final, followed, held⟩ := ih kept continued (sender ▸ remaining)
            (fun packet member => fits packet (List.mem_append_right _ member))
          exact ⟨final, Machine.run_cons_eq_some _ |>.mpr ⟨_, _, _, moved, followed, rfl⟩, held⟩
      | deliver choice =>
          obtain ⟨stream', moved, kept⟩ := carries.follow writes reads stepped (by
            intro other state packets same
            simp at same)
          have sender : after.sender = link.sender := by
            cases flight : link.inFlight with
            | nil =>
                simp only [machine, flight, Option.some.injEq, Prod.mk.injEq] at stepped
                rw [← stepped.1]
            | cons packet more =>
                simp only [machine, flight, Option.map_eq_some_iff, Prod.mk.injEq] at stepped
                obtain ⟨received, _, same, _⟩ := stepped
                rw [← same]
          obtain ⟨final, followed, held⟩ := ih kept continued (by rw [sender]; exact sends) fits
          exact ⟨final, Machine.run_cons_eq_some _ |>.mpr ⟨_, _, _, moved, followed, rfl⟩, held⟩

end

end Link

end Vtb.Library
