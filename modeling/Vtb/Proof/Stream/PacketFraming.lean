import Vtb.Library.Latest
import Vtb.Construction.EpollWorker

namespace Vtb
open Library

/-- The four bytes of a word below `2 ^ 32` are its digits. -/
theorem digits_of_word (word : Nat) (small : word < 4294967296) :
    (UInt8.ofNat word).toNat + 256 * (UInt8.ofNat (word / 256)).toNat +
      65536 * (UInt8.ofNat (word / 65536)).toNat + 16777216 * (UInt8.ofNat (word / 16777216)).toNat =
      word := by
  simp only [UInt8.toNat_ofNat']
  omega

theorem intOfBytes_four (first second third fourth : UInt8) :
    intOfBytes [first, second, third, fourth] =
      Int.bmod (first.toNat + 256 * second.toNat + 65536 * third.toNat + 16777216 * fourth.toNat)
        4294967296 := rfl

/-- An `int` is read back from its four bytes. -/
theorem intOfBytes_intBytes {value : Int} (fits : IsInt value) : intOfBytes (intBytes value) = value := by
  obtain ⟨low, high⟩ := fits
  have word : ((value % 4294967296).toNat : Int) = value % 4294967296 := by omega
  have digits := congrArg (Nat.cast : Nat → Int)
    (digits_of_word (value % 4294967296).toNat (by omega))
  push_cast at digits
  have wrapped : (value % 4294967296).bmod 4294967296 = value.bmod 4294967296 := by
    simpa using Int.emod_bmod value 4294967296
  rw [intBytes, wordBytes, intOfBytes_four, digits, word, wrapped]
  exact Int.bmod_eq_of_le (by omega) (by omega)

@[simp] theorem length_intBytes (value : Int) : (intBytes value).length = 4 := rfl

/-- A packet has twenty bytes. -/
theorem Packet.length_bytes (packet : Packet) : packet.bytes.length = packetSize := by
  simp [Packet.bytes, packetSize]

/-- A packet is read back from its bytes. -/
theorem Packet.ofBytes_bytes (packet : Packet) : Packet.ofBytes packet.bytes = packet := by
  obtain ⟨pdrs, metaFits, portFits, deviceFits, qidFits, enableFits⟩ := packet
  apply Subtype.ext
  have fields : (Packet.ofBytes (Packet.bytes ⟨pdrs, metaFits, portFits, deviceFits, qidFits,
      enableFits⟩)).val = ⟨intOfBytes (intBytes pdrs.metaCode), intOfBytes (intBytes pdrs.portId),
      intOfBytes (intBytes pdrs.deviceId), intOfBytes (intBytes pdrs.qid),
      intOfBytes (intBytes pdrs.enable)⟩ := rfl
  rw [fields, intOfBytes_intBytes metaFits, intOfBytes_intBytes portFits, intOfBytes_intBytes deviceFits,
    intOfBytes_intBytes qidFits, intOfBytes_intBytes enableFits]

/-- The packets on the socket are records of twenty bytes. -/
def packetCodec : RecordCodec Packet UInt8 where
  size := packetSize
  positive := by decide
  encode := Packet.bytes
  decode := Packet.ofBytes
  length_encode := Packet.length_bytes
  decode_encode := Packet.ofBytes_bytes

namespace EpollWorker

/-- A full read replaces the whole buffer. -/
theorem toList_fill (pdrs : Vector UInt8 packetSize) {chunk : List UInt8}
    (full : chunk.length = packetSize) : (fill pdrs chunk).toList = chunk := by
  apply List.ext_getElem
  · simp [full]
  · intro index inside within
    simp [fill, within]

/-- The bytes that one event delivers, with the descriptor they come from. -/
def delivered : EpollEvent → Option (Int × List UInt8)
  | .readable fd chunk => if chunk.length = 0 then none else some (fd, chunk)
  | .connected _ => none
  | .other _ => none

/-- The reads of a run that return bytes. -/
def reads (events : List EpollEvent) : List (Int × List UInt8) := events.filterMap delivered

/-- One event calls `process_notification` on its bytes when they are a whole packet. -/
theorem handle_calls {worker next : EpollWorker} {event : EpollEvent} {calls : List Packet}
    (stepped : worker.handle event = some (next, calls)) :
    calls = packetCodec.framed ((reads [event]).map Prod.snd) := by
  cases event with
  | connected fd =>
      obtain ⟨_, rfl⟩ := Prod.mk.inj (Option.some.inj stepped)
      rfl
  | other fd =>
      obtain ⟨_, rfl⟩ := Prod.mk.inj (Option.some.inj stepped)
      rfl
  | readable fd chunk =>
      simp only [handle, Option.ite_none_right_eq_some] at stepped
      obtain ⟨_, stepped⟩ := stepped
      by_cases empty : chunk.length = 0
      · rw [if_pos empty] at stepped
        obtain ⟨_, rfl⟩ := Prod.mk.inj (Option.some.inj stepped)
        simp [reads, delivered, empty, RecordCodec.framed]
      · rw [if_neg empty] at stepped
        by_cases full : chunk.length = packetSize
        · rw [if_pos full, toList_fill _ full] at stepped
          obtain ⟨_, rfl⟩ := Prod.mk.inj (Option.some.inj stepped)
          simp [reads, delivered, packetCodec, RecordCodec.framed, full]
        · rw [if_neg full] at stepped
          obtain ⟨_, rfl⟩ := Prod.mk.inj (Option.some.inj stepped)
          simp [reads, delivered, empty, packetCodec, RecordCodec.framed, full]

/-- A run calls `process_notification` on the full reads only. -/
theorem run_calls {start final : EpollWorker} {events : List EpollEvent} {calls : List Packet}
    (ran : machine.run start events = some (final, calls)) :
    calls = packetCodec.framed ((reads events).map Prod.snd) := by
  apply machine.run_history
    (fun past _ emitted => emitted = packetCodec.framed ((reads past).map Prod.snd)) rfl _ ran
  intro past state emitted event next later _ held stepped
  rw [held, handle_calls stepped]
  simp [reads, RecordCodec.framed]

/-- A descriptor is registered from its accept to a read without bytes. -/
def registration (fd : Int) : EpollEvent → Option Bool
  | .connected other => if other = fd then some true else none
  | .readable other chunk => if other = fd ∧ chunk.length = 0 then some false else none
  | .other _ => none

/-- A read is reported for a registered descriptor and returns at most twenty bytes. -/
def kernelReports (past : List EpollEvent) : EpollEvent → Prop
  | .readable fd chunk => latest (registration fd) past = some true ∧ chunk.length ≤ packetSize
  | .connected _ => True
  | .other _ => True

instance (past : List EpollEvent) : ∀ event, Decidable (kernelReports past event)
  | .readable _ _ => inferInstanceAs (Decidable (_ ∧ _))
  | .connected _ => inferInstanceAs (Decidable True)
  | .other _ => inferInstanceAs (Decidable True)

/-- A worker without clients. -/
def initial : EpollWorker := ⟨Vector.replicate packetSize 0, []⟩

/-- The worker handles everything that the kernel reports. -/
theorem run_defined {events : List EpollEvent} (reported : Admits kernelReports events) :
    ∃ final calls, machine.run initial events = some (final, calls) := by
  have unregistered : ∀ fd, fd ∈ initial.clients ↔ latest (registration fd) [] = some true := by
    simp [initial]
  obtain ⟨final, calls, ran, _⟩ := machine.run_defined
    (fun past state _ => ∀ fd, fd ∈ state.clients ↔ latest (registration fd) past = some true)
    unregistered
    (by
      intro past state emitted event _ held allowed
      cases event with
      | connected fd =>
          refine ⟨_, _, rfl, ?_⟩
          intro other
          rw [latest_concat, List.mem_cons, held other, registration]
          by_cases own : fd = other
          · simp [own]
          · simp [own, Ne.symm own]
      | other fd =>
          refine ⟨_, _, rfl, ?_⟩
          intro other
          rw [latest_concat]
          exact held other
      | readable fd chunk =>
          have registered : fd ∈ state.clients ∧ chunk.length ≤ packetSize :=
            ⟨(held fd).mpr allowed.1, allowed.2⟩
          change ∃ next later, state.handle (.readable fd chunk) = some (next, later) ∧ _
          rw [handle, if_pos registered]
          by_cases empty : chunk.length = 0
          · rw [if_pos empty]
            refine ⟨_, _, rfl, ?_⟩
            intro other
            rw [latest_concat, registration]
            by_cases own : fd = other
            · simp [own, empty]
            · simpa [own, Ne.symm own] using held other
          · have kept : ∀ other, other ∈ state.clients ↔
                latest (registration other) (past ++ [.readable fd chunk]) = some true := by
              intro other
              rw [latest_concat, registration, if_neg (fun both => empty both.2), Option.none_or]
              exact held other
            rw [if_neg empty]
            split
            · exact ⟨_, _, rfl, kept⟩
            · exact ⟨_, _, rfl, kept⟩)
    reported
  exact ⟨final, calls, ran⟩

/-- When all bytes of completely written packets are read, `process_notification` was called on the
written packets of each connection, each once and in order, exactly when no read was short. -/
theorem packet_framing_iff {events : List EpollEvent} (reported : Admits kernelReports events)
    {written : Int → List Packet}
    (stream : ∀ fd, (fromSource fd (reads events)).flatten = (written fd).flatMap Packet.bytes) :
    ∃ final calls, machine.run initial events = some (final, calls) ∧
      (Interleaves written calls ↔ ∀ read ∈ reads events, read.2.length = packetSize) := by
  obtain ⟨final, calls, ran⟩ := run_defined reported
  refine ⟨final, calls, ran, ?_⟩
  rw [run_calls ran]
  apply packetCodec.interleaves_framed_iff _ stream
  intro read member
  obtain ⟨event, listed, hit⟩ := List.mem_filterMap.mp member
  obtain ⟨past, rest, rfl⟩ := List.append_of_mem listed
  have allowed := reported past event rest rfl
  cases event with
  | connected fd => simp [delivered] at hit
  | other fd => simp [delivered] at hit
  | readable fd chunk =>
      simp only [delivered, Option.ite_none_left_eq_some, Option.some.injEq] at hit
      obtain ⟨present, rfl⟩ := hit
      exact ⟨fun empty => present (by simp [show chunk = [] from empty]), allowed.2⟩

/-- The enable of ring 0 of device 0. -/
def sample : Packet := ⟨⟨0, 0, 0, 0, 1⟩, by decide⟩

/-- One packet arrives in two halves. -/
def halves : List EpollEvent :=
  [.connected 5, .readable 5 (sample.bytes.take 10), .readable 5 (sample.bytes.drop 10)]

/-- A packet that arrives in two halves is lost. -/
theorem split_packet_is_lost :
    ¬ ∀ (events : List EpollEvent) (written : Int → List Packet) (final : EpollWorker)
        (calls : List Packet), Admits kernelReports events →
      (∀ fd, (fromSource fd (reads events)).flatten = (written fd).flatMap Packet.bytes) →
      machine.run initial events = some (final, calls) → Interleaves written calls := by
  intro claimed
  obtain ⟨final, calls, ran⟩ : ∃ final calls, machine.run initial halves = some (final, calls) :=
    run_defined (by decide)
  have silent : (machine.run initial halves).map Prod.snd = some [] := by decide
  rw [ran, Option.map_some, Option.some.injEq] at silent
  have tags : (reads halves).map Prod.fst = [5, 5] := by decide
  have stream : ∀ fd, (fromSource fd (reads halves)).flatten =
      (if fd = 5 then [sample] else []).flatMap Packet.bytes := by
    intro fd
    by_cases own : fd = 5
    · subst own
      decide
    · have none : fromSource fd (reads halves) = [] := by
        rw [fromSource, List.map_eq_nil_iff, List.filter_eq_nil_iff]
        intro read member
        have tag : read.1 ∈ (reads halves).map Prod.fst := List.mem_map_of_mem member
        rw [tags] at tag
        have five : read.1 = 5 := by simpa using tag
        simp [five, Ne.symm own]
      rw [none, if_neg own]
      rfl
  obtain ⟨tagged, merged, ordered⟩ := claimed halves (fun fd => if fd = 5 then [sample] else []) final
    calls (by decide) stream ran
  have empty : tagged = [] := List.map_eq_nil_iff.mp (merged.trans silent)
  have lost := ordered 5
  simp [empty, fromSource] at lost

/-- The enable of ring 1 of device 0, and of ring 0 of device 1. -/
def nextSample : Packet := ⟨⟨0, 0, 1, 0, 1⟩, by decide⟩

def otherSample : Packet := ⟨⟨1, 1, 0, 0, 1⟩, by decide⟩

/-- What two clients write. -/
def twoWritten (fd : Int) : List Packet :=
  if fd = 5 then [sample, nextSample] else if fd = 6 then [otherSample, sample] else []

/-- The packets of the two clients arrive in turn, and the first client leaves before the last packet. -/
def twoClients : List EpollEvent :=
  [.connected 5, .readable 5 sample.bytes, .connected 6, .readable 6 otherSample.bytes,
    .readable 5 nextSample.bytes, .readable 5 [], .readable 6 sample.bytes]

/-- Packets that arrive in one read each are delivered in the order of their connections. -/
theorem whole_packets_are_delivered :
    ∃ final calls, machine.run initial twoClients = some (final, calls) ∧ Interleaves twoWritten calls := by
  have arrived : reads twoClients =
      [(5, sample.bytes), (6, otherSample.bytes), (5, nextSample.bytes), (6, sample.bytes)] := by decide
  have stream : ∀ fd, (fromSource fd (reads twoClients)).flatten = (twoWritten fd).flatMap Packet.bytes := by
    intro fd
    rw [arrived]
    by_cases first : fd = 5
    · subst first
      decide
    · by_cases second : fd = 6
      · subst second
        decide
      · simp [fromSource, twoWritten, first, second, Ne.symm first, Ne.symm second]
  obtain ⟨final, calls, ran, exact⟩ := packet_framing_iff (by decide) stream
  refine ⟨final, calls, ran, exact.mpr ?_⟩
  rw [arrived]
  decide

end EpollWorker

end Vtb
