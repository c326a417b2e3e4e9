import Vtb.Construction.ByteSystem
import Vtb.Proof.Stream.PacketFraming

namespace Vtb
open Library

/-- The image of a packet is the packet. -/
theorem image_eq_some {pdrs : PortDeviceRingState} {packet : Packet} : pdrs.image = some packet ↔ pdrs = packet.val := by
  unfold PortDeviceRingState.image
  split
  · next fits =>
      simp only [Option.some.injEq, Subtype.ext_iff]
  · next outside =>
      constructor
      · intro none
        simp at none
      · intro same
        exact absurd (same ▸ packet.property) outside

/-- Images exist for packets of ints, and they are these packets. -/
theorem images_eq_some {packets : List PortDeviceRingState} {images : List Packet} :
    packets.mapM PortDeviceRingState.image = some images ↔ packets = images.map Subtype.val := by
  induction packets generalizing images with
  | nil => cases images <;> simp
  | cons pdrs packets ih =>
      cases images with
      | nil => simp [List.mapM_cons, Option.bind_eq_some_iff]
      | cons packet images =>
          simp only [List.mapM_cons, Option.bind_eq_bind, Option.bind_eq_some_iff, image_eq_some, ih,
            Option.pure_def, Option.some.injEq, List.cons.injEq, List.map_cons]
          constructor
          · rintro ⟨first, rfl, rest, rfl, rfl, rfl⟩
            exact ⟨rfl, rfl⟩
          · rintro ⟨rfl, rfl⟩
            exact ⟨packet, rfl, images, rfl, rfl, rfl⟩

namespace ByteSystem

/-- The images are the packets of the callbacks. -/
theorem images_are_packets :
    Link.WritesPackets VhostController.imageMachine VhostController.machine (Subtype.val : Packet → PortDeviceRingState) := by
  intro controller callback next images written
  simp only [VhostController.imageMachine, Option.bind_eq_some_iff, Option.map_eq_some_iff, Prod.mk.injEq] at written
  obtain ⟨⟨after, packets⟩, handled, made, imaged, rfl, rfl⟩ := written
  obtain rfl : packets = made.map Subtype.val := images_eq_some.mp imaged
  exact handled

theorem packets_have_images :
    Link.WritesRecords VhostController.imageMachine VhostController.machine (Subtype.val : Packet → PortDeviceRingState)
      PortDeviceRingState.Fits := by
  intro controller callback next packets handled fits
  have whole : packets = (packets.attach.map fun packet => (⟨packet.val, fits packet.val packet.property⟩ : Packet)).map
      Subtype.val := by
    simp
  refine ⟨_, ?_, whole.symm⟩
  simp only [VhostController.imageMachine, show controller.handle callback = some (next, packets) from handled,
    Option.bind_some, images_eq_some.mpr whole, Option.map_some]

/-- The reader has the client and the controller. -/
def Attached (fd : Int) (reader : SocketReader) (controller : PortControllerLoopback) : Prop :=
  reader.worker.clients = [fd] ∧ reader.controller = controller

/-- A read of a whole packet calls `process_notification` on it. -/
theorem read_packet (settings : HandlerSettings) {fd : Int} {reader : SocketReader} (client : reader.worker.clients = [fd])
    (packet : Packet) (outcomes : CreateOutcomes) :
    (SocketReader.machine settings fd).step reader (packet.bytes, outcomes) =
      (PortControllerLoopback.processNotification settings reader.controller ⟨packet.val, outcomes⟩).map fun processed =>
        (⟨{ reader.worker with pdrs := EpollWorker.fill reader.worker.pdrs packet.bytes }, processed.1⟩, processed.2) := by
  have length := packet.length_bytes
  have read : reader.worker.handle (.readable fd packet.bytes) =
      some ({ reader.worker with pdrs := EpollWorker.fill reader.worker.pdrs packet.bytes }, [packet]) := by
    simp only [EpollWorker.handle, client, List.mem_singleton, true_and]
    rw [if_pos (le_of_eq length), if_neg (by rw [length]; decide), if_pos length, EpollWorker.toList_fill _ length,
      Packet.ofBytes_bytes]
  simp only [SocketReader.machine, read, Option.bind_some, List.map_cons, List.map_nil, Machine.run_singleton]
  rfl

theorem reads_packets (settings : HandlerSettings) (fd : Int) :
    Link.ReadsPackets (Subtype.val : Packet → PortDeviceRingState) packetCodec (SocketReader.machine settings fd)
      (PortControllerLoopback.machine settings) Notification.mk (Attached fd) := by
  intro reader controller packet outcomes next calls attached read
  obtain ⟨client, rfl⟩ := attached
  rw [show packetCodec.encode packet = Packet.bytes packet from rfl, read_packet settings client] at read
  obtain ⟨⟨after, emitted⟩, processed, same⟩ := Option.map_eq_some_iff.mp read
  obtain ⟨rfl, rfl⟩ := Prod.mk.inj same
  exact ⟨after, processed, client, rfl⟩

theorem reads_records (settings : HandlerSettings) (fd : Int) :
    Link.ReadsRecords (Subtype.val : Packet → PortDeviceRingState) packetCodec (SocketReader.machine settings fd)
      (PortControllerLoopback.machine settings) Notification.mk (Attached fd) := by
  intro reader controller packet outcomes after calls attached processed
  obtain ⟨client, rfl⟩ := attached
  have read := read_packet settings client packet outcomes
  rw [show PortControllerLoopback.processNotification settings reader.controller ⟨packet.val, outcomes⟩ =
    some (after, calls) from processed] at read
  exact ⟨_, read, client, rfl⟩

/-- The bytes in flight are those of the packets in flight, and both sides are the same. -/
abbrev Matches (fd : Int) : ByteSystem → LoopbackSystem → Prop :=
  Link.Carries (Subtype.val : Packet → PortDeviceRingState) packetCodec (Attached fd)

theorem matches_initial (parser : CmdlineParser) (fd : Int) : Matches fd (initial parser fd) (LoopbackSystem.initial parser) :=
  ⟨rfl, ⟨[], rfl, rfl⟩, rfl, rfl⟩

/-- Every run of the system of bytes is the same run of the system of packets, with the same calls of the handlers:
where every read returns a whole block of the stream, no packet is torn or lost. -/
theorem byte_system_refines (settings : HandlerSettings) (parser : CmdlineParser) (fd : Int) {events : List LoopbackEvent}
    {final : ByteSystem} {calls : List HandlerCall}
    (ran : (machine settings fd).run (initial parser fd) events = some (final, calls)) :
    ∃ last, (LoopbackSystem.machine settings).run (LoopbackSystem.initial parser) events = some (last, calls) ∧
      Matches fd final last :=
  Link.stream_refines images_are_packets (reads_packets settings fd) (matches_initial parser fd) ran

/-- And every run of the system of packets whose numbers are ints is the same run of the system of bytes. -/
theorem byte_system_complete (settings : HandlerSettings) (parser : CmdlineParser) (fd : Int)
    {events : List LoopbackEvent} {last : LoopbackSystem} {calls : List HandlerCall}
    (ran : (LoopbackSystem.machine settings).run (LoopbackSystem.initial parser) events = some (last, calls))
    {controller : VhostController} {sent : List PortDeviceRingState}
    (sends : VhostController.machine.run (VhostController.create (ConfigManager.initial parser))
      (LinkEvent.inputs events) = some (controller, sent)) (fits : ∀ pdrs ∈ sent, pdrs.Fits) :
    ∃ final, (machine settings fd).run (initial parser fd) events = some (final, calls) ∧ Matches fd final last :=
  Link.stream_follows packets_have_images (reads_records settings fd) (matches_initial parser fd) ran sends fits

/-- A device is announced, and the worker reads both packets. -/
def announcedInBytes : List LoopbackEvent := [.send (.newDevice 3 2), .deliver .granted, .deliver .granted]

/-- The handler of the first pair is started from the bytes. -/
theorem byte_system_refines_announced :
    ∃ final calls, (machine ⟨"Loopback", .ok 1⟩ 5).run (initial ConfigManager.arguments 5) announcedInBytes =
      some (final, calls) ∧ calls = [.started ⟨0, 3, 0, 1⟩ [.txRx]] ∧
      ∃ last, (LoopbackSystem.machine ⟨"Loopback", .ok 1⟩).run (LoopbackSystem.initial ConfigManager.arguments)
        announcedInBytes = some (last, calls) ∧ Matches 5 final last := by
  have outcome : ((machine ⟨"Loopback", .ok 1⟩ 5).run (initial ConfigManager.arguments 5) announcedInBytes).map
      Prod.snd = some [.started ⟨0, 3, 0, 1⟩ [.txRx]] := by decide +kernel
  obtain ⟨⟨final, calls⟩, ran, same⟩ := Option.map_eq_some_iff.mp outcome
  exact ⟨final, calls, ran, same, byte_system_refines _ _ _ ran⟩

/-- The same run exists over bytes because it does over packets. -/
theorem byte_system_complete_announced :
    ∃ last calls, (LoopbackSystem.machine ⟨"Loopback", .ok 1⟩).run (LoopbackSystem.initial ConfigManager.arguments)
      announcedInBytes = some (last, calls) ∧
      ∃ final, (machine ⟨"Loopback", .ok 1⟩ 5).run (initial ConfigManager.arguments 5) announcedInBytes =
        some (final, calls) ∧ Matches 5 final last := by
  have outcome : ((LoopbackSystem.machine ⟨"Loopback", .ok 1⟩).run (LoopbackSystem.initial ConfigManager.arguments)
      announcedInBytes).isSome := by decide +kernel
  have written : (VhostController.machine.run (VhostController.create (ConfigManager.initial ConfigManager.arguments))
      (LinkEvent.inputs announcedInBytes)).map Prod.snd = some [⟨0, 0, 3, 0, 1⟩, ⟨0, 0, 3, 1, 1⟩] := by decide +kernel
  obtain ⟨⟨last, calls⟩, ran⟩ := Option.isSome_iff_exists.mp outcome
  obtain ⟨⟨controller, sent⟩, sends, rfl⟩ := Option.map_eq_some_iff.mp written
  exact ⟨last, calls, ran, byte_system_complete _ _ _ ran sends (by decide)⟩

end ByteSystem

end Vtb
