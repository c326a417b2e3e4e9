/-
This file embeds the memory image of `PortDeviceRingState`, which `send_packet` of `common.h` writes,
and `epoll_worker` of `port_controller_loopback.cpp`, which reads it.
The step has no result for an event that the kernel does not report: a read of a descriptor
that is not registered, or a read of more bytes than were asked for.
-/

import Vtb.Library.Machine
import Vtb.Library.Framing
import Vtb.Construction.Common

namespace Vtb
open Library

/-- The four bytes of a word, least significant first. -/
def wordBytes (word : Nat) : List UInt8 :=
  [UInt8.ofNat word, UInt8.ofNat (word / 256), UInt8.ofNat (word / 65536), UInt8.ofNat (word / 16777216)]

/-- The memory image of an `int` in two's complement. -/
def intBytes (value : Int) : List UInt8 := wordBytes (value % 4294967296).toNat

def intOfBytes : List UInt8 → Int
  | [first, second, third, fourth] =>
      Int.bmod (first.toNat + 256 * second.toNat + 65536 * third.toNat + 16777216 * fourth.toNat) 4294967296
  | _ => 0

/-- The values of an `int`. -/
def IsInt (value : Int) : Prop := -2147483648 ≤ value ∧ value ≤ 2147483647

instance (value : Int) : Decidable (IsInt value) := inferInstanceAs (Decidable (_ ∧ _))

/-- Each field of a packet is an `int`. -/
def PortDeviceRingState.Fits (pdrs : PortDeviceRingState) : Prop :=
  IsInt pdrs.metaCode ∧ IsInt pdrs.portId ∧ IsInt pdrs.deviceId ∧ IsInt pdrs.qid ∧ IsInt pdrs.enable

instance (pdrs : PortDeviceRingState) : Decidable pdrs.Fits := inferInstanceAs (Decidable (_ ∧ _))

abbrev Packet := { pdrs : PortDeviceRingState // pdrs.Fits }

/-- `sizeof(PortDeviceRingState)`. -/
abbrev packetSize : Nat := 20

/-- The bytes that `send_packet` writes. -/
def Packet.bytes (packet : Packet) : List UInt8 :=
  intBytes packet.val.metaCode ++ intBytes packet.val.portId ++ intBytes packet.val.deviceId ++
    intBytes packet.val.qid ++ intBytes packet.val.enable

/-- Any four bytes are an `int`. -/
theorem isInt_intOfBytes (bytes : List UInt8) : IsInt (intOfBytes bytes) := by
  unfold intOfBytes
  split
  · next first second third fourth =>
      have low := Int.le_bmod (x := first.toNat + 256 * second.toNat + 65536 * third.toNat +
        16777216 * fourth.toNat) (m := 4294967296) (by decide)
      have high := Int.bmod_lt (x := first.toNat + 256 * second.toNat + 65536 * third.toNat +
        16777216 * fourth.toNat) (m := 4294967296) (by decide)
      constructor <;> omega
  · exact ⟨by decide, by decide⟩

/-- The packet in a buffer of twenty bytes. -/
def Packet.ofBytes (bytes : List UInt8) : Packet where
  val := {
    metaCode := intOfBytes (bytes.take 4)
    portId := intOfBytes ((bytes.drop 4).take 4)
    deviceId := intOfBytes ((bytes.drop 8).take 4)
    qid := intOfBytes ((bytes.drop 12).take 4)
    enable := intOfBytes ((bytes.drop 16).take 4) }
  property := ⟨isInt_intOfBytes _, isInt_intOfBytes _, isInt_intOfBytes _, isInt_intOfBytes _,
    isInt_intOfBytes _⟩

/-- `pdrs` is the member `pdrs_`, which all connections share; `clients` are the registered descriptors. -/
structure EpollWorker where
  pdrs : Vector UInt8 packetSize
  clients : List Int

/-- What `epoll_wait` reports. An empty chunk stands for a read that returns zero or fails,
and `other` for an event without `EPOLLIN`. -/
inductive EpollEvent where
  | connected (fd : Int)
  | readable (fd : Int) (chunk : List UInt8)
  | other (fd : Int)
deriving DecidableEq

namespace EpollWorker

/-- `read` overwrites the first bytes of the buffer. -/
def fill (pdrs : Vector UInt8 packetSize) (chunk : List UInt8) : Vector UInt8 packetSize :=
  Vector.ofFn fun i : Fin packetSize => (chunk[i.val]?).getD pdrs[i]

/-- One event, and the packets that `process_notification` is called on. -/
def handle (worker : EpollWorker) : EpollEvent → Option (EpollWorker × List Packet)
  | .connected fd => some ({ worker with clients := fd :: worker.clients }, [])
  | .readable fd chunk =>
      if fd ∈ worker.clients ∧ chunk.length ≤ packetSize then
        if chunk.length = 0 then
          some ({ worker with clients := worker.clients.filter fun client => client ≠ fd }, [])
        else if chunk.length = packetSize then
          some ({ worker with pdrs := fill worker.pdrs chunk },
            [Packet.ofBytes (fill worker.pdrs chunk).toList])
        else some ({ worker with pdrs := fill worker.pdrs chunk }, [])
      else none
  | .other _ => some (worker, [])

/-- The worker consumes events and calls `process_notification`. -/
def machine : Machine EpollWorker EpollEvent Packet := ⟨handle⟩

end EpollWorker

end Vtb
