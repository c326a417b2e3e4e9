/-
This file embeds the loop of `epoll_worker` in `port_controller_loopback.cpp` with its batches of events.
The step has no result for a batch that the kernel does not report, for an `accept` of a descriptor that is
open, and for a read of more bytes than were asked for.
-/

import Vtb.Construction.EpollWorker

namespace Vtb
open Library

/-- A connection that is accepted and not closed. The serial tells the connections of one descriptor apart;
it is in the kernel only. `watched` tells whether the second `epoll_ctl` succeeded. -/
structure Connection where
  serial : Nat
  fd : Int
  watched : Bool
deriving DecidableEq

/-- What `accept` and the `epoll_ctl` after it answer. -/
inductive AcceptOutcome where
  | refused
  | accepted (fd : Int) (watched : Bool)
deriving DecidableEq

/-- One entry of `events`. The worker sees the descriptor, and the serial is the connection that the kernel means.
No bytes stand for a read that returns zero or fails. -/
inductive EpollReport where
  | listening (outcome : AcceptOutcome)
  | client (serial : Nat) (fd : Int) (epollIn : Bool) (bytes : List UInt8)
deriving DecidableEq

/-- What the worker does to the connections. A stray call names a descriptor that is not open. -/
inductive LoopEvent where
  | accepted (connection : Connection)
  | read (reported actual : Nat) (bytes : List UInt8)
  | processed (serial : Nat) (packet : Packet)
  | closed (reported actual : Nat)
  | stray (reported : Nat) (fd : Int)
deriving DecidableEq

/-- Where the worker is in its loop. -/
inductive LoopPhase where
  | testing
  | waiting
  | finished
deriving DecidableEq

/-- `accepted` counts the connections so far. -/
structure EpollLoop where
  isRunning : Bool
  phase : LoopPhase
  pdrs : Vector UInt8 packetSize
  connections : List Connection
  accepted : Nat

/-- A move of the worker, or the destructor of the controller clears `is_running_`. -/
inductive LoopInput where
  | test
  | interrupted
  | wait (batch : List EpollReport)
  | stop

namespace EpollReport

/-- What an entry is about: the listening socket or one connection. -/
def source : EpollReport → Option Nat
  | .listening _ => none
  | .client serial _ _ _ => some serial

/-- The kernel reports the connections that are watched, under the descriptors of their registration. -/
def Known (connections : List Connection) : EpollReport → Prop
  | .listening _ => True
  | .client serial fd _ _ => ⟨serial, fd, true⟩ ∈ connections

instance (connections : List Connection) : ∀ report : EpollReport, Decidable (report.Known connections)
  | .listening _ => inferInstanceAs (Decidable True)
  | .client _ _ _ _ => inferInstanceAs (Decidable (_ ∈ _))

end EpollReport

/-- `MAX_EVENTS` -/
abbrev maxEvents : Nat := 10

/-- A batch has room in `events`, and each socket has one entry at most. -/
def Reportable (connections : List Connection) (batch : List EpollReport) : Prop :=
  batch.length ≤ maxEvents ∧ (batch.map EpollReport.source).Nodup ∧ ∀ report ∈ batch, report.Known connections

instance (connections : List Connection) (batch : List EpollReport) : Decidable (Reportable connections batch) :=
  inferInstanceAs (Decidable (_ ∧ _ ∧ _))

namespace EpollLoop

/-- `launch_worker` sets `is_running_` before the thread starts. -/
def initial : EpollLoop := ⟨true, .testing, Vector.replicate packetSize 0, [], 0⟩

/-- The branch of `abstract_fd_`. -/
def acceptClient (loop : EpollLoop) : AcceptOutcome → Option (EpollLoop × List LoopEvent)
  | .refused => some (loop, [])
  | .accepted fd watched =>
      if fd ∈ loop.connections.map Connection.fd then none
      else
        let connection : Connection := ⟨loop.accepted, fd, watched⟩
        some ({ loop with connections := connection :: loop.connections, accepted := loop.accepted + 1 },
          [.accepted connection])

/-- The branch of the other descriptors; the calls go to the connection that has the descriptor now. -/
def readClient (loop : EpollLoop) (reported : Nat) (fd : Int) (bytes : List UInt8) :
    Option (EpollLoop × List LoopEvent) :=
  match loop.connections.find? fun connection => connection.fd = fd with
  | none => some (loop, [.stray reported fd])
  | some connection =>
      if bytes.length = 0 then
        some ({ loop with connections := loop.connections.filter fun other => other.fd ≠ fd },
          [.closed reported connection.serial])
      else if bytes.length ≤ packetSize then
        let pdrs := EpollWorker.fill loop.pdrs bytes
        some ({ loop with pdrs }, .read reported connection.serial bytes ::
          if bytes.length = packetSize then [.processed connection.serial (Packet.ofBytes pdrs.toList)] else [])
      else none

def handleReport (loop : EpollLoop) : EpollReport → Option (EpollLoop × List LoopEvent)
  | .listening outcome => loop.acceptClient outcome
  | .client serial fd epollIn bytes => if epollIn then loop.readClient serial fd bytes else some (loop, [])

/-- The entries of a batch are handled in their order. -/
def reports : Machine EpollLoop EpollReport LoopEvent := ⟨handleReport⟩

def handle (loop : EpollLoop) (input : LoopInput) : Option (EpollLoop × List LoopEvent) :=
  match input, loop.phase with
  | .test, .testing => some ({ loop with phase := if loop.isRunning then .waiting else .finished }, [])
  | .interrupted, .waiting => some ({ loop with phase := .testing }, [])
  | .wait batch, .waiting =>
      if Reportable loop.connections batch then
        (reports.run loop batch).map fun handled => ({ handled.1 with phase := .testing }, handled.2)
      else none
  | .stop, _ => some ({ loop with isRunning := false }, [])
  | _, _ => none

/-- The worker waits for batches and handles them until it is stopped. -/
def machine : Machine EpollLoop LoopInput LoopEvent := ⟨handle⟩

end EpollLoop

end Vtb
