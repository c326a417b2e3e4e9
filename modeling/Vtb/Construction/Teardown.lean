/-
This file embeds `launch_worker` and the destructor of `port_controller.cpp`, the destructor and
`epoll_worker` of `port_controller_loopback.cpp`, and the destructors of `port_handler.cpp` and
`port_handler_loopback.cpp`.
Each destructor stage and each action of a thread is one step.
The memory of a destroyed object keeps its last values, so that a late step of a worker is still a step.
-/

import Vtb.Construction.WorkerThreads

namespace Vtb
open Library

/-- The epoll worker is at the test of its loop, or inside the loop. -/
inductive EpollPhase where
  | testing
  | handling
  | exited
deriving DecidableEq

/-- The stages of the destructors of the controller and of its handlers. -/
inductive DestructorStage where
  | closeFd
  | clearRunning
  | joinWorker
  | freeObjects (handler : Nat)
  | stopHandler (handler : Nat)
  | joinThreads (handler : Nat)
deriving DecidableEq

/-- `~PortHandlerLoopback` runs before `~PortHandler`. -/
def handlerStages (handler : Nat) : List DestructorStage :=
  [.freeObjects handler, .stopHandler handler, .joinThreads handler]

/-- `~PortControllerLoopback`, `~PortController`, and then its array of handlers from the last to the first. -/
def destructorStages : List DestructorStage :=
  [.closeFd, .clearRunning, .joinWorker] ++ (List.range 8).reverse.flatMap handlerStages

/-- The controller, its epoll worker, its thread objects, and the stages of destruction that remain. -/
structure ControllerLife where
  system : ControllerThreads
  isRunning : Bool
  epoll : Option EpollPhase
  worker : ThreadObject
  handlerThread : WorkerTag → ThreadObject
  remaining : List DestructorStage

/-- What the program does with the controller, and what the threads do.
An event of the epoll worker without a notification is a connection, or a read that is no packet. -/
inductive LifeEvent where
  | start
  | epollTest
  | epollEvent (notification : Option Notification)
  | epollNext
  | move (index : Nat) (move : ThreadMove)
  | destruct
deriving DecidableEq

namespace ControllerLife

def initial : ControllerLife :=
  ⟨ControllerThreads.initial, false, none, .empty, fun _ => .empty, destructorStages⟩

/-- Each launched thread is detached from the thread object of its role. -/
def detachLaunched (objects : WorkerTag → ThreadObject) (first : Nat) (tags : List WorkerTag) :
    WorkerTag → ThreadObject :=
  (tags.zipIdx first).foldl
    (fun objects tagged => Function.update objects tagged.1 (ThreadObject.construct tagged.2).detach) objects

/-- `launch_worker` checks `is_running_` and detaches the thread. -/
def launchWorker (life : ControllerLife) : ControllerLife :=
  if life.isRunning then life
  else { life with
    isRunning := true
    epoll := some .testing
    worker := (ThreadObject.construct 0).detach }

def epollExited (life : ControllerLife) : Bool := life.epoll == some .exited

def threadExited (life : ControllerLife) (index : Nat) : Bool :=
  (life.system.threads[index]?).map Thread.phase == some .exited

/-- One handler changes in its place. -/
def updateHandler (life : ControllerLife) (handler : Nat) (change : StartState → StartState) :
    Option ControllerLife :=
  (readCell life.system.controller.portHandler handler).bind fun found =>
    (writeCell life.system.controller.portHandler handler
      (change ⟨found, life.system.controller.dpdk⟩).handler).map fun portHandler =>
        { life with system := { life.system with controller := { life.system.controller with
          portHandler
          dpdk := (change ⟨found, life.system.controller.dpdk⟩).dpdk } } }

/-- A stage of a destructor. It has no result while it waits in a join.
The listening descriptor is not part of the state. -/
def perform (life : ControllerLife) : DestructorStage → Option ControllerLife
  | .closeFd => some life
  | .clearRunning => some { life with isRunning := false }
  | .joinWorker =>
      if life.worker.joinable then
        if life.worker.joined fun _ => life.epollExited then some life else none
      else some life
  | .freeObjects handler => life.updateHandler handler fun state => (PortHandlerLoopback.destroy state).1
  | .stopHandler handler => life.updateHandler handler fun state => { state with handler := state.handler.stop }
  | .joinThreads handler =>
      if [Worker.tx, .rx, .txRx].all fun worker =>
        let object := life.handlerThread ⟨handler, worker⟩
        if object.joinable then object.joined life.threadExited else true
      then some life else none

/-- `start` is called on a live controller only. -/
def step (settings : HandlerSettings) (life : ControllerLife) :
    LifeEvent → Option (ControllerLife × List HandlerCall)
  | .start => if life.remaining = destructorStages then some (life.launchWorker, []) else none
  | .epollTest =>
      if life.epoll = some .testing then
        some ({ life with epoll := some (if life.isRunning then .handling else .exited) }, [])
      else none
  | .epollEvent none => if life.epoll = some .handling then some (life, []) else none
  | .epollEvent (some notification) =>
      if life.epoll = some .handling then
        (ControllerThreads.step settings life.system (.notify notification)).map fun result =>
          ({ life with
            system := result.1
            handlerThread := detachLaunched life.handlerThread life.system.threads.length
              (result.2.flatMap HandlerCall.launched) }, result.2)
      else none
  | .epollNext => if life.epoll = some .handling then some ({ life with epoll := some .testing }, []) else none
  | .move index move =>
      (ControllerThreads.step settings life.system (.move index move)).map fun result =>
        ({ life with system := result.1 }, result.2)
  | .destruct =>
      match life.remaining with
      | [] => none
      | stage :: rest => (life.perform stage).map fun next => ({ next with remaining := rest }, [])

/-- The program, the destructors and the threads interleave in any order. -/
def machine (settings : HandlerSettings) : Machine ControllerLife LifeEvent HandlerCall := ⟨step settings⟩

end ControllerLife

end Vtb
