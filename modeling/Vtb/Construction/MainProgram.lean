/-
This file embeds the life of the process: `main`, `keep_alive`, `signal_handler` and `my_graceful_exit` of
`vtb.cpp`, with `disable_echoctl` and `restore_echoctl` of `common.cpp`. `main` goes from point to point, and the
answers of the kernel and of DPDK come with its step. The setup of the logger and of the terminate handler touches
nothing of this state and is part of the step behind it. Signals come between the steps. The epoll worker catches
the exceptions of its handlers, so only `main` can leave one uncaught.
-/

import Vtb.Construction.Main
import Vtb.Construction.Messenger
import Vtb.Construction.VhostLifecycle

namespace Vtb
open Library

/-- The settings of a terminal. -/
structure Termios where
  cIflag : UInt32
  cOflag : UInt32
  cCflag : UInt32
  cLflag : UInt32
deriving DecidableEq

def echoctl : UInt32 := 0o1000

/-- The terminal shows no `^C` any more. -/
def Termios.hideControl (settings : Termios) : Termios :=
  { settings with cLflag := settings.cLflag &&& ~~~ echoctl }

/-- What `main` has done last. -/
inductive MainPoint where
  | entered
  | echoDisabled
  | interruptHandled
  | signalsHandled
  | configured
  | controllerCreated
  | controllerStarted
  | backendConstructed
  | backendInitialised
  | backendStarted
  | launched
  | waited
  | controllerReset
  | echoRestored
deriving DecidableEq

/-- How the process ends; the default action of a signal kills it. -/
inductive MainEnding where
  | returned (code : Int)
  | exited (code : Int)
  | killed
deriving DecidableEq

/-- `terminal` is the terminal on the standard input, if there is one. `backend` is the address of the
`VhostController`, and `lcoreRunning` says that `keep_alive` runs. -/
structure MainProgram where
  point : MainPoint
  ending : Option MainEnding
  terminal : Option Termios
  oldT : Termios
  stopBlocking : Bool
  config : ConfigManager
  portController : Option ControllerKind
  vhost : VhostProcess
  backend : Option Nat
  lcoreRunning : Bool

/-- A step of `main` with its answer, a pass of `keep_alive`, or a signal. -/
inductive MainEvent where
  | proceed
  | startController (threadCreated : Bool)
  | constructBackend (clientFd : Int)
  | initBackend (granted : Bool)
  | startBackend (answers : DriverAnswers)
  | remoteLaunch (accepted : Bool)
  | keepAlive
  | signal (interrupt : Bool)
deriving DecidableEq

inductive MainEffect where
  | said (stream : LogStream)
  | controllerStarted (kind : ControllerKind)
  | controllerDestroyed
  | vhost (effect : VhostEffect)
deriving DecidableEq

/-- The handlers of SIGINT and SIGTERM are installed one after the other. -/
def MainPoint.handles (point : MainPoint) (interrupt : Bool) : Bool :=
  match point with
  | .entered => false
  | .echoDisabled => false
  | .interruptHandled => interrupt
  | _ => true

def VhostEffect.isThrow : VhostEffect → Bool
  | .threw _ => true
  | _ => false

namespace MainProgram

/-- The globals of a new process; `old_t` is zero. -/
def start (terminal : Option Termios) : MainProgram where
  point := .entered
  ending := none
  terminal := terminal
  oldT := ⟨0, 0, 0, 0⟩
  stopBlocking := false
  config := ConfigManager.getInstance
  portController := none
  vhost := VhostProcess.initial
  backend := none
  lcoreRunning := false

/-- Both calls fail when the standard input is no terminal. -/
def disableEchoctl (program : MainProgram) : MainProgram :=
  match program.terminal with
  | none => program
  | some settings => { program with oldT := settings, terminal := some settings.hideControl }

def restoreEchoctl (program : MainProgram) : MainProgram :=
  match program.terminal with
  | none => program
  | some _ => { program with terminal := some program.oldT }

def fatalError : LogStream := .error "A fatal error occurred. Shutting down gracefully..."

/-- `std::exit` destroys no automatic variable of `main`. -/
def myGracefulExit (program : MainProgram) : MainProgram × List MainEffect :=
  ({ program with ending := some (.exited 1) }, [.said fatalError])

/-- An exception of a call of the backend is not caught, so it leaves `main`. -/
def backendCalled (program : MainProgram) (called : VhostProcess × List VhostEffect) (next : MainPoint) :
    MainProgram × List MainEffect :=
  if called.2.any VhostEffect.isThrow then
    let ended := myGracefulExit { program with vhost := called.1 }
    (ended.1, called.2.map .vhost ++ ended.2)
  else ({ program with vhost := called.1, point := next }, called.2.map .vhost)

/-- The object that `backend` is in `main`. -/
def backendObject (program : MainProgram) : Option VhostObject := program.backend.bind program.vhost.lookup

/-- The statements of `main` that need no answer. `rte_eal_mp_wait_lcore` waits for `keep_alive`, and the return
destroys the backend. -/
def proceed (argv : List String) (program : MainProgram) : Option (MainProgram × List MainEffect) :=
  match program.point with
  | .entered => some ({ program.disableEchoctl with point := .echoDisabled }, [])
  | .echoDisabled => some ({ program with point := .interruptHandled }, [])
  | .interruptHandled => some ({ program with point := .signalsHandled }, [])
  | .signalsHandled =>
      let called := program.config.init argv
      if called.1 then some ({ program with config := called.2, point := .configured }, [])
      else
        some ({ program with config := called.2, ending := some (.returned (-1)) },
          [.said (.error "Config.Init failed")])
  | .configured =>
      some ({ program with
        portController := createController (program.config.getArg "-m"), point := .controllerCreated }, [])
  | .launched => if program.lcoreRunning then none else some ({ program with point := .waited }, [])
  | .waited =>
      some ({ program with portController := none, point := .controllerReset }, [.controllerDestroyed])
  | .controllerReset => some ({ program.restoreEchoctl with point := .echoRestored }, [])
  | .echoRestored =>
      program.backendObject.map fun object =>
        let called := program.vhost.destroy object
        ({ program with vhost := called.1, backend := none, ending := some (.returned 0) },
          .said (.info "Test Done. Starting cleanup...") :: called.2.map .vhost)
  | .controllerCreated => none
  | .controllerStarted => none
  | .backendConstructed => none
  | .backendInitialised => none
  | .backendStarted => none

/-- `start` is not defined on the null pointer, and it throws when its worker thread cannot be created. -/
def startController (program : MainProgram) (threadCreated : Bool) : Option (MainProgram × List MainEffect) :=
  program.portController.map fun kind =>
    if threadCreated then ({ program with point := .controllerStarted }, [.controllerStarted kind])
    else program.myGracefulExit

/-- The step of a process that has not ended. -/
def operate (argv : List String) (program : MainProgram) : MainEvent → Option (MainProgram × List MainEffect)
  | .proceed => program.proceed argv
  | .startController threadCreated =>
      if program.point = .controllerCreated then program.startController threadCreated else none
  | .constructBackend clientFd =>
      if program.point = .controllerStarted then
        some ({ program with backend := some program.vhost.nextAddress }.backendCalled
          (program.vhost.construct program.config (program.config.getArg "-vsn") clientFd) .backendConstructed)
      else none
  | .initBackend granted =>
      if program.point = .backendConstructed then
        program.backendObject.map fun object =>
          program.backendCalled (program.vhost.init object granted) .backendInitialised
      else none
  | .startBackend answers =>
      if program.point = .backendInitialised then
        program.backendObject.map fun object =>
          program.backendCalled (program.vhost.start object answers) .backendStarted
      else none
  | .remoteLaunch accepted =>
      if program.point = .backendStarted then
        some ({ program with lcoreRunning := accepted, point := .launched }, [])
      else none
  | .keepAlive =>
      if program.lcoreRunning then some ({ program with lcoreRunning := !program.stopBlocking }, []) else none
  | .signal interrupt =>
      if program.point.handles interrupt then
        some ({ program with stopBlocking := true }, [.said (.info "<User Pressed Ctrl+C>")])
      else some ({ program with ending := some .killed }, [])

/-- Nothing happens behind the end of the process. -/
def step (argv : List String) (program : MainProgram) (event : MainEvent) :
    Option (MainProgram × List MainEffect) :=
  if program.ending = none then program.operate argv event else none

/-- The process in any order of its steps and the signals. -/
def machine (argv : List String) : Machine MainProgram MainEvent MainEffect := ⟨step argv⟩

end MainProgram

end Vtb
