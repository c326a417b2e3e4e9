/-
This file embeds `logger.h` and `logger.cpp` as an interleaving of the threads that call `log`,
the flush thread, and the thread that runs `init` and `~Logger`.
Each critical section of `mutex_` is one step, and so is each write of the flush thread.
The step has no result where a thread cannot take it, and after `~Logger` has returned.
-/

import Vtb.Library.Machine

namespace Vtb
open Library

inductive LogLevel where
  | error
  | default
  | full
deriving DecidableEq

def LogLevel.value : LogLevel → Nat
  | .error => 0
  | .default => 1
  | .full => 2

/-- The test of `log`. -/
def LogLevel.shows (level msgLevel : LogLevel) : Bool :=
  msgLevel.value ≤ level.value || msgLevel == .error

/-- The next step of the flush thread, with the text that it holds. -/
inductive FlushStep where
  | notStarted
  | testing
  | waiting
  | taking
  | writing (text : String)
  | copying (text : String)
  | draining
  | finalWriting (text : String)
  | finalCopying (text : String)
  | finished
deriving DecidableEq

/-- The next step of a call of `log`; a leaving call knows the message that it has appended. -/
inductive CallStep where
  | idle
  | appending (message : String)
  | leaving (accepted : Option String)
deriving DecidableEq

/-- The progress of `~Logger`. -/
inductive Lifetime where
  | alive
  | joining
  | returned
deriving DecidableEq

/-- `stdout` is the text that the logger wrote, and `file` the whole text of the open file, if there is one. -/
structure Logger (Thread : Type*) where
  level : LogLevel
  initialized : Bool
  running : Bool
  buffer : String
  stdout : String
  file : Option String
  flusher : FlushStep
  callers : Thread → CallStep
  lifetime : Lifetime

/-- One step of one thread; `contents` is the text of the file before, and absent when it cannot be opened. -/
inductive LoggerAction (Thread : Type*) where
  | init (filename : String) (contents : Option String) (level : LogLevel)
  | enter (thread : Thread) (msgLevel : LogLevel) (message : String)
  | append (thread : Thread)
  | leave (thread : Thread)
  | flush
  | destroy
  | join

/-- A message is appended to the buffer, and later its call of `log` returns. -/
inductive LogEvent (Thread : Type*) where
  | appended (thread : Thread) (message : String)
  | returned (thread : Thread) (message : String)

namespace Logger
variable {Thread : Type*}

def create : Logger Thread where
  level := .default
  initialized := false
  running := false
  buffer := ""
  stdout := ""
  file := none
  flusher := .notStarted
  callers := fun _ => .idle
  lifetime := .alive

/-- Only the first `init` has an effect. It opens the file with `std::ios::app`, which keeps its text. -/
def init (filename : String) (contents : Option String) (level : LogLevel) (logger : Logger Thread) :
    Logger Thread :=
  if logger.initialized then logger
  else { logger with
    initialized := true
    level := level
    file := if filename ≠ "" then contents else none
    running := true
    flusher := .testing }

/-- The loop of `flush_loop` and its final drain, which copies the buffer and does not clear it. -/
def flushLoop (logger : Logger Thread) : Option (Logger Thread) :=
  match logger.flusher with
  | .notStarted => none
  | .testing => some { logger with flusher := if logger.running then .waiting else .draining }
  | .waiting => some { logger with flusher := .taking }
  | .taking => some { logger with
      buffer := ""
      flusher := if logger.buffer = "" then .testing else .writing logger.buffer }
  | .writing text => some { logger with stdout := logger.stdout ++ text, flusher := .copying text }
  | .copying text => some { logger with file := logger.file.map (· ++ text), flusher := .testing }
  | .draining => some { logger with
      flusher := if logger.buffer = "" then .finished else .finalWriting logger.buffer }
  | .finalWriting text =>
      some { logger with stdout := logger.stdout ++ text, flusher := .finalCopying text }
  | .finalCopying text => some { logger with file := logger.file.map (· ++ text), flusher := .finished }
  | .finished => none

variable [DecidableEq Thread]

def setCaller (logger : Logger Thread) (thread : Thread) (step : CallStep) : Logger Thread :=
  { logger with callers := Function.update logger.callers thread step }

/-- A call of `log` tests the level before it takes the lock. -/
def enter (thread : Thread) (msgLevel : LogLevel) (message : String) (logger : Logger Thread) :
    Option (Logger Thread) :=
  match logger.callers thread with
  | .idle => some (logger.setCaller thread
      (if logger.level.shows msgLevel then .appending message else .leaving none))
  | _ => none

/-- The critical section of `log`. -/
def append (thread : Thread) (logger : Logger Thread) : Option (Logger Thread × List (LogEvent Thread)) :=
  match logger.callers thread with
  | .appending message =>
      some ({ logger with buffer := logger.buffer ++ (message ++ "\n") }.setCaller thread
        (.leaving (some message)), [.appended thread message])
  | _ => none

def leave (thread : Thread) (logger : Logger Thread) : Option (Logger Thread × List (LogEvent Thread)) :=
  match logger.callers thread with
  | .leaving accepted => some (logger.setCaller thread .idle, accepted.toList.map (.returned thread))
  | _ => none

/-- `~Logger` clears `running_` and waits for a started flush thread. -/
def destroy (logger : Logger Thread) : Option (Logger Thread) :=
  if logger.lifetime = .alive then some { logger with running := false, lifetime := .joining } else none

def join (logger : Logger Thread) : Option (Logger Thread) :=
  if logger.lifetime = .joining ∧ (logger.flusher = .finished ∨ logger.flusher = .notStarted) then
    some { logger with lifetime := .returned }
  else none

def handle (logger : Logger Thread) (action : LoggerAction Thread) :
    Option (Logger Thread × List (LogEvent Thread)) :=
  if logger.lifetime = .returned then none
  else match action with
    | .init filename contents level => some (logger.init filename contents level, [])
    | .enter thread msgLevel message => (logger.enter thread msgLevel message).map fun next => (next, [])
    | .append thread => logger.append thread
    | .leave thread => logger.leave thread
    | .flush => logger.flushLoop.map fun next => (next, [])
    | .destroy => logger.destroy.map fun next => (next, [])
    | .join => logger.join.map fun next => (next, [])

/-- The threads take their steps in any order. -/
def machine : Machine (Logger Thread) (LoggerAction Thread) (LogEvent Thread) := ⟨handle⟩

end Logger

end Vtb
