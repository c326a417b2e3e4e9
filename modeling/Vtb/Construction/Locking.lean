/-
This file embeds which mutexes the functions of the program acquire and release, in their order.
A message takes the mutex of the logger inside the destructor of its `LogStream`, also under another guard.
The calls that hold no other mutex appear as their messages.
-/

import Vtb.Library.LockOrder
import Vtb.Construction.Logger

namespace Vtb
open Library

/-- `db_mutex_`, `pmap_mutex_`, `notify_mutex_` and the mutex of the logger. -/
inductive Mutex where
  | db
  | pmap
  | notify
  | log
deriving DecidableEq

abbrev LockScript := List (LockAction Mutex)

namespace Locking

/-- The destructor of a `LogStream` and then `log` test the level before the mutex is taken. -/
def logStream (level msgLevel : LogLevel) : LockScript :=
  if msgLevel.value ≤ level.value ∧ level.shows msgLevel then guarded .log [] else []

def info (level : LogLevel) : LockScript := logStream level .default

def error (level : LogLevel) : LockScript := logStream level .default

def details (level : LogLevel) : LockScript := logStream level .full

def setValue : LockScript := guarded .db []

def getValue : LockScript := guarded .db []

/-- The title and one line for each entry are logged under `db_mutex_`. -/
def dumpConfig (level : LogLevel) (entries : Nat) : LockScript :=
  guarded .db (info level ++ (List.replicate entries (info level)).flatten)

def initVhostDevice : LockScript := guarded .pmap []

def setQueueState : LockScript := guarded .pmap []

def assignPortDataSocket : LockScript := guarded .pmap []

def assignPortControlSocket : LockScript := guarded .pmap []

def getVhostQids : LockScript := guarded .pmap []

def isQueueReady : LockScript := guarded .pmap []

/-- The header, a rule, and for each port its rows and a rule are logged under `pmap_mutex_`. -/
def printPortmap (level : LogLevel) (ports : List Nat) : LockScript :=
  guarded .pmap (info level ++ info level ++
    (ports.map fun rows => (List.replicate rows (info level)).flatten ++ info level).flatten)

def clearDevice (level : LogLevel) (found : Bool) : LockScript :=
  guarded .pmap (if found then details level else error level)

/-- `send_packet` logs a partial write under `notify_mutex_`. -/
def notifyPortController (level : LogLevel) (partialWrite : Bool) : LockScript :=
  guarded .notify (if partialWrite then info level else [])

def onNewDevice (level : LogLevel) (first second : Bool) : LockScript :=
  info level ++ details level ++ initVhostDevice ++ setQueueState ++ setQueueState ++
    notifyPortController level first ++ notifyPortController level second

def onDestroyDevice (level : LogLevel) (partialWrite found : Bool) : LockScript :=
  info level ++ notifyPortController level partialWrite ++ clearDevice level found

def onVringStateChanged (level : LogLevel) (queueId : UInt16) (partialWrite : Bool) : LockScript :=
  details level ++ setQueueState ++ if queueId ≥ 2 then notifyPortController level partialWrite else []

/-- One pass of the loop of `flush_loop`; each wait of `wait_for` releases the mutex and acquires it again. -/
def flushPass (waits : Nat) : LockScript :=
  .acquire .log :: (List.replicate waits [.release .log, .acquire .log]).flatten ++ [.release .log] ++
    guarded .log []

def finalDrain : LockScript := guarded .log []

/-- The handler of SIGINT and SIGTERM. -/
def signalHandler (level : LogLevel) : LockScript := info level

end Locking

/-- What a thread calls. The arguments are what the script of the call depends on. -/
inductive LockingCall where
  | info
  | error
  | details
  | setValue
  | getValue
  | dumpConfig (entries : Nat)
  | initVhostDevice
  | setQueueState
  | assignPortDataSocket
  | assignPortControlSocket
  | getVhostQids
  | isQueueReady
  | printPortmap (ports : List Nat)
  | clearDevice (found : Bool)
  | onNewDevice (first second : Bool)
  | onDestroyDevice (partialWrite found : Bool)
  | onVringStateChanged (queueId : UInt16) (partialWrite : Bool)
  | flushPass (waits : Nat)
  | finalDrain

namespace Locking

def script (level : LogLevel) : LockingCall → LockScript
  | .info => info level
  | .error => error level
  | .details => details level
  | .setValue => setValue
  | .getValue => getValue
  | .dumpConfig entries => dumpConfig level entries
  | .initVhostDevice => initVhostDevice
  | .setQueueState => setQueueState
  | .assignPortDataSocket => assignPortDataSocket
  | .assignPortControlSocket => assignPortControlSocket
  | .getVhostQids => getVhostQids
  | .isQueueReady => isQueueReady
  | .printPortmap ports => printPortmap level ports
  | .clearDevice found => clearDevice level found
  | .onNewDevice first second => onNewDevice level first second
  | .onDestroyDevice partialWrite found => onDestroyDevice level partialWrite found
  | .onVringStateChanged queueId partialWrite => onVringStateChanged level queueId partialWrite
  | .flushPass waits => flushPass waits
  | .finalDrain => finalDrain

/-- The calls of a thread one after the other. -/
def program (level : LogLevel) (calls : List LockingCall) : LockScript := (calls.map (script level)).flatten

/-- The script of a thread whose calls are interrupted by signals, each outside the mutex of the logger. -/
inductive Interrupted (level : LogLevel) : LockScript → Prop where
  | calls (calls : List LockingCall) : Interrupted level (program level calls)
  | signal {before after : LockScript} (running : Interrupted level (before ++ after))
      (outside : Mutex.log ∉ holding [] before) : Interrupted level (before ++ (signalHandler level ++ after))

end Locking

end Vtb
