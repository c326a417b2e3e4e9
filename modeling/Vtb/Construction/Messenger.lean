/-
This file embeds `messenger.h` and `messenger.cpp` over the logger: a thread writes a stream of its own,
and the destructor of the stream logs it. The threads log through streams only.
-/

import Vtb.Construction.Logger
import Vtb.Library.Text

namespace Vtb
open Library

/-- `tag` is the member `prefix_`, and `text` is what was written into the stream. -/
structure LogStream where
  level : LogLevel
  tag : String
  text : String
deriving DecidableEq

namespace LogStream

def info (text : String) : LogStream := ⟨.default, "[INFO] ", text⟩

def error (text : String) : LogStream := ⟨.default, "[ERROR] ", text⟩

def details (text : String) : LogStream := ⟨.full, "[DETAILS] ", text⟩

def message (stream : LogStream) : String := stream.tag ++ stream.text

/-- The test of the destructor. -/
def passes (stream : LogStream) (level : LogLevel) : Bool := stream.level.value ≤ level.value

end LogStream

/-- A destructor begins, or another step of the logger happens. -/
inductive MessengerAction (Thread : Type*) where
  | finish (thread : Thread) (stream : LogStream)
  | logger (action : LoggerAction Thread)

namespace Logger
variable {Thread : Type*} [DecidableEq Thread]

/-- A stream of a level that is not shown ends silently. -/
def finish (logger : Logger Thread) (thread : Thread) (stream : LogStream) :
    Option (Logger Thread × List (LogEvent Thread)) :=
  if stream.passes logger.level then logger.handle (.enter thread stream.level stream.message)
  else if logger.lifetime ≠ .returned ∧ logger.callers thread = .idle then some (logger, [])
  else none

def messengerStep (logger : Logger Thread) :
    MessengerAction Thread → Option (Logger Thread × List (LogEvent Thread))
  | .finish thread stream => logger.finish thread stream
  | .logger (.enter _ _ _) => none
  | .logger action => logger.handle action

/-- The threads, their streams and the flush thread take their steps in any order. -/
def messenger : Machine (Logger Thread) (MessengerAction Thread) (LogEvent Thread) := ⟨messengerStep⟩

end Logger

/-- A line of the log is a message of one of the three streams. -/
def LogStream.read (line : List Char) : Option LogStream :=
  if "[INFO] ".toList.isPrefixOf line then some (.info (String.ofList (line.drop 7)))
  else if "[ERROR] ".toList.isPrefixOf line then some (.error (String.ofList (line.drop 8)))
  else if "[DETAILS] ".toList.isPrefixOf line then some (.details (String.ofList (line.drop 10)))
  else none

/-- A log is read line by line. -/
def readLog (text : String) : Option (List LogStream) :=
  (cutLines '\n' text.toList).bind fun lines => lines.mapM LogStream.read

end Vtb
