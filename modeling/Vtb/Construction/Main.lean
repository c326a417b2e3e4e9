/-
This file embeds `create_controller` of `common.cpp` and the start of `main` in `vtb.cpp`.
-/

import Vtb.Construction.ConfigManager
import Vtb.Construction.PortHandler

namespace Vtb

/-- The classes of port controllers. -/
inductive ControllerKind where
  | loopback
  | back2Back
  | emulator
deriving DecidableEq

/-- An unknown mode gives the null pointer. -/
def createController (mode : String) : Option ControllerKind :=
  if mode = "Loopback" then some .loopback
  else if mode = "Back2Back" then some .back2Back
  else if mode = "Emulator" then some .emulator
  else none

/-- How far `main` comes. -/
inductive StartUp where
  | initFailed
  | started (controller : ControllerKind)
deriving DecidableEq

/-- The configuration of a new process. -/
def ConfigManager.getInstance : ConfigManager := initial arguments

/-- `main` up to `port_controller->start()`, which is not defined on the null pointer. -/
def startUp (argv : List String) : Option StartUp :=
  if (ConfigManager.getInstance.init argv).1 then
    (createController ((ConfigManager.getInstance.init argv).2.getArg "-m")).map .started
  else some .initFailed

/-- The configuration that `start` of a handler reads. -/
def ConfigManager.handlerSettings (config : ConfigManager) : HandlerSettings :=
  ⟨config.getArg "--mode", config.getArgInt "--mode-threads"⟩

end Vtb
