import RemoteCall.Settings.Basic
import RemoteCall.Error

/-!
# The poll manager

A poll manager runs the tasks of clients and servers. Once it is shut down its tasks are gone, and
nothing new can be run on it.
-/

namespace RemoteCall

/-- A poll manager. -/
structure PollManager where
  settings : PollSettings
  isShutDown : Bool
  deriving DecidableEq, Repr

namespace PollManager

/-- Start a poll manager with usable settings. -/
def start (settings : PollSettings) : Except Error PollManager :=
  match settings.validate with
  | .ok () => .ok ⟨settings, false⟩
  | .error e => .error e

/-- The poll manager with default settings. -/
def default : PollManager := ⟨{}, false⟩

instance : Inhabited PollManager := ⟨default⟩

/-- Shut a poll manager down. -/
def shutDown (manager : PollManager) : PollManager := { manager with isShutDown := true }

/-- Whether something can be run on the manager. -/
def check (manager : PollManager) : Except Error Unit :=
  if manager.isShutDown then .error (.config .pollShutDown) else .ok ()

end PollManager

end RemoteCall
