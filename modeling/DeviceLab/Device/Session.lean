import DeviceLab.Command
import DeviceLab.Dialogue
import DeviceLab.Text.Blank

/-! Sessions with a device under test.

Whatever touches a device is a session: it runs commands, looks at the clock, at
the battery and at what is installed, and takes notes. Nothing here says where
the replies come from, so one session serves a local machine, a device far away
and a script. A procedure is made of sessions, and may panic as well. -/
namespace DeviceLab.Device

/-- What a session may ask. -/
inductive Request where
  /-- Run a command to its end. -/
  | run (command : Command)
  /-- The time on a clock that never goes back, in nanoseconds. -/
  | now
  | pause (span : Nat)
  /-- Is a definition of the service installed? -/
  | jobInstalled (service : String)
  /-- Is there an embedded controller? -/
  | controllerPresent
  /-- Look for the battery for the first time. -/
  | openBattery
  /-- Look at the battery again. -/
  | refreshBattery
  | batteryPresent
  | batteryDischarging
  /-- Note pairs of a key and a value with the results. -/
  | record (pairs : List (String × String))

/-- What the requests are answered with. -/
def Request.Reply : Request → Type
  | .run _ => Except Failure Output
  | .now => Nat
  | .pause _ => Unit
  | .jobInstalled _ | .controllerPresent | .batteryPresent | .batteryDischarging => Bool
  | .openBattery | .refreshBattery | .record _ => Except Failure Unit

/-- A conversation with the device that cannot fail. -/
abbrev Talk := Dialogue Request Request.Reply

/-- A conversation with the device that may end in a failure. -/
abbrev Session := ExceptT Failure Talk

namespace Session

/-- Runs a command and sees how it ends. -/
def attempt (c : Command) : Talk (Except Failure Output) :=
  .question (Request.run c)

def run (c : Command) : Session Output :=
  ExceptT.mk (attempt c)

/-- What the command writes, without blanks around it. -/
def output (c : Command) : Session String := do
  return Text.trim (← run c).out

/-- Runs the command for its effect only. -/
def system (c : Command) : Session Unit := do
  let _ ← run c

def now : Talk Nat :=
  .question Request.now

def pause (span : Nat) : Talk Unit :=
  .question (Request.pause span)

end Session
end DeviceLab.Device

/-! ### Procedures -/

namespace DeviceLab

/-- What is done with a device, and may also end in a panic. -/
abbrev Procedure := ExceptT Abort Device.Talk

namespace Procedure

/-- A session as a part of a procedure. -/
def session {α : Type} (s : Device.Session α) : Procedure α :=
  ExceptT.mk do return (← ExceptT.run s).mapError .failed

/-- A value that may be missing as a part of a procedure. -/
def need {α : Type} : Except Failure α → Procedure α
  | .ok a => pure a
  | .error f => throw (.failed f)

def fail {α : Type} (f : Failure) : Procedure α :=
  throw (.failed f)

/-- Notes pairs with the results. -/
def record (pairs : List (String × String)) : Procedure Unit :=
  session (ExceptT.mk (.question (Device.Request.record pairs)))

end Procedure
end DeviceLab
