import DeviceLab.Decimal.Reading
import DeviceLab.Device.Poll
import DeviceLab.Text.Cut

/-! System services under upstart.

A service is running when its status says `start/running`. While it is still
being started the status names a stage of the start instead, and no answer is
given before the service has settled. -/
namespace DeviceLab.Device.Upstart

/-- Where definitions of services are installed. -/
def defaultInitDir : String := "/etc/init"

/-- The file that defines the service. -/
def jobFile (service : String) : String :=
  service ++ ".conf"

def running (status : String) : Bool :=
  Text.contains "start/running" status

/-- Is the service in the middle of a start? -/
def starting (status : String) : Bool :=
  Text.contains "start/pre-start" status || Text.contains "start/post-start" status

/-- Up to ten seconds, looking once a second. -/
def usualSettle : Poll :=
  ⟨10 * Seconds.second, Seconds.second, none, none⟩

def status (service : String) : Session String :=
  Session.output (Command.of ["status", service])

def emit (event : String) : Session Unit :=
  Session.system (Command.of ["initctl", "emit", event])

/-- Fails unless the service is running. -/
def ensureRunning (service : String) : Session Unit := do
  let out ← Session.output (Command.of ["initctl", "status", service])
  if running out then return
  throw (.fail (service ++ " is not running: " ++ out))

def hasService (service : String) : Session Bool :=
  ExceptT.lift (.question (Request.jobInstalled service))

/-- Is the service running, once it has settled? -/
def isRunning (settle : Poll) (service : String) : Procedure Bool := do
  let settle := { settle with desc := some (service ++ " to finish starting") }
  settle.wait do return !starting (← status service)
  Procedure.session do return running (← status service)

/-- The digits behind the first `process` that has any. -/
def processDigits : List Char → Option (List Char)
  | [] => none
  | c :: cs =>
    match Text.afterStart "process ".toList (c :: cs) with
    | none => processDigits cs
    | some rest =>
      match rest.takeWhile Reading.isDigit with
      | [] => processDigits cs
      | digits => some digits

/-- The process a status names. -/
def processOf (status : String) : Option Nat :=
  ((processDigits status.toList).bind Reading.digits?).filter (· ≤ Reading.maxWord32)

/-- The main process of the service, if it has one. -/
def pid (service : String) : Session (Option Nat) := do
  return processOf (← status service)

/-- Restarts a service that is running and starts any other. -/
def restart (settle : Poll) (service : String) (timeout : Option Nat) : Procedure Unit := do
  let verb := if ← isRunning settle service then "restart" else "start"
  let _ ← Procedure.session (Session.output { Command.of [verb, service] with timeout })

def stop (service : String) (timeout : Option Nat) : Session Unit :=
  Session.system { Command.of ["stop", service] with timeout }

end DeviceLab.Device.Upstart
