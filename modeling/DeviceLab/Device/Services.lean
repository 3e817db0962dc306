import DeviceLab.Device.Upstart

/-! Keeping services out of the way of a measurement.

A stopper stops those of its services that are running, remembers which it has
stopped and in which order, and starts them again in the reverse order. -/
namespace DeviceLab.Device

/-- The services to stop, and those stopped and not yet started again, in stop order. -/
structure Stopper where
  services : List String
  stopped : List String
  deriving DecidableEq

namespace Stopper

/-- The services that disturb measurements of power. -/
def powerDraw : List String :=
  ["powerd", "update-engine", "bluetoothd"]

def of (services : List String) : Stopper :=
  ⟨services, []⟩

/-- Stops the service if it runs; says whether that succeeded. -/
def stopOne (service : String) : Talk Bool := do
  let status ← ExceptT.run (Session.output (Command.of ["status", service]).ignoringStatus)
  match status with
  | Except.ok out =>
    if Upstart.running out then
      let ended ← Session.attempt (Command.of ["stop", service])
      return ended.isOk
    else return false
  | Except.error _ => return false

/-- Stops the services one after another; gives those that were stopped. -/
def stopEach : List String → Talk (List String)
  | [] => return []
  | service :: rest => do
    let done ← stopOne service
    let others ← stopEach rest
    return if done then service :: others else others

/-- Stops every service that is running. One that does not stop is left alone. -/
def stop (s : Stopper) : Talk Stopper := do
  let more ← stopEach s.services
  return { s with stopped := s.stopped ++ more }

/-- Starts the services one after another, whatever becomes of it. -/
def startEach : List String → Talk Unit
  | [] => return
  | service :: rest => do
    let _ ← Session.attempt (Command.of ["start", service]).ignoringStatus
    startEach rest

/-- Starts what was stopped, the latest first. -/
def restore (s : Stopper) : Talk Stopper := do
  startEach s.stopped.reverse
  return { s with stopped := [] }

end Stopper
end DeviceLab.Device
