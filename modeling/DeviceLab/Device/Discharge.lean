import DeviceLab.Device.Session

/-! Discharging a battery on purpose.

Power is measured on a battery that discharges while the charger stays plugged
in: the embedded controller is asked not to charge, and afterwards to charge
again. The controller may need a few tries. -/
namespace DeviceLab.Device.Discharge

/-- Whether to force a discharge, and whether it is an error if that is impossible. -/
inductive Setting where
  | off
  | required
  | wished
  deriving DecidableEq

namespace Setting

/-- The setting by its name, in any letter case. -/
def of (s : String) : Except Failure Setting :=
  let name := String.ofList (s.toList.map Char.toLower)
  if name == "false" then .ok .off
  else if name == "true" then .ok .required
  else if name == "optional" then .ok .wished
  else
    .error (.error ("Force discharge setting '" ++ s ++
      "' need to be one of ['false', 'true', 'optional']."))

def name : Setting → String
  | .off => "false"
  | .required => "true"
  | .wished => "optional"

end Setting

def tries : Nat := 3

/-- How often the battery is looked at for signs of a discharge. -/
def looks : Nat := 20

def usualInterval : Nat := 100000000

/-- The command that lets the controller charge, or not. -/
def charging (charge : Bool) : Command :=
  Command.of ["ectool", "chargeoverride", if charge then "off" else "dontcharge"]

/-- Asks the controller until it accepts, a few times at most. A refusal is a
failure unless it is to be ignored. -/
def chargeControl (interval : Nat) (charge ignoreStatus : Bool) : (tries : Nat) → Session Bool
  | 0 => return false
  | tries + 1 => do
    let ended : Except Failure Output ← Session.attempt (charging charge)
    match ended with
    | .ok _ => return true
    | .error f =>
      if !ignoreStatus then throw f
      Session.pause interval
      chargeControl interval charge ignoreStatus tries

/-- Looks at the battery until it discharges, a limited number of times. -/
def awaitDischarge (interval : Nat) : (looks : Nat) → Session Bool
  | 0 => return false
  | looks + 1 => do
    ExceptT.mk (.question Request.refreshBattery)
    let discharging : Bool ← ExceptT.lift (.question Request.batteryDischarging)
    if discharging then return true
    Session.pause interval
    awaitDischarge interval looks

/-- What lies in the way of a discharge. -/
inductive Obstacle where
  | noBattery
  | noController
  | refused
  deriving DecidableEq

def Obstacle.failure : Obstacle → Failure
  | .noBattery => .notApplicable "DUT does not have battery. Could not force discharge."
  | .noController => .notApplicable "DUT does not have CrOS EC. Could not force discharge."
  | .refused => .error "Could not run battery force discharge."

/-- Forces a discharge, unless something is in the way. -/
def force (interval : Nat) : Session (Option Obstacle) := do
  let battery : Bool ← ExceptT.lift (.question Request.batteryPresent)
  if !battery then return some .noBattery
  let controller : Bool ← ExceptT.lift (.question Request.controllerPresent)
  if !controller then return some .noController
  if !(← chargeControl interval false true tries) then return some .refused
  let _ ← awaitDischarge interval looks
  return none

/-- Applies the setting; says whether the device now discharges by force. -/
def apply (interval : Nat) : Setting → Session Bool
  | .off => return false
  | .required => do
    match ← force interval with
    | none => return true
    | some obstacle => throw obstacle.failure
  | .wished => do
    return (← force interval).isNone

/-- Lets the device charge again if it was made to discharge. -/
def restore (interval : Nat) (forced : Bool) : Session Unit := do
  if forced then
    let _ ← chargeControl interval true true tries

end DeviceLab.Device.Discharge
