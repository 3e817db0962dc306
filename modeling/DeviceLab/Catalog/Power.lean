import DeviceLab.Device.Discharge
import DeviceLab.Device.Services
import DeviceLab.Trial.Body

/-! Tests of power. -/
namespace DeviceLab.Catalog.Power
open Device

/-- What a run of the measurement brings: whether the device was made to
discharge, or why that failed. The services out of the way are started again and
charging is put back whatever happens. -/
def measure (setting : Discharge.Setting) : Talk (Except Failure Bool) := do
  let stopper ← (Stopper.of Stopper.powerDraw).stop
  let forced : Except Failure Bool ← ExceptT.run (Discharge.apply Discharge.usualInterval setting)
  let restored : Except Failure Unit ←
    match forced with
    | .ok success => ExceptT.run (Discharge.restore Discharge.usualInterval success)
    | .error _ => pure (.ok ())
  let _ ← stopper.restore
  return do
    let success ← forced
    restored
    return success

/-- Makes the battery discharge, then lets it charge again. -/
def forceDischarge (params : List String) : Procedure Unit := do
  Procedure.session (ExceptT.mk (.question Request.openBattery))
  let name ← Procedure.need (param params 0 "force discharge setting")
  let setting ← Procedure.need (Discharge.Setting.of name)
  let success ← Procedure.session (ExceptT.mk (measure setting))
  Procedure.record [("force_discharge", setting.name),
    ("force_discharge_success", if success then "true" else "false")]

end DeviceLab.Catalog.Power
