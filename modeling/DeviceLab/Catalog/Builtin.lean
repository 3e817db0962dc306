import DeviceLab.Catalog
import DeviceLab.Catalog.Dummy
import DeviceLab.Catalog.Parts
import DeviceLab.Catalog.Platform
import DeviceLab.Catalog.Power
import DeviceLab.Device.PowerSupply
import DeviceLab.Machine

/-! The tests that come with the bench, on the host itself as the device. -/
namespace DeviceLab

namespace Local
open Device

/-- The device file of the embedded controller. -/
def controllerFile : String := "/dev/cros_ec"

/-- Looks at the battery of the host. -/
def lookAtBattery (s : Host × PowerSupply) : Except Failure Unit × (Host × PowerSupply) :=
  (.ok (), (s.1, s.2.refresh s.1.tree s.1.cwd))

/-- How a host answers as the device under test. -/
def answer (ctx : Context) :
    (r : Request) → Host × PowerSupply → r.Reply × (Host × PowerSupply)
  | .run c, (h, p) =>
    let (r, h) := Machine.run c h
    (r, (h, p))
  | .now, (h, p) => (h.clock, (h.spend 1, p))
  | .pause span, (h, p) => ((), (h.spend span, p))
  | .jobInstalled service, (h, p) =>
    (h.exists? (Path.join Upstart.defaultInitDir (Upstart.jobFile service)), (h, p))
  | .controllerPresent, (h, p) => (h.exists? controllerFile, (h, p))
  | .openBattery, s => lookAtBattery s
  | .refreshBattery, s => lookAtBattery s
  | .batteryPresent, (h, p) => (p.present, (h, p))
  | .batteryDischarging, (h, p) => (p.discharging, (h, p))
  | .record pairs, (h, p) =>
    let (r, h) := ctx.record pairs h
    (r, (h, p))

/-- The test that a procedure is on the host itself. -/
def test (p : List String → Procedure Unit) : TestCase Host :=
  fun ctx h =>
    let (r, (h, _)) :=
      TestCase.ofProcedure answer p ctx (h, PowerSupply.of PowerSupply.defaultRoot)
    (r, h)

end Local

/-- The procedures that come with the bench. -/
def Catalog.procedures : List (String × (List String → Procedure Unit)) :=
  [("dummy_Pass", Dummy.pass), ("dummy_Fail", Dummy.fail), ("dummy_Panic", Dummy.panic),
   ("dummy_Sleep", Dummy.sleep), ("platform_TpmStatus", Platform.tpmStatus),
   ("platform_UpstartJob", Platform.upstartJob), ("platform_DlcInstall", Platform.dlcInstall),
   ("firmware_FwupdDevice", Parts.fwupdDevice), ("hardware_VpdField", Parts.vpdField),
   ("power_ForceDischarge", Power.forceDischarge)]

/-- The catalog of the tests that come with the bench. -/
def Catalog.builtin : Catalog Host :=
  Catalog.procedures.foldl (fun c p => c.register p.1 (Local.test p.2)) .empty

end DeviceLab
