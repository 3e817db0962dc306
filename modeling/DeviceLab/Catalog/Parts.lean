import DeviceLab.Device.Fwupd
import DeviceLab.Device.Vpd
import DeviceLab.Trial.Body

/-! Tests of a device's parts: their firmware, and what the factory wrote about them. -/
namespace DeviceLab.Catalog.Parts
open Device

/-- The update daemon must be running, and a part must be open to updates. -/
def fwupdDevice (params : List String) : Procedure Unit := do
  let running ← Procedure.session (ExceptT.lift Fwupd.version)
  match running with
  | none => Procedure.fail (.error "fwupd not running")
  | some version =>
    let id ← Procedure.need (param params 0 "device id")
    let parts ← Procedure.session Fwupd.parts
    let part ← Procedure.need (Fwupd.check id parts)
    Procedure.record [("fwupd_version", version), ("device_name", part.displayName),
      ("device_version", part.version.getD "")]

/-- A key of the vital product data must have a value. -/
def vpdField (params : List String) : Procedure Unit := do
  let name ← Procedure.need (param params 0 "VPD section (RO or RW)")
  let sec ← Procedure.need (Vpd.Section.of name)
  let key ← Procedure.need (param params 1 "VPD key")
  match ← Procedure.session (Vpd.get sec key) with
  | none =>
    Procedure.fail (.fail ("VPD key " ++ key ++ " not found in " ++ sec.partition))
  | some value =>
    if Text.isBlankText value then
      Procedure.fail (.fail ("VPD key " ++ key ++ " in " ++ sec.partition ++ " is empty"))
    else Procedure.record [("vpd_" ++ key, value)]

end DeviceLab.Catalog.Parts
