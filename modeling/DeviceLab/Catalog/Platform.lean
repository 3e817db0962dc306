import DeviceLab.Device.Dlc
import DeviceLab.Device.Tpm
import DeviceLab.Device.Upstart
import DeviceLab.Trial.Body

/-! Tests of the platform: the trusted platform module, services, content. -/
namespace DeviceLab.Catalog.Platform
open Device

/-- The module must be enabled and owned. The state of attacks on it is noted. -/
def tpmStatus (_ : List String) : Procedure Unit := do
  let status ← Procedure.session Tpm.status
  if !status.enabled then Procedure.fail (.fail "TPM is not enabled")
  if !status.owned then Procedure.fail (.fail "TPM is not owned")
  let report ← Procedure.session Tpm.report
  Procedure.record (report.entries.map fun (key, value) => ("tpm_" ++ key, value.shown))

/-- A service must be installed. -/
def upstartInstalled (params : List String) : Procedure Unit := do
  let service ← Procedure.need (param params 0 "service")
  if !(← Procedure.session (Upstart.hasService service)) then
    Procedure.fail (.notApplicable (service ++ " is not installed"))

/-- A service must be installed and running. -/
def upstartJob (params : List String) : Procedure Unit := do
  upstartInstalled params
  let service ← Procedure.need (param params 0 "service")
  Procedure.session (Upstart.ensureRunning service)
  match ← Procedure.session (Upstart.pid service) with
  | some pid => Procedure.record [("upstart_pid", toString pid)]
  | none => Procedure.fail (.fail (service ++ " has no main process"))

/-- Content must install from a server and then be listed. -/
def dlcInstall (params : List String) : Procedure Unit := do
  let id ← Procedure.need (param params 0 "DLC id")
  let url ← Procedure.need (param params 1 "omaha url")
  Procedure.session (Dlc.purge id true)
  Procedure.session (Dlc.install id url Dlc.installTimeout)
  let listing ← Procedure.session Dlc.list
  match (listing.get? id).bind List.head? with
  | none => Procedure.fail (.fail ("DLC " ++ id ++ " is not installed after install"))
  | some info =>
    Procedure.record [("dlc_version", info.version), ("dlc_root_mount", info.rootMount)]
    Procedure.session (Dlc.purge id true)

end DeviceLab.Catalog.Platform
