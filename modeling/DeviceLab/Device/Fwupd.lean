import DeviceLab.Datum.Record
import DeviceLab.Device.Session
import DeviceLab.Json.Reader
import DeviceLab.Text.Cut
import DeviceLab.Unicode.Property

/-! Firmware of a device's parts, as the update daemon sees it. -/
namespace DeviceLab.Device.Fwupd

/-- A part with firmware of its own. -/
structure Part where
  name : Option String
  deviceId : Option String
  guids : List String
  version : Option String
  flags : Option (List String)
  deriving DecidableEq

namespace Part

def of? (d : Datum) : Option Part := do
  let r ← Record.of? ["Name", "DeviceId", "Guid", "Version", "Flags"] d
  let name ← r.optional "Name" Datum.text?
  let deviceId ← r.optional "DeviceId" Datum.text?
  let guids ← r.withDefault "Guid" [] (Datum.list? Datum.text?)
  let version ← r.optional "Version" Datum.text?
  let flags ← r.optional "Flags" (Datum.list? Datum.text?)
  return ⟨name, deviceId, guids, version, flags⟩

/-- A part goes by its id and by each of its GUIDs. -/
def goesBy (p : Part) (id : String) : Bool :=
  p.deviceId = some id || p.guids.contains id

def displayName (p : Part) : String :=
  p.name.getD "Unknown Device"

end Part

/-! ### Parts -/

/-- The parts of a report, if it is one; it may say nothing about parts. -/
def partsOf? (text : String) : Option (Option (List Part)) := do
  let r ← (Json.read? text).bind (Record.of? ["Devices"])
  r.optional "Devices" (Datum.list? Part.of?)

def parseFailure : Failure :=
  .error "Error parsing <fwupdmgr get-devices> output: the text is no list of devices"

/-- Every part the daemon detects. -/
def parts : Session (List Part) := do
  let out ← tryCatch (Session.output (Command.of ["fwupdmgr", "get-devices", "--json"]))
    fun f => throw (.error f.message)
  match partsOf? out with
  | none => throw parseFailure
  | some none => throw (.error "No devices found")
  | some (some parts) => return parts

def lacking (id : String) (p : Part) (what : String) : Failure :=
  .error ("Device " ++ id ++ " (" ++ p.displayName ++ ") " ++ what)

/-- The first part that goes by the id, if it can be updated. -/
def check (id : String) (parts : List Part) : Except Failure Part :=
  match parts.find? (·.goesBy id) with
  | none => .error (.error ("Device " ++ id ++ " not found"))
  | some p =>
    if p.deviceId.isNone then .error (lacking id p "has no DeviceId")
    else if p.version.isNone then .error (lacking id p "has no FW version info")
    else
      match p.flags with
      | none => .error (lacking id p "has no 'Flags' attribute")
      | some flags =>
        if flags.contains "updatable" then .ok p else .error (lacking id p "is not updatable")

/-! ### Version of the daemon -/

structure VersionEntry where
  component : Option String
  kind : Option String
  version : Option String

def VersionEntry.of? (d : Datum) : Option VersionEntry := do
  let r ← Record.of? ["AppstreamId", "Type", "Version"] d
  let component ← r.optional "AppstreamId" Datum.text?
  let kind ← r.optional "Type" Datum.text?
  let version ← r.optional "Version" Datum.text?
  return ⟨component, kind, version⟩

def versionsOf? (text : String) : Option (List VersionEntry) := do
  let r ← (Json.read? text).bind (Record.of? ["Versions"])
  r.withDefault "Versions" [] (Datum.list? VersionEntry.of?)

/-- Digits and points behind the first label that blanks and one of those follow. -/
def clientVersion : List Char → Option (List Char)
  | [] => none
  | c :: cs =>
    match Text.afterStart "client version:".toList (c :: cs) with
    | none => clientVersion cs
    | some rest =>
      let version := (rest.dropWhile Text.isBlank).takeWhile fun c =>
        Unicode.isDecimalDigit c || c == '.'
      if rest.head?.any Text.isBlank && !version.isEmpty then some version else clientVersion cs

/-- The version a report names: that of the running daemon or, when the report is
plain text, that of the client. -/
def versionOf (out : String) : Option String :=
  match versionsOf? out with
  | some entries =>
    (entries.find? fun e =>
      e.component = some "org.freedesktop.fwupd" && e.kind = some "runtime").bind (·.version)
  | none => (clientVersion out.toList).map String.ofList

/-- The version of the daemon, if it runs and says. -/
def version : Talk (Option String) := do
  let out ← ExceptT.run (Session.output (Command.of ["fwupdmgr", "--version", "--json"]))
  match out with
  | Except.ok out => return versionOf out
  | Except.error _ => return none

end DeviceLab.Device.Fwupd
