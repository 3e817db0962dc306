import DeviceLab.Device.Session
import DeviceLab.Dict
import DeviceLab.Text.Cut

/-! What the factory and the firmware say about a device.

Vital product data were written by the factory. They lie in two sections of pairs of
a key and a value. A listing has one pair a line, both parts in quotes; a key holds no
quote, a value may. The properties of the firmware and the system are another report,
which has one property a line, as `name = value # comment`. -/
namespace DeviceLab.Device.Vpd

inductive Section where
  | readOnly
  | readWrite
  deriving DecidableEq

namespace Section

def partition : Section → String
  | .readOnly => "RO_VPD"
  | .readWrite => "RW_VPD"

/-- The section by either of its names, in any letter case. -/
def of (s : String) : Except Failure Section :=
  let name := String.ofList (s.toList.map Char.toUpper)
  if name == "RO" || name == "RO_VPD" then .ok .readOnly
  else if name == "RW" || name == "RW_VPD" then .ok .readWrite
  else .error (.error ("unknown VPD section '" ++ s ++ "', expected RO or RW"))

end Section

def command (sec : Section) (args : List String) : Command :=
  Command.of (["vpd", "-i", sec.partition] ++ args)

/-- The value of the key, if it has one. -/
def get (sec : Section) (key : String) : Session (Option String) := do
  let result ← Session.run (command sec ["-g", key]).ignoringStatus
  return if result.success then some (Text.trimNewlines result.out) else none

def set (sec : Section) (key value : String) : Session Unit :=
  Session.system (command sec ["-s", key ++ "=" ++ value])

def delete (sec : Section) (key : String) : Session Unit :=
  Session.system (command sec ["-d", key])

/-! ### Listings -/

/-- The value in front of the quote that ends a line. -/
def valueOf (cs : List Char) : Option (List Char) :=
  if cs.getLast? = some '"' then some cs.dropLast else none

/-- The pair on a line. -/
def pairOf (line : List Char) : Option (String × String) := do
  let rest ← Text.afterStart ['"'] line
  let (key, rest) ← Text.cutOnce '"' rest
  let rest ← Text.afterStart ['=', '"'] rest
  let value ← valueOf rest
  return (String.ofList key, String.ofList value)

/-- The pairs of a listing; lines of any other form are skipped. -/
def listingOf (out : String) : Dict String :=
  Dict.ofList ((Text.lines out).filterMap fun line =>
    pairOf (Text.dropBlankEnd (Text.dropBlank line.toList)))

def list (sec : Section) : Session (Dict String) := do
  return listingOf (← Session.output (command sec ["-l"]))

end DeviceLab.Device.Vpd

/-! ### Properties of the firmware and the system -/

namespace DeviceLab.Device.Crossystem

/-- The property on a line: what stands in front of the comment, cut at its first equals sign. -/
def propertyOf (line : String) : Option (String × String) := do
  let (name, value) ← Text.cutOnce '=' (line.toList.takeWhile (· != '#'))
  let name := String.ofList (Text.dropBlankEnd (Text.dropBlank name))
  let value := String.ofList (Text.dropBlankEnd (Text.dropBlank value))
  if name.isEmpty then none else some (name, value)

/-- The properties of a report; lines without one are skipped. -/
def reportOf (out : String) : Dict String :=
  Dict.ofList ((Text.lines out).filterMap propertyOf)

def read : Session (Dict String) := do
  return reportOf (← Session.output (Command.of ["crossystem"]))

end DeviceLab.Device.Crossystem
