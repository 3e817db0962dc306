import DeviceLab.Files.Tree
import DeviceLab.Text.Blank

/-! Batteries as directories of attributes.

Each power supply is a directory with a file for each attribute. The battery is
the first one, by name, whose `type` says so. -/
namespace DeviceLab.Device

/-- What was seen at the last look. -/
structure PowerSupply where
  root : String
  battery : Option String
  discharging : Bool

namespace PowerSupply

/-- Where the supplies of a machine are. -/
def defaultRoot : String := "/sys/class/power_supply"

def of (root : String) : PowerSupply :=
  ⟨root, none, false⟩

/-- The attribute of a supply, without blanks around it. -/
def attributeOf (t : Tree) (cwd : Place) (supply attr : String) : Option String :=
  match t.readText cwd (Path.join supply attr) with
  | .ok s => some (Text.trim s)
  | .error _ => none

def supplies (t : Tree) (cwd : Place) (root : String) : List String :=
  match t.stat cwd root, t.locate cwd root with
  | .ok .directory, .ok place => (t.names place).map (Path.join root)
  | _, _ => []

/-- Looks at the supplies. -/
def refresh (p : PowerSupply) (t : Tree) (cwd : Place) : PowerSupply :=
  let battery := (supplies t cwd p.root).find? fun s => attributeOf t cwd s "type" == some "Battery"
  { p with
    battery
    discharging := (battery.bind fun b => attributeOf t cwd b "status") == some "Discharging" }

def present (p : PowerSupply) : Bool :=
  p.battery.isSome

end PowerSupply
end DeviceLab.Device
