import DeviceLab.Datum

/-! Records: data with declared fields.

A record is written as a table, where unknown fields are skipped and a declared
one stands at most once, or as a list of its fields in the declared order, where
fields may be missing at the end only. -/
namespace DeviceLab

/-- The declared fields a datum gives, and whether they were given by name. -/
structure Record where
  named : Bool
  fields : List (String × Datum)

namespace Record
variable {α : Type}

/-- No two fields have one name. -/
def distinct : List (String × Datum) → Bool
  | [] => true
  | (k, _) :: rest => rest.all (fun p => p.1 != k) && distinct rest

/-- The declared fields of the datum. A point in time is a record with no field given. -/
def of? (names : List String) : Datum → Option Record
  | .table fields =>
    let known := fields.filter fun p => names.contains p.1
    if distinct known then some ⟨true, known⟩ else none
  | .list items => if items.length ≤ names.length then some ⟨false, names.zip items⟩ else none
  | .moment _ => some ⟨true, []⟩
  | _ => none

def given (r : Record) (name : String) : Option Datum :=
  (r.fields.find? fun p => p.1 == name).map (·.2)

/-- A field that has to be there. -/
def required (r : Record) (name : String) (read : Datum → Option α) : Option α :=
  (r.given name).bind read

/-- A field that may be left out of a table, or be null. -/
def optional (r : Record) (name : String) (read : Datum → Option α) : Option (Option α) :=
  match r.given name with
  | none => if r.named then some none else none
  | some .null => some none
  | some d => (read d).map some

/-- A field that has a value of its own when it is left out. -/
def withDefault (r : Record) (name : String) (default : α) (read : Datum → Option α) :
    Option α :=
  match r.given name with
  | none => some default
  | some d => read d

/-- A field that may be null or left out, also at the end of a list. -/
def nullable (r : Record) (name : String) (read : Datum → Option α) : Option (Option α) :=
  match r.given name with
  | none => some none
  | some .null => some none
  | some d => (read d).map some

end Record
end DeviceLab
