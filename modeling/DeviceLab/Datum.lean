import DeviceLab.Dict

/-! Data as read from a document.

Documents in either of the two formats of the bench read into one kind of tree.
A table keeps its fields as they were written, repeated ones included, since
what a repetition means depends on who reads the table. A part that is well
formed and yet stands for no value, such as a number out of range, is
`unreadable`: it can be skipped but not read. -/
namespace DeviceLab

inductive Datum where
  | null
  | bool (b : Bool)
  | int (n : Int)
  | float (x : Float)
  | text (s : String)
  | moment (s : String)
  | list (items : List Datum)
  | table (fields : List (String × Datum))
  | unreadable
  deriving Inhabited

namespace Datum

/-- The kind of a datum, as messages call it. -/
def kindName : Datum → String
  | .null => "null"
  | .bool _ => "bool"
  | .int _ | .float _ => "number"
  | .text _ | .moment _ | .unreadable => "string"
  | .list _ => "array"
  | .table _ => "object"

/-! ### Readable through and through -/

mutual

/-- Nothing in the datum is unreadable. -/
def readable : Datum → Bool
  | .unreadable => false
  | .list items => allReadable items
  | .table fields => fieldsReadable fields
  | _ => true

def allReadable : List Datum → Bool
  | [] => true
  | d :: rest => readable d && allReadable rest

def fieldsReadable : List (String × Datum) → Bool
  | [] => true
  | (_, d) :: rest => readable d && fieldsReadable rest

end

/-! ### Depth -/

mutual

/-- How many lists and tables enclose the innermost part. -/
def depth : Datum → Nat
  | .list items => itemsDepth items + 1
  | .table fields => fieldsDepth fields + 1
  | _ => 0

def itemsDepth : List Datum → Nat
  | [] => 0
  | d :: rest => max (depth d) (itemsDepth rest)

def fieldsDepth : List (String × Datum) → Nat
  | [] => 0
  | (_, d) :: rest => max (depth d) (fieldsDepth rest)

end

/-! ### Plain values -/

def text? : Datum → Option String
  | .text s => some s
  | _ => none

def bool? : Datum → Option Bool
  | .bool b => some b
  | _ => none

/-- An integer between the bounds. -/
def int? (lo hi : Int) : Datum → Option Int
  | .int n => if lo ≤ n ∧ n ≤ hi then some n else none
  | _ => none

/-- A natural number at most `max`. -/
def nat? (max : Nat) : Datum → Option Nat
  | .int n => if 0 ≤ n ∧ n ≤ max then some n.toNat else none
  | _ => none

/-- A list whose items all read. -/
def list? {α : Type} (read : Datum → Option α) : Datum → Option (List α)
  | .list items => items.mapM read
  | _ => none

/-- A table read as a dictionary: every value has to read, of a repeated key the last counts. -/
def dict? {α : Type} (read : Datum → Option α) : Datum → Option (Dict α)
  | .table fields =>
    (fields.mapM fun (p : String × Datum) => (read p.2).map fun a => (p.1, a)).map Dict.ofList
  | _ => none

end Datum
end DeviceLab
