import DeviceLab.Json.Token

/-! Reading JSON.

The tokens are read one after another while the lists and tables that are still
open wait on a stack, so no nesting is too deep to be read. -/
namespace DeviceLab.Json

/-- A list or table that is still open, with what it holds so far, latest first. -/
inductive Frame where
  | list (items : List Datum)
  | table (fields : List (Option String × Datum)) (key : Option String)

/-- What may stand next: a value, the first item of a list or its end, a key, the
first key of a table or its end, a colon behind a key, what follows a value, or
nothing but blanks. -/
inductive Expect where
  | value
  | firstItem
  | key
  | firstKey
  | colon
  | follow
  | nothing (d : Datum)

structure Reader where
  frames : List Frame
  expect : Expect

namespace Reader

def start : Reader := ⟨[], .value⟩

/-- A table that has a key without text cannot be read. -/
def tableOf (fields : List (Option String × Datum)) : Datum :=
  match fields.mapM fun p => p.1.map fun k => (k, p.2) with
  | some fields => .table fields
  | none => .unreadable

/-- A value is complete. -/
def complete (d : Datum) : List Frame → Reader
  | [] => ⟨[], .nothing d⟩
  | .list items :: frames => ⟨.list (d :: items) :: frames, .follow⟩
  | .table fields key :: frames => ⟨.table ((key, d) :: fields) none :: frames, .follow⟩

/-- The innermost list or table is closed. -/
def closeList? (frames : List Frame) : Option Reader :=
  match frames with
  | .list items :: frames => some (complete (.list items.reverse) frames)
  | _ => none

def closeTable? (frames : List Frame) : Option Reader :=
  match frames with
  | .table fields _ :: frames => some (complete (tableOf fields.reverse) frames)
  | _ => none

/-- The first token of a value. -/
def value? (frames : List Frame) : Token → Option Reader
  | .openList => some ⟨.list [] :: frames, .firstItem⟩
  | .openTable => some ⟨.table [] none :: frames, .firstKey⟩
  | .text (some s) => some (complete (.text s) frames)
  | .text none => some (complete .unreadable frames)
  | .plain d => some (complete d frames)
  | _ => none

def key? (frames : List Frame) : Token → Option Reader
  | .text key =>
    match frames with
    | .table fields _ :: frames => some ⟨.table fields key :: frames, .colon⟩
    | _ => none
  | _ => none

/-- A comma behind a value. -/
def comma? (frames : List Frame) : Option Reader :=
  match frames with
  | .list _ :: _ => some ⟨frames, .value⟩
  | .table .. :: _ => some ⟨frames, .key⟩
  | [] => none

def next? (t : Token) (r : Reader) : Option Reader :=
  match r.expect, t with
  | .value, t => value? r.frames t
  | .firstItem, .closeList => closeList? r.frames
  | .firstItem, t => value? r.frames t
  | .key, t => key? r.frames t
  | .firstKey, .closeTable => closeTable? r.frames
  | .firstKey, t => key? r.frames t
  | .colon, .colon => some ⟨r.frames, .value⟩
  | .follow, .comma => comma? r.frames
  | .follow, .closeList => closeList? r.frames
  | .follow, .closeTable => closeTable? r.frames
  | _, _ => none

def run? (r : Reader) : List Token → Option Datum
  | [] =>
    match r.expect with
    | .nothing d => some d
    | _ => none
  | t :: ts => (r.next? t).bind (run? · ts)

end Reader

/-- The datum a JSON text stands for. -/
def read? (s : String) : Option Datum :=
  (tokens? s).bind Reader.start.run?

/-- Only so many lists and tables may enclose a value that is to be kept whole. -/
def maxDepth : Nat := 127

/-- May the datum be kept as it is, with everything in it? -/
def keepable (d : Datum) : Bool :=
  d.readable && d.depth ≤ maxDepth

end DeviceLab.Json
