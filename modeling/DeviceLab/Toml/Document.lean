import DeviceLab.Toml.Grammar

/-! TOML documents.

The sections of a document make up one table. Sections whose headers begin alike
go into one part of it. A section that adds to an array begins a new item, which
takes the sections behind it up to the next. No table is defined twice. -/
namespace DeviceLab.Toml

/-- A section without the first name of its header. -/
def Section.inner (s : Section) : Section :=
  { s with header := s.header.tail }

/-- The first names of the headers, each once. -/
def heads (sections : List Section) : List String :=
  (sections.filterMap (·.header.head?)).eraseDups

/-- Does the section begin an item of the array at this place? -/
def Section.beginsItem (s : Section) : Bool :=
  s.array && s.header.isEmpty

/-- The items of an array: each section that begins one, with the sections up to the next. -/
def itemsOf : List Section → List (Section × List Section)
  | [] => []
  | s :: rest =>
    if s.beginsItem then (s, rest.takeWhile (!·.beginsItem)) :: itemsOf rest else itemsOf rest

/-- The fields that the sections make up, their headers seen from here. The count
bounds the number of names in a header. -/
def assemble : (count : Nat) → List Section → Option (List (String × Datum))
  | 0, _ => none
  | count + 1, sections => do
    let own ← match sections.filter (·.header.isEmpty) with
      | [] => some []
      | [s] => if s.array then none else some (doneFields s.fields)
      | _ => none
    let parts ← (heads sections).mapM fun name => do
      let inner := (sections.filter (·.header.head? = some name)).map Section.inner
      if (inner.head?.any Section.beginsItem) then
        let items ← (itemsOf inner).mapM fun (s, rest) => do
          if rest.any (·.header.isEmpty) then none
          else
            let fields ← assemble count rest
            return .table (doneFields s.fields ++ fields)
        return (name, Datum.list items)
      else
        let fields ← assemble count inner
        return (name, Datum.table fields)
    return own ++ parts

/-- The sections of a text. -/
def document? (s : String) : Option (List Section) := do
  let ts ← tokens? s
  sections? (ts.length + 1) ⟨[], false, []⟩ ts

/-- The datum a TOML text stands for. -/
def read? (s : String) : Option Datum := do
  let sections ← document? s
  let longest := (sections.map (·.header.length)).foldl max 0
  let fields ← assemble (longest + 1) sections
  return .table fields

end DeviceLab.Toml
