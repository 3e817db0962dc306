/-! Cutting text: lines, pieces between separators, and searches.

Everything here is stated on lists of characters; the functions on `String`
are the same cuts with the pieces put back into strings. -/
namespace DeviceLab.Text

/-! ### Separators -/

/-- The characters in front of the first `sep` and those behind it. -/
def cutOnce (sep : Char) : List Char → Option (List Char × List Char)
  | [] => none
  | c :: cs =>
    if c = sep then some ([], cs)
    else (cutOnce sep cs).map fun (front, back) => (c :: front, back)

/-- The parts of the text in front of and behind the first `sep`. -/
def splitOnce (sep : Char) (s : String) : Option (String × String) :=
  (cutOnce sep s.toList).map fun (front, back) => (String.ofList front, String.ofList back)

/-- The stretches between the characters that satisfy `p`; always at least one. -/
def cutAll (p : Char → Bool) : List Char → List (List Char)
  | [] => [[]]
  | c :: cs =>
    if p c then [] :: cutAll p cs
    else
      match cutAll p cs with
      | [] => [[c]]
      | piece :: pieces => (c :: piece) :: pieces

/-- The pieces of the text between occurrences of `sep`. -/
def pieces (sep : Char) (s : String) : List String :=
  (cutAll (· == sep) s.toList).map String.ofList

/-! ### Lines -/

/-- A line without the carriage return that stood in front of its newline. -/
def dropReturn (line : List Char) : List Char :=
  if line.getLast? = some '\r' then line.dropLast else line

/-- The lines of the text: each newline ends one, a carriage return in front of
it belongs to the line end, and an empty rest is no line. -/
def linesOf : List Char → List Char → List (List Char)
  | line, [] => if line.isEmpty then [] else [line.reverse]
  | line, c :: cs =>
    if c = '\n' then dropReturn line.reverse :: linesOf [] cs else linesOf (c :: line) cs

def lines (s : String) : List String :=
  (linesOf [] s.toList).map String.ofList

/-! ### Searches -/

/-- What follows `lead` if the characters start with it. -/
def afterStart : List Char → List Char → Option (List Char)
  | [], cs => some cs
  | _ :: _, [] => none
  | l :: lead, c :: cs => if l = c then afterStart lead cs else none

/-- What follows the first occurrence of `needle`. -/
def afterFirst (needle : List Char) : List Char → Option (List Char)
  | [] => afterStart needle []
  | c :: cs => (afterStart needle (c :: cs)).orElse fun _ => afterFirst needle cs

/-- Does `needle` occur in the text? -/
def contains (needle s : String) : Bool :=
  (afterFirst needle.toList s.toList).isSome

/-- What follows `lead` if the text starts with it. -/
def dropStart? (lead s : String) : Option String :=
  (afterStart lead.toList s.toList).map String.ofList

/-- Does the text start with `lead`? -/
def startsWith (lead s : String) : Bool :=
  (afterStart lead.toList s.toList).isSome

/-- Joins the pieces with `sep` between them. -/
def join (sep : String) : List String → String
  | [] => ""
  | [s] => s
  | s :: rest => s ++ sep ++ join sep rest

end DeviceLab.Text
