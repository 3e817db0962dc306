import DeviceLab.Shell.Glob
import DeviceLab.Shell.State

/-! From the expanded parts of words to arguments.

What came from an expansion outside quotes is divided into fields; what was quoted
stays together. Fields with patterns in them become the paths that match. -/
namespace DeviceLab.Shell

/-- A character of an expanded word, or a mark between two. -/
inductive Mark where
  | char (c : Char) (quoted : Bool)
  /-- From an expansion outside quotes. -/
  | loose (c : Char)
  /-- One argument ends and another begins. -/
  | border
  /-- There is a field here even if it is empty. -/
  | present

namespace Mark

def quoted (s : String) : List Mark :=
  .present :: s.toList.map fun c => .char c true

def ofText (isQuoted : Bool) (s : String) : List Mark :=
  if isQuoted then quoted s else s.toList.map .loose

/-- As if it came from an expansion. -/
def loosened : Mark → Mark
  | .char c false => .loose c
  | m => m

/-- Several arguments. -/
def ofTexts (isQuoted : Bool) : List String → List Mark
  | [] => []
  | [s] => ofText isQuoted s
  | s :: rest => ofText isQuoted s ++ .border :: ofTexts isQuoted rest

/-- The characters with their quotes, undivided. -/
def marked (ms : List Mark) : List Glob.Marked :=
  ms.filterMap fun
    | .char c q => some (c, q)
    | .loose c => some (c, false)
    | .border => some (' ', false)
    | .present => none

/-- The text, undivided. -/
def text (ms : List Mark) : String :=
  String.ofList ((marked ms).map (·.1))

/-- The fields. The one that is begun, if any, comes last. -/
def fields (dividers : List Char) (begun : Option (List Glob.Marked)) :
    List Mark → List (List Glob.Marked)
  | [] => (begun.map List.reverse).toList
  | m :: ms =>
    let before := (begun.map List.reverse).toList
    match m with
    | .char c q => fields dividers (some ((c, q) :: begun.getD [])) ms
    | .present => fields dividers (some (begun.getD [])) ms
    | .border => before ++ fields dividers none ms
    | .loose c =>
      if !dividers.contains c then fields dividers (some ((c, false) :: begun.getD [])) ms
      else if c == ' ' || c == '\t' || c == '\n' then before ++ fields dividers none ms
      else [(begun.map List.reverse).getD []] ++ fields dividers none ms

end Mark
end DeviceLab.Shell
