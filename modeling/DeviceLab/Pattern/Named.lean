import DeviceLab.Text.Cut
import DeviceLab.Unicode.Property
import DeviceLab.Unicode.RangeSet
import DeviceLab.Unicode.Script

/-! Sets of characters that patterns call by name. -/
namespace DeviceLab.Pattern
open Unicode

/-! ### Classes of ASCII characters -/

/-- The sets that may be named inside a bracketed set. -/
def asciiClasses : List (String × Ranges) :=
  [("alnum", Ranges.ofTable "30-39 41-5A 61-7A"), ("alpha", Ranges.ofTable "41-5A 61-7A"),
   ("ascii", Ranges.ofTable "0-7F"), ("blank", Ranges.ofTable "9 20"),
   ("cntrl", Ranges.ofTable "0-1F 7F"), ("digit", Ranges.ofTable "30-39"),
   ("graph", Ranges.ofTable "21-7E"), ("lower", Ranges.ofTable "61-7A"),
   ("print", Ranges.ofTable "20-7E"), ("punct", Ranges.ofTable "21-2F 3A-40 5B-60 7B-7E"),
   ("space", Ranges.ofTable "9-D 20"), ("upper", Ranges.ofTable "41-5A"),
   ("word", Ranges.ofTable "30-39 41-5A 5F 61-7A"),
   ("xdigit", Ranges.ofTable "30-39 41-46 61-66")]

/-- The digits, blanks or word characters that a letter stands for. -/
def letterClass? (unicode : Bool) (c : Char) : Option Ranges :=
  match c with
  | 'd' => if unicode then some decimalDigits else asciiClasses.lookup "digit"
  | 's' => if unicode then some whiteSpace else asciiClasses.lookup "space"
  | 'w' => if unicode then some wordCharacters else asciiClasses.lookup "word"
  | _ => none

/-! ### Properties -/

/-- A name without regard to letter case, blanks, marks between words and a leading `is`. -/
def plainName (s : String) : String :=
  let cs := match s.toList with
    | a :: b :: cs =>
      if a.toLower == 'i' && b.toLower == 's' then cs else a :: b :: cs
    | cs => cs
  let name := String.ofList
    ((cs.filter fun c => c.toNat < 0x80 && c != ' ' && c != '_' && c != '-').map Char.toLower)
  if name == "c" && cs.length < s.length then "isc" else name

/-- The categories that a name of a group of categories takes in. -/
def categoryGroups : List (List String × List Category) :=
  [(["l", "letter"],
    [.uppercaseLetter, .lowercaseLetter, .titlecaseLetter, .modifierLetter, .otherLetter]),
   (["lc", "casedletter"], [.uppercaseLetter, .lowercaseLetter, .titlecaseLetter]),
   (["m", "mark", "combiningmark"], [.nonspacingMark, .spacingMark, .enclosingMark]),
   (["n", "number"], [.decimalNumber, .letterNumber, .otherNumber]),
   (["p", "punctuation", "punct"],
    [.connectorPunctuation, .dashPunctuation, .openPunctuation, .closePunctuation,
      .initialPunctuation, .finalPunctuation, .otherPunctuation]),
   (["s", "symbol"], [.mathSymbol, .currencySymbol, .modifierSymbol, .otherSymbol]),
   (["z", "separator"], [.spaceSeparator, .lineSeparator, .paragraphSeparator]),
   (["cntrl"], [.control]), (["digit"], [.decimalNumber])]

/-- The characters that have a category. -/
def assignedRanges : Ranges :=
  Category.assigned.flatMap Category.ranges

/-- The halves of surrogate pairs, which no character is. -/
def surrogates : Ranges := [(0xD800, 0xDFFF)]

/-- The set of a category, of a group of them, or of all characters of a kind. -/
def categorySet? (name : String) : Option Ranges :=
  match name with
  | "any" => some [(0, Ranges.last)]
  | "ascii" => some [(0, 0x7F)]
  | "assigned" => some assignedRanges
  | "cn" | "unassigned" => some (assignedRanges ++ surrogates).negate
  | "c" | "other" =>
    some ((assignedRanges ++ surrogates).negate ++ Category.control.ranges ++
      Category.format.ranges ++ Category.privateUse.ranges)
  | name =>
    match Category.assigned.find? fun c => c.names.1 == name || c.names.2 == name with
    | some c => some c.ranges
    | none =>
      (categoryGroups.find? fun g => g.1.contains name).map fun g => g.2.flatMap Category.ranges

/-- Other names that scripts go by. -/
def scriptAliases : List (String × String) :=
  [("qaac", "copt"), ("qaai", "zinh")]

def scriptSet? (name : String) : Option Ranges :=
  let name := (scriptAliases.lookup name).getD name
  (scripts.find? fun s => s.short == name || s.long == name).map Script.ranges

def propertySet? (name : String) : Option Ranges :=
  (properties.find? fun p => p.1 == name || p.2.1 == name).map (·.2.2)

/-- The set of one name: of a property, a category or a script. -/
def namedSet? (name : String) : Option Ranges :=
  let name := plainName name
  (propertySet? name).orElse fun _ =>
    (categorySet? name).orElse fun _ => scriptSet? name

/-- The set of a property and its value. -/
def valuedSet? (property value : String) : Option Ranges :=
  let value := plainName value
  match plainName property with
  | "gc" | "generalcategory" => categorySet? value
  | "sc" | "script" | "scx" | "scriptextensions" => scriptSet? value
  | _ => none

/-- The part in front of a mark and the part behind it, where it first occurs. -/
def cutAt? (mark : List Char) (s : String) : Option (String × String) :=
  (Text.afterFirst mark s.toList).map fun rest =>
    let front := s.toList.take (s.toList.length - rest.length - mark.length)
    (String.ofList front, String.ofList rest)

/-- The set that a name in braces stands for, and whether all others are meant. -/
def propertyOf? (name : String) : Option (Ranges × Bool) :=
  match cutAt? ['!', '='] name with
  | some (property, value) => (valuedSet? property value).map (·, true)
  | none =>
    match (cutAt? [':'] name).orElse fun _ => cutAt? ['='] name with
    | some (property, value) => (valuedSet? property value).map (·, false)
    | none => (namedSet? name).map (·, false)

end DeviceLab.Pattern
