import DeviceLab.Text.Cut

/-! Paths as text.

A path is kept as it was written, since messages show it so. What it leads to is
found out by walking its steps through a tree of files. -/
namespace DeviceLab.Path

def isAbsolute (path : String) : Bool :=
  path.toList.head? == some '/'

def endsInSlash (path : String) : Bool :=
  path.toList.getLast? == some '/'

/-- The path `rest` as seen from `base`. An absolute path stays as it is. -/
def join (base rest : String) : String :=
  if isAbsolute rest || base.isEmpty then rest
  else if endsInSlash base then base ++ rest
  else base ++ "/" ++ rest

/-- The steps between the slashes. -/
def steps (path : String) : List String :=
  (Text.pieces '/' path).filter (!·.isEmpty)

/-- The steps that matter: a dot counts only at the start of a relative path. -/
def components (path : String) : List String :=
  match steps path with
  | [] => []
  | first :: rest =>
    let rest := rest.filter (· != ".")
    if first == "." && isAbsolute path then rest else first :: rest

/-- The last component, if it is a name. -/
def fileName (path : String) : Option String :=
  (components path).getLast?.filter fun name => name != "." && name != ".."

/-- The path without its last component. -/
def parent (path : String) : Option String :=
  match components path with
  | [] => none
  | components =>
    some ((if isAbsolute path then "/" else "") ++ Text.join "/" components.dropLast)

/-- The absolute path along the names. -/
def ofNames (names : List String) : String :=
  "/" ++ Text.join "/" names

end DeviceLab.Path
