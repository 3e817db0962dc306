import DeviceLab.Host

/-! Finding programs: by their path, or by their name along the search path. -/
namespace DeviceLab.Machine

def searchPathName : String := "PATH"

/-- The directories programs are looked for in. -/
def searchPath (h : Host) : List String :=
  Text.pieces ':' ((h.valueOf? searchPathName).getD "/bin:/usr/bin")

/-- The path of something that can be run. -/
def runnable (h : Host) (path : String) : Except OsError String := do
  match ← h.tree.stat h.cwd path with
  | .file _ true => return path
  | _ => .error .denied

/-- Tries paths in turn. That one of them is there but cannot be run is remembered. -/
def firstRunnable (h : Host) (refused : OsError) : List String → Except OsError String
  | [] => .error refused
  | path :: rest =>
    match runnable h path with
    | .ok path => .ok path
    | .error .denied => firstRunnable h .denied rest
    | .error _ => firstRunnable h refused rest

/-- The path of the program of a name. One with a slash in it is a path already. -/
def find (h : Host) (name : String) : Except OsError String :=
  if name.toList.contains '/' then runnable h name
  else if name.isEmpty then .error .notFound
  else
    firstRunnable h .notFound ((searchPath h).map fun dir =>
      Path.join (if dir.isEmpty then "." else dir) name)

end DeviceLab.Machine
