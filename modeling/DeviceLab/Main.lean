import DeviceLab.CommandLine.Perform

/-! The bench as a program.

What the bench may need of the files is read first, and what it has done to them is
written back at the end. In between nothing outside is looked at. -/
namespace DeviceLab.Outside

/-- Paths lead no deeper than this. -/
def maxDepth : Nat := 40

/-- A file as an entry. One that says what runs it can be run. -/
def entryOf (bytes : ByteArray) : Entry :=
  .file (Content.ofBytes bytes) (bytes.extract 0 2 == ⟨#[35, 33]⟩)

/-- Reads what lies at a place, and all below it. What cannot be read is left out. -/
def load (place : Place) (t : Tree) : (depth : Nat) → IO Tree
  | 0 => return t
  | depth + 1 => do
    let path := (← IO.currentDir) / Path.ofNames place
    try
      if ← path.isDir then
        let entries ← path.readDir
        entries.foldlM (fun t e => load (place ++ [e.fileName]) t depth)
          (if place.isEmpty then t else t.put place .directory)
      else if ← path.pathExists then return t.put place (entryOf (← IO.FS.readBinFile path))
      else return t
    catch _ => return t

/-- The directories above a place. -/
def loadAbove (place : Place) (t : Tree) : IO Tree :=
  ((List.range place.length).drop 1).foldlM (fun t n => do
    let path := (← IO.currentDir) / Path.ofNames (place.take n)
    return if ← path.isDir then t.put (place.take n) .directory else t) t

/-- The absolute paths among arguments, those behind an equals sign too. -/
def absolutePaths (args : List String) : List String :=
  (args ++ args.filterMap fun arg => (Text.splitOnce '=' arg).map (·.2)).filter Path.isAbsolute

/-- The time: that of a file that is made now. -/
def now : IO Nat := do
  let (_, path) ← IO.FS.createTempFile
  let modified := (← path.metadata).modified
  IO.FS.removeFile path
  return modified.sec.toNat * Seconds.second + modified.nsec.toNat

/-- The number of this process. -/
def ownPid : IO Nat := do
  try
    let line ← IO.FS.readFile "/proc/self/stat"
    return ((Text.splitOnce ' ' line).bind fun p => p.1.toNat?).getD 1
  catch _ => return 1

/-- The variables that matter. -/
def environment : IO (List (String × String)) :=
  [Config.variableName, Machine.searchPathName, "HOME"].filterMapM fun name => do
    return (← IO.getEnv name).map fun value => (name, value)

/-- The host, with the files that the arguments and the devices lead to. -/
def host (args : List String) : IO Host := do
  let cwd := Path.steps (← IO.currentDir).toString
  let vars ← environment
  let named := absolutePaths (args ++ vars.map (·.2)) ++
    [Device.Upstart.defaultInitDir, Device.PowerSupply.defaultRoot, Local.controllerFile]
  let places := cwd :: (named.map Path.steps).filter fun place =>
    place.length > 1 && !Machine.programDirs.contains place
  let tree ← places.foldlM (fun t place => do
    load place (← loadAbove place t) maxDepth) Machine.bareTree
  let pid ← ownPid
  return {
    tree, cwd, pid
    nextPid := pid + 1
    environment := vars
    clock := ← now
    deadline := none
    out := ""
    err := "" }

/-- Writes back what has changed from one tree to another. -/
def save (before after : Tree) : IO Unit := do
  for (place, _) in before.entries do
    let path := (← IO.currentDir) / Path.ofNames place
    if (after.get? place).isNone then
      if ← path.isDir then IO.FS.removeDirAll path
      else if ← path.pathExists then IO.FS.removeFile path
  for (place, e) in after.entries.reverse do
    if before.get? place != some e then
      let path := Path.ofNames place
      match e with
      | .directory => IO.FS.createDirAll path
      | .file content _ =>
        IO.FS.createDirAll (Path.ofNames place.dropLast)
        IO.FS.writeBinFile path content.bytes

end DeviceLab.Outside

def main (args : List String) : IO UInt32 := do
  let before ← DeviceLab.Outside.host args
  let (code, after) := DeviceLab.CommandLine.bench args before
  DeviceLab.Outside.save before.tree after.tree
  IO.print after.out
  IO.eprint after.err
  return code.toUInt32
