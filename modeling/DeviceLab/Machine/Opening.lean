import DeviceLab.Machine.Flow

/-! Files as the programs of a machine open them. Some are no files but devices:
one swallows what is written to it, another is full of zeros and has no end. -/
namespace DeviceLab.Machine

def nullDevice : Place := ["dev", "null"]
def zeroDevice : Place := ["dev", "zero"]

/-- What can be read from a path. -/
def reading (h : Host) (path : String) : Except OsError Flow := do
  let place ← h.tree.locate h.cwd path
  match h.tree.get? place with
  | none => .error .notFound
  | some .directory => .error .isDirectory
  | some (.file content _) =>
    if place == zeroDevice then return ⟨.empty, .repeats ⟨#[0]⟩⟩
    else return .ofBytes content.bytes

/-- Opens a path for writing, at its end or in place of what it holds; gives its place. -/
def writing (h : Host) (path : String) (atEnd : Bool) : Except OsError (Place × Host) := do
  let (place, content, runnable) ← h.tree.target h.cwd path
  if place.take 1 == ["dev"] then return (place, h)
  else
    let content := if atEnd then content else .empty
    return (place, h.withTree (h.tree.put place (.file content runnable)))

/-- Writes at the end of an open file. Nothing is kept by a device. -/
def appending (h : Host) (place : Place) (bytes : ByteArray) : Host :=
  if place.take 1 == ["dev"] then h
  else
    let (content, runnable) : Content × Bool := match h.tree.get? place with
      | some (.file content runnable) => (content, runnable)
      | _ => (.empty, false)
    h.withTree (h.tree.put place (.file (content.appendBytes bytes) runnable))

end DeviceLab.Machine
