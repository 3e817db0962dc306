import DeviceLab.Machine.Call
import DeviceLab.Machine.Opening
import DeviceLab.Text.Cut

/-! Utilities that work on files and directories. -/
namespace DeviceLab.Machine

/-- Does something to each operand in turn and complains where it cannot be done. -/
def each (c : Call) (o : Options) (missing cannot : String)
    (op : String → Tree → Place → Except OsError Tree) (h : Host) : Trace × Host :=
  if o.operands.isEmpty then (c.misused missing 1, h)
  else
    let (err, h) := o.operands.foldl (fun (err, h) path =>
      match h.change (op path) with
      | (.ok _, h) => (err, h)
      | (.error e, h) =>
        (err ++ c.complaint (cannot ++ " '" ++ path ++ "': " ++ e.reason), h)) ("", h)
    (c.plain (if err.isEmpty then 0 else 1) "" err, h)

def mkdir : Utility :=
  withOptions "pv" "m" 1 fun c o h =>
    each c o "missing operand" "cannot create directory" (fun path t cwd =>
      if o.has 'p' then t.makeDirectories cwd path else t.makeDirectory cwd path) h

/-- Makes an empty file unless something is there. -/
def touchOne (path : String) (t : Tree) (cwd : Place) : Except OsError Tree :=
  if t.exists? cwd path then .ok t else t.write cwd path .empty

def touch : Utility :=
  withOptions "acm" "drt" 1 fun c o h => each c o "missing file operand" "cannot touch" touchOne h

/-- Removes an entry; a directory only where that is allowed. -/
def removeOne (recursive force : Bool) (path : String) (t : Tree) (cwd : Place) :
    Except OsError Tree :=
  match t.stat cwd path with
  | .ok .directory => if recursive then t.remove cwd path else .error .isDirectory
  | .ok _ => t.remove cwd path
  | .error e => if force && (e == .notFound || e == .notDirectory) then .ok t else .error e

def rm : Utility :=
  withOptions "rRfdiv" "" 1 fun c o h =>
    if o.operands.isEmpty && o.has 'f' then (c.plain 0 "" "", h)
    else
      each c o "missing operand" "cannot remove" (removeOne (o.has 'r' || o.has 'R') (o.has 'f')) h

/-- Removes a directory in which nothing is. -/
def rmdirOne (path : String) (t : Tree) (cwd : Place) : Except OsError Tree := do
  let place ← t.locate cwd path
  match t.get? place with
  | some .directory => if (t.names place).isEmpty then t.remove cwd path else .error .notEmpty
  | some _ => .error .notDirectory
  | none => .error .notFound

def rmdir : Utility :=
  withOptions "p" "" 1 fun c o h => each c o "missing operand" "failed to remove" rmdirOne h

/-- Puts an entry, and all below it, to another place. -/
def placeAt (t : Tree) (source target : Place) : Tree :=
  let moved := t.entries.filter fun p => source.isPrefixOf p.1
  moved.reverse.foldl (fun t p => t.put (target ++ p.1.drop source.length) p.2) t

/-- Where an entry goes: into a directory of that name, or to the name itself. -/
def destination (t : Tree) (cwd : Place) (source : Place) (path : String) :
    Except OsError Place := do
  let place ← t.locate cwd path
  match t.get? place with
  | some .directory => return place ++ [source.getLastD ""]
  | some _ => return place
  | none => if t.get? place.dropLast == some .directory then return place else .error .notFound

/-- Copies or moves operands to the last one. -/
def transfer (keep : Bool) : Utility :=
  withOptions "rRfapnv" "" 1 fun c o h =>
    match o.operands with
    | [] => (c.misused "missing file operand" 1, h)
    | [path] => (c.misused ("missing destination file operand after '" ++ path ++ "'") 1, h)
    | operands =>
      let last := operands.getLastD ""
      let cannot (what path : String) (e : OsError) : String :=
        c.complaint (what ++ " '" ++ path ++ "': " ++ e.reason)
      let (err, h) := operands.dropLast.foldl (fun (err, h) path =>
        let found : Except OsError Place := do
          let source ← h.tree.locate h.cwd path
          if (h.tree.get? source).isNone then .error .notFound else return source
        match found with
        | .error e => (err ++ cannot "cannot stat" path e, h)
        | .ok source =>
          let deep := o.has 'r' || o.has 'R' || o.has 'a'
          if keep && h.tree.get? source == some .directory && !deep then
            (err ++ c.complaint ("-r not specified; omitting directory '" ++ path ++ "'"), h)
          else
            match destination h.tree h.cwd source last with
            | .error e =>
              let what := if keep then "cannot create regular file"
                else "cannot move '" ++ path ++ "' to"
              (err ++ cannot what last e, h)
            | .ok target =>
              let t := placeAt h.tree source target
              (err, h.withTree (if keep || source == target then t else t.prune source))) ("", h)
      (c.plain (if err.isEmpty then 0 else 1) "" err, h)

def ls : Utility :=
  withOptions "1aAd" "" 2 fun c o h =>
    let operands := if o.operands.isEmpty then ["."] else o.operands
    let missing := operands.filter fun path => !h.exists? path
    let err := Text.join "" (missing.map fun path =>
      c.complaint ("cannot access '" ++ path ++ "': " ++ OsError.notFound.reason))
    let there := (operands.filter h.exists?).mergeSort fun a b => decide (a ≤ b)
    let isListed (path : String) := h.isDirectory path && !o.has 'd'
    let files := Text.join "" ((there.filter (!isListed ·)).map (· ++ "\n"))
    let listing (path : String) : String :=
      let names := match h.tree.locate h.cwd path with
        | .ok place => h.tree.names place
        | .error _ => []
      let names := names.filter fun name => o.has 'a' || o.has 'A' || name.toList.head? != some '.'
      let names := if o.has 'a' then "." :: ".." :: names else names
      (if operands.length > 1 then path ++ ":\n" else "") ++
        Text.join "" (names.map (· ++ "\n"))
    let blocks := (there.filter isListed).map listing
    let out := Text.join "\n" (if files.isEmpty then blocks else files :: blocks)
    (c.plain (if err.isEmpty then 0 else 2) out err, h)

/-- Writes what it reads to files as well. -/
def tee : Utility :=
  withOptions "ai" "" 1 fun c o h =>
    let (err, h) := o.operands.foldl (fun (err, h) path =>
      match writing h path (o.has 'a') with
      | .ok (place, h) => (err, appending h place c.input.bytes)
      | .error e => (err ++ c.complaint (path ++ ": " ++ e.reason), h)) ("", h)
    (.writing (if err.isEmpty then 0 else 1) c.input err .empty, h)

/-! ### Names -/

def pwd : Utility :=
  withOptions "LP" "" 1 fun c _ h => (c.plain 0 (Path.ofNames h.cwd ++ "\n") "", h)

/-- The name a path ends with. -/
def lastName (path : String) : String :=
  match Path.steps path with
  | [] => if path.isEmpty then "" else "/"
  | steps => steps.getLastD ""

def basename : Utility :=
  withOptions "" "s" 1 fun c o h =>
    match o.operands with
    | [] => (c.misused "missing operand" 1, h)
    | path :: more =>
      let name := lastName path
      let ending := (o.value? 's').getD (more.headD "")
      let cs := name.toList
      let short := cs.take (cs.length - ending.toList.length)
      let ends := short ++ ending.toList == cs && !short.isEmpty
      let name := if ends then String.ofList short else name
      (c.plain 0 (name ++ "\n") "", h)

def dirname : Utility :=
  withOptions "z" "" 1 fun c o h =>
    if o.operands.isEmpty then (c.misused "missing operand" 1, h)
    else
      let up (path : String) : String :=
        let lead := Text.join "/" (Path.steps path).dropLast
        if Path.isAbsolute path then "/" ++ lead else if lead.isEmpty then "." else lead
      (c.plain 0 (Text.join "" (o.operands.map fun path => up path ++ "\n")) "", h)

end DeviceLab.Machine
