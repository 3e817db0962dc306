import DeviceLab.Proofs.Json
import DeviceLab.Proofs.Reopen
import DeviceLab.Failure.Record

/-! Error records, written and read.

A failure is read from its own text, whatever its kind and its texts
(`read?_pretty`). The record of a process lies in the debug directory under the
number of the process (`reach_path_eq_ok`), and a look for it goes by what is found
there (`read_eq`). So the failure that was recorded is found again, whatever others
record meanwhile (`record_kept`). -/
namespace DeviceLab

namespace Failure

theorem exit?_int (code : Int32) : exit? (.int code.toInt) = some code := by
  rw [exit?, Datum.int?, if_pos ⟨code.minValue_le_toInt, code.toInt_le⟩, Option.map_some,
    Int32.ofInt_toInt]

theorem of?_tagged (kind : String) (detail : Datum) :
    of? (tagged kind detail) = ofParts? (.text kind) detail := by
  simp [of?, tagged]

theorem command?_datum (line : String) (exit : Option Int32) (out err : String) :
    command? (.table [("command", .text line), ("exit_status", exitDatum exit),
      ("stdout", .text out), ("stderr", .text err)]) = some (.command line exit out err) := by
  cases exit with
  | none => rfl
  | some code =>
    show ((exit? (.int code.toInt)).map some).bind _ = _
    rw [exit?_int]
    rfl

/-- A failure is read from its datum. -/
theorem of?_datum (f : Failure) : of? f.datum = some f := by
  cases f with
  | command line exit out err =>
    rw [datum, of?_tagged]
    exact command?_datum line exit out err
  | _ =>
    rw [datum, of?_tagged]
    rfl

/-- The text of a failure keeps all of it. -/
theorem lossless_datum (f : Failure) : Json.Lossless f.datum := by
  cases f with
  | command line exit out err =>
    refine ⟨trivial, ⟨trivial, ?_, trivial, trivial, trivial⟩, trivial⟩
    cases exit with
    | none => trivial
    | some code =>
      have hlo : -(2 ^ 31) ≤ code.toInt := code.le_toInt
      have hhi : code.toInt < 2 ^ 31 := code.toInt_lt
      have hmin : Int.ofNat (Nat.pow 2 63) = 2 ^ 63 := by decide
      have hmax : (Reading.maxWord64 : Int) = 2 ^ 64 - 1 := by decide
      exact ⟨by omega, by omega⟩
  | _ => simp [datum, tagged, Json.Lossless, Json.FieldsLossless]

/-- A failure is read from the text of its record. -/
theorem read?_pretty (f : Failure) : read? f.pretty = some f := by
  rw [read?, pretty, Json.read?_pretty f.lossless_datum, Option.bind_some, of?_datum]

/-- It is read from one line as well. -/
theorem read?_compact (f : Failure) : read? f.compact = some f := by
  rw [read?, compact, Json.read?_compact f.lossless_datum, Option.bind_some, of?_datum]

end Failure

namespace ErrorRecord

/-! ### Where a record lies -/

/-- The name of the file of a process. -/
def fileName (pid : Nat) : String := "error-" ++ toString pid

theorem toList_fileName (pid : Nat) :
    (fileName pid).toList = 'e' :: ("rror-".toList ++ Nat.toDigits 10 pid) := by
  have hlead : "error-".toList = 'e' :: "rror-".toList := by decide
  have hdigits : (toString pid).toList = Nat.toDigits 10 pid := Nat.toList_repr
  rw [fileName, String.toList_append, hlead, hdigits, List.cons_append]

theorem not_mem_fileName {c : Char} (hlead : c ∉ "error-".toList) (hdigit : c.isDigit = false)
    (pid : Nat) : c ∉ (fileName pid).toList := by
  have hsplit : "error-".toList = 'e' :: "rror-".toList := by decide
  rw [hsplit] at hlead
  rw [toList_fileName, ← List.cons_append]
  exact fun hc => (List.mem_append.mp hc).elim hlead (Text.not_mem_toDigits hdigit pid)

theorem isAbsolute_fileName (pid : Nat) : Path.isAbsolute (fileName pid) = false :=
  Path.isAbsolute_of_name (not_mem_fileName (by decide) rfl pid)

theorem steps_fileName (pid : Nat) : Path.steps (fileName pid) = [fileName pid] := by
  refine Path.steps_of_name ?_ (not_mem_fileName (by decide) rfl pid)
  intro h
  have := toList_fileName pid
  simp [h] at this

theorem fileName_ne {other : String} (h : other.toList.head? ≠ some 'e') (pid : Nat) :
    fileName pid ≠ other := by
  rintro rfl
  exact h (by rw [toList_fileName]; rfl)

/-- The record of a process in the directory at a place. -/
def place (p : Place) (pid : Nat) : Place := p ++ ["debug", fileName pid]

theorem reach_path (t : Tree) (cwd : Place) (dir : String) (pid : Nat) :
    t.reach cwd (path (TrialDirs.of dir).debug pid) =
      (t.reach cwd dir).bind fun p =>
        (t.walk p ["debug"]).bind fun q => t.walk q [fileName pid] := by
  have hdebug : TrialDirs.Plain "debug" := TrialDirs.plain_of_mem_partNames (by decide)
  show t.reach cwd (Path.join (Path.join dir "debug") (fileName pid)) = _
  rw [Tree.reach_join _ _ _ (isAbsolute_fileName pid), Tree.reach_join _ _ _ hdebug.relative,
    steps_fileName, hdebug.step]
  cases t.reach cwd dir <;> rfl

/-- Where a path to a record leads, and what has to be there on the way. -/
theorem reach_path_eq_ok {t : Tree} {cwd p q : Place} {dir : String} {pid : Nat}
    (hreach : t.reach cwd dir = .ok p) :
    t.reach cwd (path (TrialDirs.of dir).debug pid) = .ok q ↔
      q = place p pid ∧ t.get? p = some .directory ∧ t.get? (p ++ ["debug"]) = some .directory ∧
        Tree.IsName (fileName pid) := by
  have hdebug : Tree.IsName "debug" :=
    (TrialDirs.plain_of_mem_partNames (by decide)).toIsName
  rw [reach_path, hreach]
  show (t.walk p ["debug"]).bind (fun q => t.walk q [fileName pid]) = _ ↔ _
  constructor
  · intro h
    cases hwalk : t.walk p ["debug"] with
    | error e =>
      rw [hwalk] at h
      cases h
    | ok r =>
      obtain ⟨hp, rfl⟩ := Tree.walk_name_eq_ok hdebug hwalk
      rw [hwalk] at h
      have hname :=
        Tree.isName_of_walk (fileName_ne (by decide) pid) (fileName_ne (by decide) pid) h
      obtain ⟨hr, rfl⟩ := Tree.walk_name_eq_ok hname h
      exact ⟨by simp [place], hp, hr, hname⟩
  · rintro ⟨rfl, hp, hr, hname⟩
    rw [Tree.walk_name hdebug hp]
    show t.walk (p ++ ["debug"]) [fileName pid] = _
    rw [Tree.walk_name hname hr, place, List.append_assoc]
    rfl

theorem not_nul_path {dir : String} (h : '\x00' ∉ dir.toList) (pid : Nat) :
    '\x00' ∉ (path (TrialDirs.of dir).debug pid).toList :=
  Path.not_mem_join (by decide) (Path.not_mem_join (by decide) h (by decide))
    (not_mem_fileName (by decide) rfl pid)

theorem not_nul_of_path {dir : String} {pid : Nat}
    (h : '\x00' ∉ (path (TrialDirs.of dir).debug pid).toList) : '\x00' ∉ dir.toList :=
  fun hm => h (Path.mem_join (isAbsolute_fileName pid) (Path.mem_join (by decide) hm))

/-- A path to a record is refused only if it is too long. -/
theorem locate_path_iff {t : Tree} {cwd q : Place} {dir : String} {pid : Nat}
    (hnul : '\x00' ∉ dir.toList) :
    t.locate cwd (path (TrialDirs.of dir).debug pid) = .ok q ↔
      (path (TrialDirs.of dir).debug pid).utf8ByteSize < Tree.maxPath ∧
        t.reach cwd (path (TrialDirs.of dir).debug pid) = .ok q := by
  have hne : fileName pid ≠ "" := fileName_ne (by decide) pid
  have hslash : Path.endsInSlash (path (TrialDirs.of dir).debug pid) = false := by
    show Path.endsInSlash (Path.join _ (fileName pid)) = false
    rw [Path.endsInSlash_join hne]
    exact Path.endsInSlash_of_name (not_mem_fileName (by decide) rfl pid)
  have hfilled : path (TrialDirs.of dir).debug pid ≠ "" := Path.join_ne_empty hne
  rw [Tree.locate_eq_ok_iff, hslash]
  simp [hfilled, not_nul_path hnul pid]

/-! ### Reading -/

/-- What a look for a record comes to, by what is found at its path. -/
def told (path : String) : Option Entry → Except Failure (Option Failure)
  | none => .ok none
  | some .directory => .error (.io OsError.isDirectory.text)
  | some (.file content _) =>
    match content.read with
    | .error e => .error (.io e.text)
    | .ok text =>
      match Failure.read? text with
      | some f => .ok (some f)
      | none => .error (.parse ("error record " ++ path) "the text is no record")

theorem told_text (path text : String) (runnable : Bool) :
    told path (some (.file (.text text) runnable)) =
      match Failure.read? text with
      | some f => .ok (some f)
      | none => .error (.parse ("error record " ++ path) "the text is no record") := rfl

theorem told_pretty (path : String) (f : Failure) (runnable : Bool) :
    told path (some (.file (.text f.pretty) runnable)) = .ok (some f) := by
  rw [told_text, Failure.read?_pretty]

/-- A look for a record goes by what is found at its path, and changes nothing. -/
theorem read_eq (debugDir : String) (pid : Nat) (h : Host) :
    read debugDir pid h =
      (told (path debugDir pid) (h.tree.found? h.cwd (path debugDir pid)), h) := by
  have hsee : Work.see (·.exists? (path debugDir pid)) h =
      (.ok (h.tree.found? h.cwd (path debugDir pid)).isSome, h) := by
    rw [← Tree.exists?_eq]
    rfl
  unfold read
  rw [Work.bind_of_ok hsee]
  cases hfound : h.tree.found? h.cwd (path debugDir pid) with
  | none => rfl
  | some entry =>
    have hstat : h.tree.stat h.cwd (path debugDir pid) = .ok entry :=
      Tree.stat_eq_ok_iff.mpr (Tree.found?_eq_some_iff.mp hfound)
    have hlook : Work.look (·.readText · (path debugDir pid)) h =
        (Work.ofOs (h.tree.readText h.cwd (path debugDir pid)), h) := rfl
    show (Work.look (·.readText · (path debugDir pid)) >>= _) h = _
    rw [Work.bind_apply, hlook, Tree.readText, Tree.readContent, hstat]
    cases entry with
    | directory => rfl
    | file content runnable =>
      cases content with
      | raw bytes => rfl
      | text s =>
        show (match Failure.read? s with
          | some f => pure (some f)
          | none => throw (.parse ("error record " ++ path debugDir pid) "the text is no record") :
            Work (Option Failure)) h = _
        rw [told_text]
        cases Failure.read? s <;> rfl

/-! ### Records beside each other -/

theorem fileName_inj {pid other : Nat} (h : fileName pid = fileName other) : pid = other := by
  have hlists := congrArg String.toList h
  rw [toList_fileName, toList_fileName] at hlists
  exact Text.toDigits_inj (List.append_cancel_left (List.cons.inj hlists).2)

/-- Different processes have their records in different places. -/
theorem reach_ne {t : Tree} {cwd p q : Place} {debugDir : String} {pid other : Nat}
    (hne : pid ≠ other) (hp : t.reach cwd (path debugDir pid) = .ok p)
    (hq : t.reach cwd (path debugDir other) = .ok q) : p ≠ q := by
  have hinto : ∀ {pid p}, t.reach cwd (path debugDir pid) = .ok p →
      ∃ d, t.reach cwd debugDir = .ok d ∧ p = d ++ [fileName pid] := fun {pid _} h =>
    Tree.reach_join_eq_ok (isAbsolute_fileName pid) (steps_fileName pid)
      (fileName_ne (by decide) pid) (fileName_ne (by decide) pid) h
  obtain ⟨d, hd, rfl⟩ := hinto hp
  obtain ⟨d', hd', rfl⟩ := hinto hq
  obtain rfl : d = d' := Except.ok.inj (hd.symm.trans hd')
  intro heq
  exact hne (fileName_inj (List.singleton_inj.mp (List.append_cancel_left heq)))

/-- A record is put where its path leads, or is refused and changes nothing. -/
theorem write_cases (debugDir : String) (pid : Nat) (f : Failure) (h : Host) :
    (∃ e : OsError, write debugDir pid f h = (.error (.io e.text), h)) ∨
      ∃ t, h.tree.write h.cwd (path debugDir pid) (.text f.pretty) = .ok t ∧
        write debugDir pid f h = (.ok (), h.withTree t) :=
  Work.change_cases _ h

/-- A record changes nothing for the path of another process. -/
theorem write_other (debugDir : String) {pid other : Nat} (hne : pid ≠ other) (f : Failure)
    (h : Host) :
    let h' := (write debugDir other f h).2
    h'.cwd = h.cwd ∧ h'.tree.found? h'.cwd (path debugDir pid) =
      h.tree.found? h.cwd (path debugDir pid) := by
  rcases write_cases debugDir other f h with ⟨e, hrefused⟩ | ⟨t, hwrite, hdone⟩
  · rw [hrefused]
    exact ⟨rfl, rfl⟩
  · rw [hdone]
    unfold Host.withTree
    split
    · obtain ⟨q, r, hloc, hfree, rfl⟩ := Tree.write_eq_put hwrite
      refine ⟨rfl, Tree.found?_put_of_ne _ r hfree fun p hp => ?_⟩
      exact reach_ne hne hp (Tree.reach_of_locate hloc)
    · exact ⟨rfl, rfl⟩

/-- The host once records have been written one after another, each as far as it can be. -/
def recorded (debugDir : String) : List (Nat × Failure) → Host → Host
  | [], h => h
  | (pid, f) :: rest, h => recorded debugDir rest (write debugDir pid f h).2

theorem recorded_others {debugDir : String} {pid : Nat} {later : List (Nat × Failure)}
    (hothers : ∀ record ∈ later, record.1 ≠ pid) (h : Host) :
    let h' := recorded debugDir later h
    h'.cwd = h.cwd ∧ h'.tree.found? h'.cwd (path debugDir pid) =
      h.tree.found? h.cwd (path debugDir pid) := by
  induction later generalizing h with
  | nil => exact ⟨rfl, rfl⟩
  | cons record rest ih =>
    obtain ⟨other, f⟩ := record
    have hfirst := hothers (other, f) (List.mem_cons_self ..)
    have hwritten := write_other debugDir hfirst.symm f h
    rw [recorded]
    generalize (write debugDir other f h).2 = written at hwritten
    obtain ⟨hcwd, hentry⟩ := ih (fun r hr => hothers r (List.mem_cons_of_mem _ hr)) written
    exact ⟨hcwd.trans hwritten.1, hentry.trans hwritten.2⟩

/-- **A record is kept.** Whatever failure a process has recorded, its kind and all its
texts are read again by the number of that process. Records written under other numbers,
however many, in whatever order and with whatever success, change nothing about what is
read under this one. And a failure on one line stands for the same as one over several. -/
theorem record_kept (debugDir : String) (pid : Nat) (f : Failure) :
    (∀ h h', h.alive = true → write debugDir pid f h = (.ok (), h') →
      (read debugDir pid h').1 = .ok (some f)) ∧
    (∀ h later, (∀ record ∈ later, record.1 ≠ pid) →
      (read debugDir pid (recorded debugDir later h)).1 = (read debugDir pid h).1) ∧
    Failure.read? f.compact = some f ∧ Failure.read? f.compact = Failure.read? f.pretty := by
  refine ⟨fun h h' alive hwrite => ?_, fun h later hothers => ?_, f.read?_compact, ?_⟩
  · rcases write_cases debugDir pid f h with ⟨e, hrefused⟩ | ⟨t, ht, hdone⟩
    · rw [hrefused] at hwrite
      cases hwrite
    · rw [hdone] at hwrite
      cases hwrite
      obtain ⟨r, hentry⟩ := Tree.found?_of_write ht
      rw [Host.withTree_of_alive alive, read_eq, hentry, told_pretty]
  · rw [read_eq, read_eq, (recorded_others hothers h).2]
  · rw [f.read?_compact, f.read?_pretty]

/-- The record of process 1 stays, beside those of processes 10 and 11. -/
theorem record_kept_beside :
    let odd : Failure := .command "say \"\\\x00\n\"" (some (-1)) "\x1bé\u2028" ""
    let h : Host := ⟨Tree.empty.put ["d"] .directory, [], 7, 8, [], 0, none, "", ""⟩
    let written := write "/d" 1 odd h
    let later := [(11, odd), (10, .timeout ""), (11, .fail "\\")]
    written.1 = .ok () ∧ (read "/d" 1 (recorded "/d" later written.2)).1 = .ok (some odd) := by
  intro odd h written later
  obtain ⟨hread, hothers, -⟩ := record_kept "/d" 1 odd
  have hwritten : written.1 = .ok () := by decide +kernel
  have hpair : write "/d" 1 odd h = (.ok (), written.2) := by
    rw [← hwritten]
    exact (Prod.eta written).symm
  exact ⟨hwritten, (hothers written.2 later (by decide)).trans (hread h written.2 rfl hpair)⟩

end ErrorRecord
end DeviceLab
