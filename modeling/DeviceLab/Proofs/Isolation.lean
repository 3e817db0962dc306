import DeviceLab.CommandLine.Perform
import DeviceLab.Proofs.CommandLine
import DeviceLab.Proofs.Verdict

/-! Tests in processes of their own come to the same.

A detached test comes to the same wherever and as whatever process it runs, leaves
the directories of others in place and makes no error record. The child runs it in
its directory, named by its absolute path, and what it comes to there is handed on
by the record, whatever failure it is. The parent looks for that record by the path
it has been given itself, and takes one that it cannot name for none, so a failure
keeps its kind and its texts if and only if that path is short enough
(`isolated_result`). -/
namespace DeviceLab

/-- A test that does not look at the process it runs in. -/
structure TestCase.Detached (test : TestCase Host) : Prop where
  /-- What comes of it hangs on its parameters, its directory and the files. -/
  outcome : ∀ (p : Place) (params : List String) (h : Host) (cwd : Place) (pid nextPid clock : Nat),
    (test ⟨.of (Path.ofNames p), params⟩
        { h with cwd := cwd, pid := pid, nextPid := nextPid, clock := clock }).1 =
      (test ⟨.of (Path.ofNames p), params⟩ h).1
  /-- A process keeps its number. -/
  number : ∀ (ctx : Context) (h : Host), (test ctx h).2.pid = h.pid
  /-- Directories that are not its own stay. -/
  outside : ∀ (p : Place) (params : List String) (h : Host) (q : Place), ¬ p <+: q →
    h.tree.get? q = some .directory →
      (test ⟨.of (Path.ofNames p), params⟩ h).2.tree.get? q = some .directory
  /-- It makes no error record. -/
  records : ∀ (p : Place) (params : List String) (h : Host) (pid : Nat),
    h.tree.get? (ErrorRecord.place p pid) = none →
      (test ⟨.of (Path.ofNames p), params⟩ h).2.tree.get? (ErrorRecord.place p pid) = none

namespace Child
open Arguments.Progress (NoDash)

/-- The process can leave a record. -/
structure CanRecord (debugDir : String) (h : Host) : Prop where
  alive : h.alive = true
  writes : ∀ f : Failure, ∃ t,
    h.tree.write h.cwd (ErrorRecord.path debugDir h.pid) (.text f.pretty) = .ok t

theorem canRecord_of_target {debugDir : String} {h : Host} {p : Place} (alive : h.alive = true)
    (htarget : h.tree.target h.cwd (ErrorRecord.path debugDir h.pid) = .ok (p, .empty, false)) :
    CanRecord debugDir h :=
  ⟨alive, fun f => ⟨_, Tree.write_of_target htarget (.text f.pretty)⟩⟩

/-- The failure of a test whose child says nothing more than that it failed. -/
def bare (name : String) : Failure := .error ("test " ++ name ++ " failed rc=1")

theorem error_of_code_one (name : String) :
    Failure.error ("test " ++ name ++ " failed rc=" ++ toString 1) = bare name := by
  have hcode : " failed rc=" ++ toString 1 = " failed rc=1" := by decide
  rw [bare, String.append_assoc, hcode]

/-- What the parent makes of what a child has come to: it cannot tell a failure whose
record it does not find. -/
def handedOn (name : String) (found : Prop) [Decidable found] (r : Except Failure Unit) :
    Except Failure Unit :=
  if found then r else r.mapError fun _ => bare name

theorem handedOn_ok (name : String) (found : Prop) [Decidable found] :
    handedOn name found (.ok ()) = .ok () := by
  unfold handedOn
  split <;> rfl

theorem handedOn_eq_iff {name : String} {found : Prop} [Decidable found]
    {r : Except Failure Unit} :
    handedOn name found r = r ↔ found ∨ r = .ok () ∨ r = .error (bare name) := by
  by_cases hfound : found
  · simp [handedOn, hfound]
  · cases r with
    | ok u => simp [handedOn_ok name found]
    | error f => simp [handedOn, hfound, Except.mapError, eq_comm]

/-! ### The processes -/

/-- The host as its parent finds it when a child has ended. -/
def regained (parent child : Host) : Host :=
  { child with
    cwd := parent.cwd
    pid := parent.pid
    environment := parent.environment
    deadline := parent.deadline }

section
variable {catalog : Catalog Host} {config : Option String} {name dir : String}
  {params : List String} {h : Host} {c : Config}

theorem childOf_arguments
    (hof : CommandLine.of (arguments config ⟨name, params, .of dir⟩) =
      .ok ⟨config, .child dir name params⟩)
    (hload : Config.load config h = .ok c) :
    CommandLine.childOf catalog (arguments config ⟨name, params, .of dir⟩) h =
      (.ok ⟨.exited (main catalog name dir params h).1, .empty, .empty⟩,
        (main catalog name dir params h).2) := by
  unfold CommandLine.childOf CommandLine.main
  rw [hof]
  simp only [CommandLine.perform, CommandLine.doing, CommandLine.runChild, hload]

/-- The executor goes by how the child has ended and by its record. -/
theorem execute_eq {σ : Type}
    (hof : CommandLine.of (arguments config ⟨name, params, .of dir⟩) =
      .ok ⟨config, .child dir name params⟩)
    (hstart : Program.refusedArgument (arguments config ⟨name, params, .of dir⟩) = none)
    (hload : Config.load config (Program.started none h) = .ok c) (s : σ) :
    ((executor (CommandLine.childOf catalog) none config).execute ⟨name, params, .of dir⟩
        (s, h)).1 =
      (verdict ⟨name, params, .of dir⟩ 0 h.nextPid
        (.exited (main catalog name dir params (Program.started none h)).1)
        (regained h (main catalog name dir params (Program.started none h)).2)).1 := by
  have hspawn : (CommandLine.childOf catalog).spawn (arguments config ⟨name, params, .of dir⟩)
        none h =
      (.ok (⟨.exited (main catalog name dir params (Program.started none h)).1, .empty, .empty⟩,
          h.nextPid),
        regained h (main catalog name dir params (Program.started none h)).2) := by
    unfold Program.spawn
    rw [hstart, childOf_arguments hof hload]
    rfl
  simp only [executor, WorkWith.host_result, Option.map_none, Option.getD_none, hspawn]

end

/-! ### The directory of the test -/

/-- A directory that has been made for a test, with nothing in it yet. -/
structure Ready (dir : String) (h : Host) (p : Place) : Prop where
  sound : h.tree.Sound
  named : Tree.Named p
  located : h.tree.locate h.cwd dir = .ok p
  there : h.tree.get? p = some .directory
  /-- The way to it does not go through itself. -/
  way : ∀ t : Tree, (∀ q, ¬ p <+: q → h.tree.get? q = some .directory →
    t.get? q = some .directory) → t.reach h.cwd dir = .ok p
  blank : ∀ pid, h.tree.get? (ErrorRecord.place p pid) = none

theorem ready_of_made {resultDir dir : String} {h₀ h : Host} {t : Tree} {p : Place}
    (made : TrialDirs.Made resultDir dir h₀ h t p) (sound : h₀.tree.Sound)
    (hcwd : Tree.Named h₀.cwd) : Ready dir h p := by
  have hsound : t.Sound := sound.makeDirectories made.results
  have hreach := Tree.reach_of_locate made.located
  have hext : t.Extends (TrialDirs.laidOut t p) :=
    (TrialDirs.laidOut_alike t p).extends fun q => hsound.absent_below made.absent
  have hthere : (TrialDirs.laidOut t p).get? p = some .directory :=
    TrialDirs.laidOut_self t (Tree.ne_nil_of_absent made.absent)
  obtain rfl := made.after
  refine ⟨?_, Tree.named_of_reach hcwd hreach, ?_, hthere, fun u hu => ?_, fun pid => ?_⟩
  · exact TrialDirs.laidOut_sound hsound made.absent made.parent
  · exact Tree.locate_of_directories (fun q hq => hext q _ hq) made.located (by simp [hthere])
  · refine Tree.reach_of_directories (fun q hq => hu q ?_ (hext q _ hq)) hreach
    exact hsound.not_below made.absent hq
  · exact TrialDirs.laidOut_deep hsound made.absent "debug" _

/-- Where a record can be written by the absolute path, the directory can be located by it. -/
theorem Ready.locate_absolute {dir : String} {h : Host} {p : Place} (ready : Ready dir h p)
    {cwd q : Place} {pid : Nat} {t : Tree}
    (hloc : t.locate cwd (ErrorRecord.path (TrialDirs.of (Path.ofNames p)).debug pid) = .ok q) :
    h.tree.locate h.cwd (Path.ofNames p) = .ok p := by
  obtain ⟨hnul, -, hshort, -, -⟩ := Tree.locate_eq_ok_iff.mp hloc
  have hpath : '\x00' ∉ (ErrorRecord.path (TrialDirs.of (Path.ofNames p)).debug pid).toList := by
    simpa using hnul
  have hclean := ErrorRecord.not_nul_of_path hpath
  have hsize : (Path.ofNames p).utf8ByteSize < Tree.maxPath := by
    refine Nat.lt_of_le_of_lt ?_ hshort
    show _ ≤
      (Path.join (Path.join (Path.ofNames p) "debug") (ErrorRecord.fileName pid)).utf8ByteSize
    rw [Path.utf8ByteSize_join (ErrorRecord.isAbsolute_fileName pid)
        (Path.join_ne_empty (by decide)),
      Path.utf8ByteSize_join (by decide) (Path.ofNames_ne_empty p)]
    omega
  refine Tree.locate_eq_ok_iff.mpr ⟨by simpa using hclean, Path.ofNames_ne_empty p, hsize,
    ready.sound.reach_ofNames ready.named ready.there h.cwd, fun _ => ?_⟩
  simp [ready.there]

/-! ### The child -/

theorem started_eq (h : Host) (cwd : Place) :
    { Program.started none h with cwd := cwd } =
      { h with
        cwd := cwd, pid := h.nextPid, nextPid := h.nextPid + 1,
        clock := h.clock + Program.startup } := by
  cases h with
  | mk tree cwd pid nextPid environment clock deadline out err => cases deadline <;> rfl

/-- What the body of a detached test leaves in a child. -/
structure Ran (h : Host) (p : Place) (child : Host) : Prop where
  number : child.pid = h.nextPid
  outside : ∀ q, ¬ p <+: q → h.tree.get? q = some .directory → child.tree.get? q = some .directory
  blank : child.tree.get? (ErrorRecord.place p h.nextPid) = none

section
variable {catalog : Catalog Host} {name dir : String} {params : List String} {h : Host} {p : Place}

/-- A child that could leave a record gets as far as the test. -/
theorem body_of_test (ready : Ready dir h p) {test : TestCase Host}
    (hcreate : catalog.create name = .ok test)
    (hrecord : CanRecord (TrialDirs.of (Path.ofNames p)).debug
      (body catalog name (.of (Path.ofNames p)) params (Program.started none h)).2) :
    body catalog name (.of (Path.ofNames p)) params (Program.started none h) =
      test.run name ⟨.of (Path.ofNames p), params⟩ { Program.started none h with cwd := p } := by
  cases hloc : h.tree.locate h.cwd (Path.ofNames p) with
  | ok place =>
    obtain rfl := Tree.reach_ofNames_eq_ok ready.named (Tree.reach_of_locate hloc)
    have hfound : (Program.started none h).tree.locate (Program.started none h).cwd
      (TrialDirs.of (Path.ofNames place)).dir = .ok place := hloc
    simp [body, hcreate, hfound]
  | error e =>
    -- A path too long to work in is too long for a record too.
    have hlost : (Program.started none h).tree.locate (Program.started none h).cwd
      (TrialDirs.of (Path.ofNames p)).dir = .error e := hloc
    have hfailed : body catalog name (.of (Path.ofNames p)) params (Program.started none h) =
        (.error (.io e.text), Program.started none h) := by
      simp [body, hcreate, hlost]
    rw [hfailed] at hrecord
    obtain ⟨t, ht⟩ := hrecord.writes default
    obtain ⟨q, r, hq, -⟩ := Tree.write_eq_put ht
    rw [ready.locate_absolute hq] at hloc
    cases hloc

/-- In the child the test comes to what it comes to in the process itself. -/
theorem body_ran {σ : Type} (ready : Ready dir h p)
    (detached : ∀ test, catalog.create name = .ok test → test.Detached)
    (hrecord : CanRecord (TrialDirs.of (Path.ofNames p)).debug
      (body catalog name (.of (Path.ofNames p)) params (Program.started none h)).2) (s : σ) :
    (body catalog name (.of (Path.ofNames p)) params (Program.started none h)).1 =
        ((Executor.inProcess catalog).execute ⟨name, params, .of (Path.ofNames p)⟩ (s, h)).1 ∧
      Ran h p (body catalog name (.of (Path.ofNames p)) params (Program.started none h)).2 := by
  cases hcreate : catalog.create name with
  | error f =>
    have hbody : body catalog name (.of (Path.ofNames p)) params (Program.started none h) =
        (.error f, Program.started none h) := by
      simp [body, hcreate]
    rw [hbody]
    refine ⟨?_, rfl, fun q _ hq => hq, ready.blank _⟩
    simp [Executor.inProcess, WorkWith.host, hcreate]
  | ok test =>
    have htest := detached test hcreate
    have hsame := htest.outcome p params h p h.nextPid (h.nextPid + 1) (h.clock + Program.startup)
    have hinside : ((Executor.inProcess catalog).execute
          ⟨name, params, .of (Path.ofNames p)⟩ (s, h)).1 =
        (test ⟨.of (Path.ofNames p), params⟩ h).1.mapError (TestCase.failureOf name) := by
      simp only [Executor.inProcess, WorkWith.host, hcreate]
      rfl
    rw [body_of_test ready hcreate hrecord, started_eq]
    refine ⟨?_, htest.number _ _, fun q hq hdir => htest.outside p params _ q hq hdir,
      htest.records p params _ _ (ready.blank _)⟩
    rw [hinside, ← hsame]
    rfl

/-- The record of a child, seen by its parent along its own path. -/
theorem Ready.reach_record (ready : Ready dir h p) {t : Tree} {pid : Nat}
    (houtside : ∀ q, ¬ p <+: q → h.tree.get? q = some .directory → t.get? q = some .directory)
    {q : Place} :
    t.reach h.cwd (ErrorRecord.path (TrialDirs.of dir).debug pid) = .ok q ↔
      q = ErrorRecord.place p pid ∧ t.get? p = some .directory ∧
        t.get? (p ++ ["debug"]) = some .directory ∧ Tree.IsName (ErrorRecord.fileName pid) :=
  ErrorRecord.reach_path_eq_ok (ready.way t houtside)

/-- A child that writes its record puts it where its parent looks for it. -/
theorem write_record (ready : Ready dir h p) {child : Host} (ran : Ran h p child) {f : Failure}
    {t : Tree} (hwrite : child.tree.write child.cwd
      (ErrorRecord.path (TrialDirs.of (Path.ofNames p)).debug child.pid) (.text f.pretty) = .ok t) :
    t.reach h.cwd (ErrorRecord.path (TrialDirs.of dir).debug h.nextPid) =
        .ok (ErrorRecord.place p h.nextPid) ∧
      ∃ r, t.get? (ErrorRecord.place p h.nextPid) = some (.file (.text f.pretty) r) := by
  obtain ⟨q, r, hloc, hfree, rfl⟩ := Tree.write_eq_put hwrite
  rw [ran.number] at hloc
  have hreach := Tree.reach_of_locate hloc
  obtain ⟨p', hp'⟩ : ∃ p', child.tree.reach child.cwd (Path.ofNames p) = .ok p' := by
    rw [ErrorRecord.reach_path] at hreach
    cases hp : child.tree.reach child.cwd (Path.ofNames p) with
    | ok p' => exact ⟨p', rfl⟩
    | error e =>
      rw [hp] at hreach
      cases hreach
  obtain rfl := Tree.reach_ofNames_eq_ok ready.named hp'
  obtain ⟨rfl, hdir, hdebug, hname⟩ := (ErrorRecord.reach_path_eq_ok hp').mp hreach
  have hkeep : ∀ x, child.tree.get? x = some .directory →
      (child.tree.put (ErrorRecord.place p' h.nextPid) (.file (.text f.pretty) r)).get? x =
        some .directory :=
    fun x => Tree.directory_put _ hfree
  refine ⟨?_, r, Tree.get?_put_self _ (by simp [ErrorRecord.place]) _⟩
  exact (ready.reach_record fun x hx hd => hkeep x (ran.outside x hx hd)).mpr
    ⟨rfl, hkeep _ hdir, hkeep _ hdebug, hname⟩

/-- The child opens its directory again and runs the test there. -/
theorem main_eq (ready : Ready dir h p) :
    main catalog name dir params (Program.started none h) =
      let ran := body catalog name (.of (Path.ofNames p)) params (Program.started none h)
      match ran.1 with
      | .ok _ => (0, ran.2)
      | .error f => leave (.of (Path.ofNames p)) f ran.2 := by
  have hopen :=
    TrialDirs.reopen_of_directory (h := Program.started none h) ready.located ready.there
  simp only [main, hopen]
  rcases body catalog name (.of (Path.ofNames p)) params (Program.started none h)
    with ⟨f | u, child⟩
  · rfl
  · rfl

theorem leave_eq (dirs : TrialDirs) {f : Failure} {child : Host} {t : Tree}
    (alive : child.alive = true)
    (hwrite : child.tree.write child.cwd (ErrorRecord.path dirs.debug child.pid)
      (.text f.pretty) = .ok t) :
    leave dirs f child = (1, { child with tree := t }) := by
  have hchange : ErrorRecord.write dirs.debug child.pid f child = (.ok (), child.withTree t) :=
    Work.change_of_ok hwrite
  rw [leave, hchange, Host.withTree_of_alive alive]

/-! ### The parent -/

/-- A child that has passed leaves no record. -/
theorem verdict_of_passed (ready : Ready dir h p) {child : Host} (ran : Ran h p child) :
    (verdict ⟨name, params, .of dir⟩ 0 h.nextPid (.exited 0) (regained h child)).1 = .ok () := by
  have hnone : (regained h child).tree.found? (regained h child).cwd
      (ErrorRecord.path (TrialDirs.of dir).debug h.nextPid) = none := by
    refine Tree.found?_eq_none fun q hloc => ?_
    obtain ⟨rfl, -⟩ := (ready.reach_record ran.outside).mp (Tree.reach_of_locate hloc)
    exact ran.blank
  rw [verdict_eq, hnone]
  rfl

/-- The parent goes by the record of a child that has failed, if it can name it. -/
theorem verdict_of_failed (ready : Ready dir h p) {child : Host} (ran : Ran h p child)
    {f : Failure} {t : Tree} (hwrite : child.tree.write child.cwd
      (ErrorRecord.path (TrialDirs.of (Path.ofNames p)).debug child.pid) (.text f.pretty) = .ok t) :
    (verdict ⟨name, params, .of dir⟩ 0 h.nextPid (.exited 1)
        (regained h { child with tree := t })).1 =
      handedOn name
        ((ErrorRecord.path (TrialDirs.of dir).debug h.nextPid).utf8ByteSize < Tree.maxPath)
        (.error f) := by
  obtain ⟨hreach, r, hfile⟩ := write_record ready ran hwrite
  have hclean : '\x00' ∉ dir.toList := by
    simpa using (Tree.locate_eq_ok_iff.mp ready.located).1
  have hentry : (regained h { child with tree := t }).tree.found?
        (regained h { child with tree := t }).cwd
        (ErrorRecord.path (TrialDirs.of dir).debug h.nextPid) =
      if (ErrorRecord.path (TrialDirs.of dir).debug h.nextPid).utf8ByteSize < Tree.maxPath then
        some (.file (.text f.pretty) r)
      else none := by
    rw [ErrorRecord.found?_path hclean]
    show (if _ then t.there? h.cwd _ else none) = _
    rw [Tree.there?, hreach, ← hfile]
    rfl
  rw [verdict_eq, hentry]
  by_cases hshort :
    (ErrorRecord.path (TrialDirs.of dir).debug h.nextPid).utf8ByteSize < Tree.maxPath
  · simp only [handedOn, if_pos hshort]
    exact judged_of_record (by decide) (ErrorRecord.told_pretty _ f r)
  · simp only [handedOn, if_neg hshort]
    exact congrArg Except.error (error_of_code_one name)

end

section
variable {catalog : Catalog Host} {config : Option String} {name dir : String}
  {params : List String} {h : Host} {p : Place} {c : Config}

/-- The executor hands on what the test comes to in the process itself. -/
theorem execute_of_ready {σ : Type} (ready : Ready dir h p)
    (detached : ∀ test, catalog.create name = .ok test → test.Detached)
    (hof : CommandLine.of (arguments config ⟨name, params, .of dir⟩) =
      .ok ⟨config, .child dir name params⟩)
    (hstart : Program.refusedArgument (arguments config ⟨name, params, .of dir⟩) = none)
    (hload : Config.load config (Program.started none h) = .ok c)
    (hrecord : CanRecord (TrialDirs.of (Path.ofNames p)).debug
      (body catalog name (.of (Path.ofNames p)) params (Program.started none h)).2) (s : σ) :
    ((executor (CommandLine.childOf catalog) none config).execute ⟨name, params, .of dir⟩
        (s, h)).1 =
      handedOn name
        ((ErrorRecord.path (TrialDirs.of dir).debug h.nextPid).utf8ByteSize < Tree.maxPath)
        ((Executor.inProcess catalog).execute ⟨name, params, .of (Path.ofNames p)⟩ (s, h)).1 := by
  obtain ⟨hsame, ran⟩ := body_ran ready detached hrecord s
  rw [execute_eq hof hstart hload s, ← hsame]
  cases hbody : (body catalog name (.of (Path.ofNames p)) params (Program.started none h)).1 with
  | ok u =>
    simp only [main_eq ready, hbody]
    rw [handedOn_ok]
    exact verdict_of_passed ready ran
  | error f =>
    obtain ⟨t, hwrite⟩ := hrecord.writes f
    simp only [main_eq ready, hbody, leave_eq _ hrecord.alive hwrite]
    exact verdict_of_failed ready ran hwrite

end

/-- A configuration is not loaded from nowhere. -/
theorem config_ne_empty {path : String} {h : Host} {c : Config}
    (hload : Config.load (some path) h = .ok c) : path ≠ "" := by
  rintro rfl
  simp [Config.load, Config.ofFile, Tree.readText, Tree.readContent, Tree.stat, Tree.locate,
    Tree.trace, bind, Except.bind] at hload

/-- **Isolation**: a child comes to what the test comes to in the process itself, in
the same directory by its absolute path; it passes if that passes, and fails with the
same failure, whatever its kind and its texts, a panic included. This holds as long as
the path by which the parent looks for the record is short enough to be looked up.
Where it is not, the failure that the child has recorded is lost: the two agree on
nothing but a pass, or a failure that says nothing more. -/
theorem isolated_result {σ : Type} {catalog : Catalog Host} {config : Option String}
    {name : String} {params : List String} {resultDir dirName : String} {dirs : TrialDirs}
    {h₀ h : Host} {p : Place} {c : Config} (sound : h₀.tree.Sound) (hcwd : Tree.Named h₀.cwd)
    (hmade : TrialDirs.create resultDir dirName h₀ = (.ok dirs, h))
    (hplace : h.tree.locate h.cwd dirs.dir = .ok p)
    (detached : ∀ test, catalog.create name = .ok test → test.Detached)
    (hname : NoDash name) (hdir : NoDash dirs.dir) (hconfig : ∀ path ∈ config, NoDash path)
    (hstart : Program.refusedArgument (arguments config ⟨name, params, dirs⟩) = none)
    (hload : Config.load config (Program.started none h) = .ok c)
    (hrecord : CanRecord (TrialDirs.of (Path.ofNames p)).debug
      (body catalog name (.of (Path.ofNames p)) params (Program.started none h)).2) (s : σ) :
    let outside := ((executor (CommandLine.childOf catalog) none config).execute
      ⟨name, params, dirs⟩ (s, h)).1
    let inside := fun dirs => ((Executor.inProcess catalog).execute ⟨name, params, dirs⟩ (s, h)).1
    let found := (ErrorRecord.path dirs.debug h.nextPid).utf8ByteSize < Tree.maxPath
    outside = handedOn name found (inside (.of (Path.ofNames p))) ∧
      (inside (.of (Path.ofNames p)) = inside dirs →
        (outside = inside dirs ↔
          found ∨ inside dirs = .ok () ∨ inside dirs = .error (bare name))) := by
  obtain ⟨rfl, t, p', made⟩ := TrialDirs.create_eq_ok hmade
  have ready := ready_of_made made sound hcwd
  obtain rfl : p' = p := Except.ok.inj (ready.located.symm.trans hplace)
  have hof : CommandLine.of (arguments config
        ⟨name, params, .of (Path.join resultDir dirName)⟩) =
      .ok ⟨config, .child (Path.join resultDir dirName) name params⟩ := by
    refine CommandLine.of_arguments (fun path hpath => ⟨hconfig path hpath, ?_⟩) hdir
      (Tree.locate_eq_ok_iff.mp ready.located).2.1 hname
    rw [Option.mem_def.mp hpath] at hload
    exact config_ne_empty hload
  have hresult := execute_of_ready ready detached hof hstart hload hrecord s
  refine ⟨hresult, fun halike => ?_⟩
  dsimp only at halike ⊢
  rw [hresult, halike]
  exact handedOn_eq_iff

/-- A panic with a parameter that looks like a switch, in a directory of a relative path. -/
theorem isolated_panic :
    let catalog : Catalog Host :=
      Catalog.empty.register "panics" fun ctx => throw (.panicked ctx.params.head?)
    let h₀ : Host := ⟨Tree.empty.put ["w"] .directory, ["w"], 7, 8, [], 0, none, "", ""⟩
    let made := TrialDirs.create "r" "t" h₀
    made.1 = .ok (.of "r/t") ∧
      ((executor (CommandLine.childOf catalog) none none).execute
        ⟨"panics", ["--", "-x", ""], .of "r/t"⟩ ((), made.2)).1 =
          .error (.unhandled "running test panics: --") := by
  intro catalog h₀ made
  have hfirst : made.1 = .ok (.of "r/t") := by decide +kernel
  have hmade : TrialDirs.create "r" "t" h₀ = (.ok (.of "r/t"), made.2) := by
    rw [← hfirst]
    exact (Prod.eta made).symm
  have hsound : h₀.tree.Sound := Tree.sound_empty.put (by decide) (by decide)
  have hcwd : Tree.Named h₀.cwd := by
    intro name hn
    obtain rfl := List.mem_singleton.mp hn
    exact TrialDirs.plain_of_step (by decide) (by decide) ⟨by decide, by decide, by decide⟩
  have hplace : made.2.tree.locate made.2.cwd "r/t" = .ok ["w", "r", "t"] := by decide +kernel
  have detached : ∀ test, catalog.create "panics" = .ok test → test.Detached := by
    intro test htest
    cases htest
    exact ⟨fun _ _ _ _ _ _ _ => rfl, fun _ _ => rfl, fun _ _ _ _ _ h => h, fun _ _ _ _ h => h⟩
  have hload : Config.load none (Program.started none made.2) = .ok .standard := by decide +kernel
  have hstart : Program.refusedArgument (arguments none ⟨"panics", ["--", "-x", ""], .of "r/t"⟩) =
      none := by decide +kernel
  have hbody : ∀ c : Host,
      c.tree.locate c.cwd (Path.ofNames ["w", "r", "t"]) = .ok ["w", "r", "t"] →
      (body catalog "panics" (.of (Path.ofNames ["w", "r", "t"])) ["--", "-x", ""] c).2 =
        { c with cwd := ["w", "r", "t"] } := by
    intro c hc
    have hlocate : c.tree.locate c.cwd (TrialDirs.of (Path.ofNames ["w", "r", "t"])).dir =
      .ok ["w", "r", "t"] := hc
    simp only [body, hlocate]
    rfl
  have hrecord : CanRecord (TrialDirs.of (Path.ofNames ["w", "r", "t"])).debug
      (body catalog "panics" (.of (Path.ofNames ["w", "r", "t"])) ["--", "-x", ""]
        (Program.started none made.2)).2 := by
    rw [hbody _ (by decide +kernel)]
    exact canRecord_of_target (p := ["w", "r", "t", "debug", "error-8"]) (by decide +kernel)
      (by decide +kernel)
  have hboth := isolated_result hsound hcwd hmade hplace detached (by decide) (by decide) (by simp)
    hstart hload hrecord ()
  exact ⟨hfirst, hboth.1.trans (by decide +kernel)⟩

end Child
end DeviceLab
