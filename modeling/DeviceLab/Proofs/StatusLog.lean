import DeviceLab.Proofs.Results

/-! What the status log tells.

Every test that has an outcome adds its line to the log, in the order of the
tests. The line tells what it should only if the name of the test's directory
fits on a line between two tabs and is a single step of a path; and no line can
be added while a directory stands in the place of the log (`status_log_iff`). -/
namespace DeviceLab

namespace Executor
variable {σ : Type}

/-- The executor leaves the process, the directories around that of its test and
the status log alone. It may remove a directory that stands in the place of the log. -/
def Sparing (e : Executor σ) (log : Place) : Prop :=
  ∀ (name : String) (params : List String) (dir : String) (s : σ) (h : Host) (p : Place),
    h.tree.Sound → h.tree.locate h.cwd dir = .ok p → h.tree.get? p = some .directory →
    let h' := (e.execute ⟨name, params, .of dir⟩ (s, h)).2.2
    h'.cwd = h.cwd ∧ h'.deadline = h.deadline ∧ h'.tree.Sound ∧
      (∀ q, ¬ p <+: q → h.tree.get? q = some .directory → h'.tree.get? q = some .directory) ∧
      (h'.tree.get? log = h.tree.get? log ∨
        h.tree.get? log = some .directory ∧ h'.tree.get? log = none)

theorem noting_sparing (place : Place) :
    (noting : Executor σ).Sparing (place ++ ["status.log"]) := by
  intro name params dir s h p sound hlocated _
  rw [noting_after]
  dsimp only
  obtain ⟨hcwd, hsound, halike⟩ :=
    Context.record_alike params [("name", name)] sound (Tree.reach_of_locate hlocated)
  have hsame : ∀ q, ¬ p <+: q → _ := fun q hq => halike q fun h => hq (h ▸ List.prefix_append ..)
  refine ⟨hcwd, ?_, hsound, fun q hq hdir => (hsame q hq).trans hdir, .inl (halike _ fun h => ?_)⟩
  · rw [Context.record, Work.change_host]
  · rw [List.append_cons p "results" ["keyval"]] at h
    have := (List.append_inj' h rfl).2
    simp at this

end Executor

namespace Job
variable {σ : Type}

/-! ### Lines -/

/-- The line, ended by its only newline, splits at its first two tabs into these parts. -/
def Tells (line code name message : String) : Prop :=
  ∃ body rest, line = body ++ "\n" ∧ '\n' ∉ body.toList ∧
    Text.splitOnce '\t' body = some (code, rest) ∧ Text.splitOnce '\t' rest = some (name, message)

/-- The message of a status on one line. -/
def joined (s : Status) : String :=
  Text.join " " (Text.lines s.message)

theorem not_newline_joined (s : Status) : '\n' ∉ (joined s).toList :=
  Text.not_mem_join (by decide) fun _ => Text.not_newline_of_mem_lines

/-- A line of the log tells the name it was made with, and that only if neither a
tab nor a newline is in the name. -/
theorem tells_logLine_iff (dirName name : String) (s : Status) :
    Tells (logLine dirName s) s.verdict.name name (joined s) ↔
      name = dirName ∧ '\t' ∉ dirName.toList ∧ '\n' ∉ dirName.toList := by
  obtain ⟨body, hbody⟩ : ∃ body : String,
      body = s.verdict.name ++ "\t" ++ dirName ++ "\t" ++ joined s := ⟨_, rfl⟩
  have hlist : body.toList =
      s.verdict.name.toList ++ '\t' :: (dirName.toList ++ '\t' :: (joined s).toList) := by
    simp [hbody, String.toList_append]
  have hline : logLine dirName s = body ++ "\n" := by rw [hbody, logLine, joined]
  have hcode : '\t' ∉ s.verdict.name.toList ∧ '\n' ∉ s.verdict.name.toList := by
    cases s.verdict <;> decide
  have hnewline : '\n' ∉ body.toList ↔ '\n' ∉ dirName.toList := by
    simp [hlist, hcode.2, not_newline_joined]
  constructor
  · rintro ⟨body', rest, heq, hno, hfirst, hsecond⟩
    obtain rfl : body = body' := by
      rw [hline] at heq
      have := congrArg String.toList heq
      rw [String.toList_append, String.toList_append] at this
      exact String.toList_inj.mp (List.append_cancel_right this)
    obtain ⟨hsplit, -⟩ := Text.splitOnce_eq_some_iff.mp hfirst
    obtain ⟨hrest, htab⟩ := Text.splitOnce_eq_some_iff.mp hsecond
    rw [hlist] at hsplit
    have htail := List.append_cancel_left hsplit
    rw [List.cons.injEq, hrest] at htail
    have hname : dirName = name := String.toList_inj.mp (List.append_cancel_right htail.2)
    exact ⟨hname.symm, hname ▸ htab, hnewline.mp hno⟩
  · rintro ⟨rfl, htab, hno⟩
    refine ⟨body, name ++ "\t" ++ joined s, hline, hnewline.mpr hno, ?_, ?_⟩
    · refine Text.splitOnce_eq_some_iff.mpr ⟨?_, hcode.1⟩
      simp [hlist, String.toList_append]
    · refine Text.splitOnce_eq_some_iff.mpr ⟨?_, htab⟩
      simp [String.toList_append]

/-! ### A test that was finished -/

/-- A test was executed and its status written: what it finds where its line is to
be logged, and what becomes of its turn then. -/
structure Closing (place : Place) (turn : Turn σ) (p : Place) (result : Except Failure Unit)
    (h : Host) : Prop where
  made : ∃ h₁, TrialDirs.Made turn.before.1.resultDir
    (Path.join turn.before.1.resultDir turn.dirName) turn.before.2 h₁ turn.before.2.tree p
  cwd : h.cwd = turn.before.2.cwd
  deadline : h.deadline = turn.before.2.deadline
  sound : h.tree.Sound
  directories : ∀ q, turn.before.2.tree.get? q = some .directory → h.tree.get? q = some .directory
  log : p ≠ logPlace place → h.tree.get? (logPlace place) = turn.before.2.tree.get? (logPlace place)
  own : p = logPlace place →
    h.tree.get? (logPlace place) = some .directory ∨ h.tree.get? (logPlace place) = none
  resultDir : turn.after.1.resultDir = turn.before.1.resultDir
  after : turn.after.2 = (Work.change (·.append · (statusLog turn.before.1.resultDir)
    (logLine turn.dirName (Status.ofResult result))) h).2
  ended : ∃ span, turn.ended = (Work.change (·.append · (statusLog turn.before.1.resultDir)
    (logLine turn.dirName (Status.ofResult result))) h).1.map fun _ =>
      outcomeOf turn.spec (.of (Path.join turn.before.1.resultDir turn.dirName)) result span

theorem executed_spared {e : Executor σ} {place : Place} (sparing : e.Sparing (logPlace place))
    {s : Job σ × Host} (settled : Settled place s) (spec : Spec) (job : Job σ) {dir : String}
    {h₁ : Host} {p : Place} (made : TrialDirs.Made s.1.resultDir dir s.2 h₁ s.2.tree p) :
    let h := (executed e spec job (.of dir) h₁).2.2
    h.cwd = s.2.cwd ∧ h.deadline = s.2.deadline ∧ h.tree.Sound ∧
      (∀ q, s.2.tree.get? q = some .directory → h.tree.get? q = some .directory) ∧
      (p ≠ logPlace place → h.tree.get? (logPlace place) = s.2.tree.get? (logPlace place)) ∧
      (p = logPlace place →
        h.tree.get? (logPlace place) = some .directory ∨ h.tree.get? (logPlace place) = none) := by
  have hhost : h₁.cwd = s.2.cwd ∧ h₁.deadline = s.2.deadline := by
    rw [made.after]
    exact ⟨rfl, rfl⟩
  obtain ⟨hcwd, hdeadline, hsound, hdirs, hlog⟩ := sparing spec.name spec.args dir job.executor h₁ p
    (made.sound settled.sound) (made.located_after settled.sound) made.directory
  rw [executed, Executor.run_eq]
  revert hcwd hdeadline hsound hdirs hlog
  dsimp only
  generalize e.execute ⟨spec.name, spec.args, .of dir⟩ (job.executor, h₁) = done
  intro hcwd hdeadline hsound hdirs hlog
  -- What was there before lies outside of the new directory.
  have hout : ∀ q, s.2.tree.get? q = some .directory → ¬ p <+: q :=
    fun q => settled.sound.not_below made.absent
  have hkeep : ∀ q, s.2.tree.get? q = some .directory → done.2.2.tree.get? q = some .directory :=
    fun q hq => hdirs q (hout q hq) (made.extends settled.sound q _ hq)
  have hreach : done.2.2.tree.reach done.2.2.cwd dir = .ok p := by
    rw [hcwd, hhost.1]
    exact Tree.reach_of_directories hkeep (Tree.reach_of_locate made.located)
  obtain ⟨hw, hwsound, hwalike⟩ := Status.write_alike (Status.ofResult done.1) hsound hreach
  have hwdeadline :
      ((Status.ofResult done.1).write dir done.2.2).2.deadline = done.2.2.deadline := by
    rw [Status.write, Work.change_host]
  have hwlog := hwalike (logPlace place) fun h => by
    have := (List.append_inj' h rfl).2
    simp at this
  refine ⟨hw.trans (hcwd.trans hhost.1), hwdeadline.trans (hdeadline.trans hhost.2), hwsound,
    fun q hq => ?_, fun hne => ?_, fun heq => ?_⟩
  · refine (hwalike q ?_).trans (hkeep q hq)
    rintro rfl
    exact hout _ hq (List.prefix_append ..)
  · have hpre : ¬ p <+: logPlace place := fun hpre =>
      settled.log_not_below made.absent ⟨hpre, Ne.symm hne⟩
    refine hwlog.trans (Eq.trans ?_ (made.alike _ hpre))
    rcases hlog with h | ⟨hdir, hnone⟩
    · exact h
    · rw [hdirs _ hpre hdir] at hnone
      cases hnone
  · have hdir : h₁.tree.get? (logPlace place) = some .directory := heq ▸ made.directory
    rcases hlog with h | ⟨-, hnone⟩
    · exact .inl (hwlog.trans (h.trans hdir))
    · exact .inr (hwlog.trans hnone)

/-- A test with a directory is finished. -/
theorem take_closing {e : Executor σ} {place : Place} (sparing : e.Sparing (logPlace place))
    (spec : Spec) {s : Job σ × Host} (settled : Settled place s) {dirs : TrialDirs} {h₁ : Host}
    (hc : TrialDirs.create s.1.resultDir (Turn.take e spec s).dirName s.2 = (.ok dirs, h₁)) :
    ∃ p result h, Closing place (Turn.take e spec s) p result h := by
  obtain ⟨job, h⟩ := s
  change TrialDirs.create job.resultDir (job.nextName h spec) h = _ at hc
  obtain ⟨rfl, p, made⟩ := settled.made hc
  obtain ⟨hcwd, hdeadline, hsound, hdirs, hlog, hown⟩ :=
    executed_spared sparing settled spec (job.named h spec) made
  have hrun := runTest_of_created e hc
  dsimp only at made hcwd hdeadline hsound hdirs hlog hown hrun
  revert hcwd hdeadline hsound hdirs hlog hown hrun
  generalize executed e spec (job.named h spec) _ h₁ = done
  intro hcwd hdeadline hsound hdirs hlog hown hrun
  refine ⟨p, done.1, done.2.2, ?_⟩
  simp only [Turn.take, hrun]
  exact ⟨⟨h₁, made⟩, hcwd, hdeadline, hsound, hdirs, hlog, hown, rfl, rfl, _, rfl⟩

/-! ### What a turn adds to the log -/

/-- What the log holds; a log that is not there holds nothing. -/
def logged (place : Place) (h : Host) : Content :=
  match h.tree.get? (logPlace place) with
  | some (.file c _) => c
  | _ => .empty

/-- The line of a turn: there is one if the test has an outcome. -/
def Turn.line? (turn : Turn σ) : Option String :=
  match turn.ended with
  | .ok outcome => some (logLine turn.dirName outcome.status)
  | .error _ => none

/-- The log with the line of a turn behind it. -/
def addLine (c : Content) (turn : Turn σ) : Content :=
  match turn.line? with
  | some line => c.append line
  | none => c

theorem foldl_lines (ts : List (Turn σ)) (c : Content) :
    (ts.filterMap Turn.line?).foldl Content.append c = ts.foldl addLine c := by
  induction ts generalizing c with
  | nil => rfl
  | cons turn rest ih =>
    rw [List.foldl_cons, ← ih, addLine]
    cases hline : turn.line? with
    | none => rw [List.filterMap_cons_none hline]
    | some line => rw [List.filterMap_cons_some hline, List.foldl_cons]

/-- The job can go on: its results directory is there, the process runs, and no
directory stands in the place of the log. -/
structure Ready (place : Place) (s : Job σ × Host) : Prop where
  settled : Settled place s
  running : s.2.deadline = none
  free : s.2.tree.get? (logPlace place) ≠ some .directory

theorem logged_of_file {place : Place} {h : Host} {c : Content} {r : Bool}
    (hold : h.tree.get? (logPlace place) = some (.file c r) ∨
      h.tree.get? (logPlace place) = none ∧ c = .empty ∧ r = false) : logged place h = c := by
  rcases hold with hfile | ⟨hnone, rfl, -⟩ <;> simp [logged, *]

/-- Directories that are made add nothing to the log. -/
theorem logged_of_grown (place : Place) {h h' : Host} (grown : TrialDirs.Grown h h') :
    logged place h' = logged place h := by
  unfold logged
  cases hlog : h.tree.get? (logPlace place) with
  | some entry => rw [grown.tree _ _ hlog]
  | none =>
    split
    · next c r hfile =>
      rw [grown.files _ _ _ hfile] at hlog
      cases hlog
    · rfl

section
variable {place p : Place} {turn : Turn σ} {result : Except Failure Unit} {h : Host}

/-- The log is as it was while a test is executed. -/
theorem Closing.logged_eq (closing : Closing place turn p result h) :
    logged place h = logged place turn.before.2 := by
  by_cases hp : p = logPlace place
  · obtain ⟨h₁, made⟩ := closing.made
    have hbefore : turn.before.2.tree.get? (logPlace place) = none := hp ▸ made.absent
    rcases closing.own hp with hafter | hafter <;> simp [logged, hbefore, hafter]
  · simp only [logged, closing.log hp]

/-- The line of a finished test is added if the test has an outcome. -/
theorem Closing.adds (closing : Closing place turn p result h) (ready : Ready place turn.before) :
    logged place turn.after.2 = addLine (logged place turn.before.2) turn ∧
      ∀ outcome, turn.ended = .ok outcome → Ready place turn.after := by
  obtain ⟨span, hended⟩ := closing.ended
  have hreach : h.tree.reach h.cwd turn.before.1.resultDir = .ok place := by
    rw [closing.cwd]
    exact Tree.reach_of_directories closing.directories ready.settled.reach
  rcases append_log (logLine turn.dirName (Status.ofResult result)) closing.sound hreach with
    ⟨f, hlog⟩ | ⟨c, r, hlog, hopen, hold⟩
  · have hfailed : turn.ended = .error f := by rw [hended, hlog]; rfl
    have hafter : turn.after.2 = h := by rw [closing.after, hlog]
    refine ⟨?_, by simp [hfailed]⟩
    rw [hafter, closing.logged_eq, addLine, Turn.line?, hfailed]
  · obtain ⟨dirs, hdone⟩ : ∃ dirs, turn.ended = .ok (outcomeOf turn.spec dirs result span) :=
      ⟨_, by rw [hended, hlog]; rfl⟩
    have hline : turn.line? = some (logLine turn.dirName (Status.ofResult result)) := by
      rw [Turn.line?, hdone]
      rfl
    have hclosed := closing.after
    revert hline hlog hclosed
    generalize logLine turn.dirName (Status.ofResult result) = line
    intro hlog hline hclosed
    have halive : h.alive = true := by simp [Host.alive, closing.deadline, ready.running]
    have hafter : turn.after.2 =
        { h with tree := h.tree.put (logPlace place) (.file (c.append line) r) } := by
      rw [hclosed, hlog, Host.withTree_of_alive halive]
    have hlast : turn.after.2.tree.get? (logPlace place) = some (.file (c.append line) r) := by
      rw [hafter]
      exact Tree.get?_put_self _ (by simp [logPlace]) _
    constructor
    · rw [← closing.logged_eq, logged_of_file hold, logged_of_file (.inl hlast), addLine, hline]
    · intro _ _
      refine ⟨ready.settled.of_directories closing.resultDir ?_ (fun q hq => ?_) ?_, ?_,
        by simp [hlast]⟩
      · rw [hafter, ← closing.cwd]
      · rw [hafter]
        exact Tree.directory_put _ hopen.free (closing.directories q hq)
      · rw [hafter]
        exact closing.sound.put hopen.parent hopen.free
      · rw [hafter]
        exact closing.deadline.trans ready.running

end

/-- A turn adds its line to the log, if it has one. -/
theorem take_adds {e : Executor σ} {place : Place} (sparing : e.Sparing (logPlace place))
    (spec : Spec) {s : Job σ × Host} (ready : Ready place s) :
    let turn := Turn.take e spec s
    logged place turn.after.2 = addLine (logged place s.2) turn ∧
      ∀ outcome, turn.ended = .ok outcome → Ready place turn.after := by
  cases hc : TrialDirs.create s.1.resultDir (Turn.take e spec s).dirName s.2 with
  | mk created h₁ =>
    cases created with
    | error f =>
      have hrun : runTest e spec s = (.error f, (s.1.named s.2 spec, h₁)) :=
        runTest_of_refused e hc
      have hgrown := TrialDirs.create_grown s.1.resultDir (Turn.take e spec s).dirName s.2
      rw [hc] at hgrown
      simp only [Turn.take, addLine, Turn.line?, hrun]
      refine ⟨logged_of_grown place hgrown, fun outcome hended => ?_⟩
      cases hended
    | ok dirs =>
      obtain ⟨p, result, h, closing⟩ := take_closing sparing spec ready.settled hc
      exact closing.adds ready

/-! ### Which lines are right -/

/-- The line of the turn tells how the test ended, under the name that the outcome reports. -/
def Turn.Reported (turn : Turn σ) : Prop :=
  ∃ line outcome, turn.line? = some line ∧ turn.ended = .ok outcome ∧
    Tells line outcome.status.verdict.name outcome.dirName (joined outcome.status)

/-- The name is one step of a path and fits on a line between tabs. -/
structure Fits (name : String) : Prop where
  slash : '/' ∉ name.toList
  tab : '\t' ∉ name.toList
  newline : '\n' ∉ name.toList

/-- A directory that was made under a single name lies right in the results directory. -/
theorem made_name {place p : Place} {s : Job σ × Host} (settled : Settled place s) {name : String}
    {h₁ : Host}
    (made : TrialDirs.Made s.1.resultDir (Path.join s.1.resultDir name) s.2 h₁ s.2.tree p)
    (hslash : '/' ∉ name.toList) :
    name ≠ "" ∧ Tree.IsName name ∧ p = place ++ [name] := by
  have hwalk := Tree.reach_of_locate made.located
  rw [Tree.reach_join _ _ _ (Path.isAbsolute_of_name hslash), settled.reach] at hwalk
  change s.2.tree.walk place (Path.steps name) = .ok p at hwalk
  have hnew : ∀ q, s.2.tree.get? q = some .directory → p ≠ q := by
    rintro q hq rfl
    rw [made.absent] at hq
    cases hq
  have hne : name ≠ "" := by
    rintro rfl
    exact hnew place settled.directory (Except.ok.inj hwalk).symm
  rw [Path.steps_of_name hne hslash] at hwalk
  have hparent : s.2.tree.get? place.dropLast = some .directory :=
    settled.sound place .directory settled.directory
  simp only [Tree.walk, settled.directory] at hwalk
  have hhere : name ≠ "." := by
    rintro rfl
    exact hnew place settled.directory (Except.ok.inj hwalk).symm
  have hup : name ≠ ".." := by
    rintro rfl
    exact hnew _ hparent (Except.ok.inj hwalk).symm
  simp only [beq_iff_eq, hhere, hup, if_false] at hwalk
  split at hwalk
  · cases hwalk
  · next hshort => exact ⟨hne, ⟨hhere, hup, Nat.le_of_not_lt hshort⟩, (Except.ok.inj hwalk).symm⟩

/-- The log can be reached wherever a test's directory can. -/
theorem log_located {place p : Place} {s : Job σ × Host} {name : String} {h h₁ : Host}
    (made : TrialDirs.Made s.1.resultDir (Path.join s.1.resultDir name) s.2 h₁ s.2.tree p)
    (hslash : '/' ∉ name.toList) (hne : name ≠ "")
    (hreach : h.tree.reach h.cwd s.1.resultDir = .ok place)
    (hdir : h.tree.get? place = some .directory) :
    h.tree.locate h.cwd (statusLog s.1.resultDir) = .ok (logPlace place) ∧
      Path.endsInSlash (statusLog s.1.resultDir) = false := by
  have hslashLog : Path.endsInSlash (statusLog s.1.resultDir) = false := by
    rw [statusLog, Path.endsInSlash_join (by decide)]
    decide
  have hreachLog : h.tree.reach h.cwd (statusLog s.1.resultDir) = .ok (logPlace place) := by
    rw [statusLog, TrialDirs.reach_part log_plain hreach]
    exact Tree.walk_name log_plain.toIsName hdir
  refine ⟨Tree.locate_eq_ok_iff.mpr ⟨?_, ?_, ?_, hreachLog, by simp [hslashLog]⟩, hslashLog⟩
  · by_cases hempty : s.1.resultDir = ""
    · rw [statusLog, hempty, Path.join_empty]
      decide
    · have hclean := (Tree.locate_eq_ok_iff.mp made.located).1
      rw [Path.toList_join (Path.isAbsolute_of_name hslash) hempty] at hclean
      rw [statusLog, Path.toList_join log_plain.relative hempty]
      split at hclean <;> simp_all
  · exact Path.join_ne_empty (by decide)
  · by_cases hempty : s.1.resultDir = ""
    · rw [statusLog, hempty, Path.join_empty]
      decide
    · have hshort := made.short "profiling" (by decide)
      have hnoslash : Path.endsInSlash (Path.join s.1.resultDir name) = false := by
        rw [Path.endsInSlash_join hne, Path.endsInSlash_of_name hslash]
      rw [Path.utf8ByteSize_join (by decide) (Path.join_ne_empty hne), hnoslash,
        Path.utf8ByteSize_join (Path.isAbsolute_of_name hslash) hempty] at hshort
      rw [statusLog, Path.utf8ByteSize_join log_plain.relative hempty]
      have hsizes : "profiling".utf8ByteSize = 9 ∧ "status.log".utf8ByteSize = 10 := by decide
      simp only [hsizes, Bool.false_eq_true, if_false] at hshort ⊢
      omega

theorem Closing.reported_iff {place p : Place} {turn : Turn σ} {result : Except Failure Unit}
    {h : Host} (closing : Closing place turn p result h) (ready : Ready place turn.before) :
    turn.Reported ↔ Fits turn.dirName ∧
      (turn.dirName = "status.log" →
        turn.after.2.tree.get? (logPlace place) ≠ some .directory) := by
  obtain ⟨h₁, made⟩ := closing.made
  obtain ⟨span, hended⟩ := closing.ended
  constructor
  · rintro ⟨line, outcome, hline, hok, htells⟩
    rw [Turn.line?, hok, Option.some.injEq] at hline
    subst hline
    obtain ⟨hname, htab, hnewline⟩ := (tells_logLine_iff _ _ _).mp htells
    have hslash : '/' ∉ turn.dirName.toList := hname ▸ Path.not_slash_fileName outcome.testDir
    exact ⟨⟨hslash, htab, hnewline⟩, fun _ => ((closing.adds ready).2 outcome hok).free⟩
  · rintro ⟨fits, hown⟩
    obtain ⟨hne, hname, hp⟩ := made_name ready.settled made fits.slash
    have hreach : h.tree.reach h.cwd turn.before.1.resultDir = .ok place := by
      rw [closing.cwd]
      exact Tree.reach_of_directories closing.directories ready.settled.reach
    have hdir := closing.directories place ready.settled.directory
    obtain ⟨hlocated, hslash⟩ := log_located made fits.slash hne hreach hdir
    have hfree : h.tree.get? (logPlace place) ≠ some .directory := by
      intro hblocked
      by_cases heq : turn.dirName = "status.log"
      · apply hown heq
        rcases append_log (logLine turn.dirName (Status.ofResult result)) closing.sound hreach with
          ⟨f, hlog⟩ | ⟨c, r, -, hopen, -⟩
        · rw [closing.after, hlog, hblocked]
        · exact absurd hblocked hopen.free
      · have hother : p ≠ logPlace place := by
          rw [hp]
          simpa [logPlace] using heq
        rw [closing.log hother] at hblocked
        exact ready.free hblocked
    have hopen : h.tree.Open (logPlace place) := ⟨by simpa [logPlace] using hdir, hfree⟩
    obtain ⟨t, hop⟩ := Tree.append_of_open (logLine turn.dirName (Status.ofResult result)) hlocated
      hopen hslash
    rw [Work.change_of_ok hop] at hended
    have hreported : Path.fileName (Path.join turn.before.1.resultDir turn.dirName) =
        some turn.dirName :=
      Path.fileName_join hne fits.slash hname.notHere hname.notUp
    have hok : turn.ended = .ok (outcomeOf turn.spec
        (.of (Path.join turn.before.1.resultDir turn.dirName)) result span) := hended
    refine ⟨_, _, by rw [Turn.line?, hok], hok, ?_⟩
    refine (tells_logLine_iff _ _ _).mpr ⟨?_, fits.tab, fits.newline⟩
    rw [Outcome.dirName, outcomeOf_testDir, hreported, Option.getD_some]

/-! ### The whole run -/

/-- The executor was given the test of the turn, and came back from it. -/
def Turn.Finished (turn : Turn σ) : Prop :=
  ∃ dirs h, TrialDirs.create turn.before.1.resultDir turn.dirName turn.before.2 = (.ok dirs, h)

/-- **The status log holds the lines of the tests in their order**, behind what it
held before. The line of a finished test is right if and only if the name of its
directory fits, unless that directory itself is still in the place of the log. -/
theorem status_log_iff {e : Executor σ} {place : Place} (sparing : e.Sparing (logPlace place))
    {s : Job σ × Host} (ready : Ready place s) (specs : List Spec) (o : Options) :
    logged place (runAll e specs o s).2.2 =
        ((turnsOf e specs o s).filterMap Turn.line?).foldl Content.append (logged place s.2) ∧
      ∀ turn ∈ turnsOf e specs o s, turn.Finished →
        (turn.Reported ↔ Fits turn.dirName ∧ (turn.dirName = "status.log" →
          turn.after.2.tree.get? (logPlace place) ≠ some .directory)) := by
  have hreport : ∀ event (t : Job σ × Host), Ready place t → Ready place (reported event t) :=
    fun event t ht => ⟨ht.settled.reported event, ht.running, ht.free⟩
  have hstep : ∀ spec t, Ready place t →
      logged place (Turn.take e spec t).after.2 = addLine (logged place t.2) (Turn.take e spec t) ∧
        ∀ outcome, (Turn.take e spec t).ended = .ok outcome →
          Ready place (Turn.take e spec t).after :=
    fun spec t ht => take_adds sparing spec ht
  have hbegun := hreport (.jobStart s.1.resultDir (o.select specs).length) s ready
  constructor
  · rw [(runAll_turns e specs o s).2, foldl_lines]
    exact turns_fold (logged place) addLine hreport hstep (o.select specs) hbegun
  · obtain ⟨heach, -⟩ := turns_keep (R := fun _ _ => True) (fun _ => trivial) (fun _ _ => trivial)
      hreport (fun spec t ht => ⟨trivial, (hstep spec t ht).2⟩) (o.select specs) hbegun
    intro turn hturn ⟨dirs, h₁, hc⟩
    obtain ⟨htake, hbefore, -⟩ := heach turn hturn
    obtain ⟨p, result, h, closing⟩ := take_closing sparing turn.spec hbefore.settled (htake ▸ hc)
    rw [← htake] at closing
    exact closing.reported_iff hbefore

/-- A test of the tag `a/` is logged under that name, though its outcome is of `a`. -/
theorem misreported_noting :
    let tree := Tree.empty.put ["r"] .directory
    let s : Job Unit × Host := (⟨"/r", .empty, [], ()⟩, ⟨tree, [], 7, 8, [], 0, none, "", ""⟩)
    let specs : List Spec := [⟨"x", [], some "a/"⟩, ⟨"x", [], none⟩]
    ∃ turn ∈ turnsOf Executor.noting specs ⟨false, none⟩ s, turn.Finished ∧ ¬ turn.Reported := by
  intro tree s specs
  have ready : Ready ["r"] s :=
    ⟨⟨by decide, by decide, Tree.sound_empty.put (by decide) (by decide)⟩, rfl, by decide⟩
  let first : Turn Unit := Turn.take Executor.noting ⟨"x", [], some "a/"⟩
    (reported (.testStart ⟨"x", [], some "a/"⟩) (reported (.jobStart "/r" 2) s))
  have hmem : first ∈ turnsOf Executor.noting specs ⟨false, none⟩ s := List.mem_cons_self ..
  have hname : first.dirName = "a/" := by decide +kernel
  have hcreated : (TrialDirs.create "/r" first.dirName s.2).1.isOk = true := by decide +kernel
  have hfinished : first.Finished := by
    show ∃ dirs h, TrialDirs.create "/r" first.dirName s.2 = (.ok dirs, h)
    cases hc : TrialDirs.create "/r" first.dirName s.2 with
    | mk created h =>
      cases created with
      | error f => simp [hc, Except.isOk, Except.toBool] at hcreated
      | ok dirs => exact ⟨dirs, h, rfl⟩
  refine ⟨first, hmem, hfinished, fun hreported => ?_⟩
  obtain ⟨-, hlogged⟩ := status_log_iff (Executor.noting_sparing ["r"]) ready specs ⟨false, none⟩
  have hiff := hlogged first hmem hfinished
  have hfits := (hiff.mp hreported).1
  exact hfits.slash (by rw [hname]; decide)

end Job
end DeviceLab
