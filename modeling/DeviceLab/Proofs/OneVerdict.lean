import DeviceLab.CommandLine.Perform
import DeviceLab.Proofs.Account
import DeviceLab.Proofs.CommandLine
import DeviceLab.Proofs.Results

/-! One verdict on a test.

A test goes well if its executor passes it and its status can be written. That is
made out in several places: by the runner, by the job, in the status file and on its
reading, in the log, and by the exit codes of the commands. They all agree
(`one_verdict`). -/
namespace DeviceLab

namespace Executor

theorem settle_eq_ok_iff {result written : Except Failure Unit} :
    settle result written = .ok () ↔ result = .ok () ∧ written = .ok () := by
  cases result <;> simp [settle]

end Executor

namespace Job
variable {σ : Type}

/-! ### One test -/

/-- A test of a job that has been given a directory. -/
structure Tried (e : Executor σ) where
  spec : Spec
  before : Job σ × Host
  dirs : TrialDirs
  /-- The host once the directory is there. -/
  opened : Host
  created : TrialDirs.create before.1.resultDir (before.1.nextName before.2 spec) before.2 =
    (.ok dirs, opened)

namespace Tried
variable {e : Executor σ} (t : Tried e)

def name : String := t.before.1.nextName t.before.2 t.spec

/-- The path of the log that the test is to have a line in. -/
def log : String := statusLog t.before.1.resultDir

/-- The path of the status that it is to leave. -/
def statusPath : String := Status.path t.dirs.dir

/-- What the executor comes to. -/
def done : Except Failure Unit × σ × Host :=
  e.execute ⟨t.spec.name, t.spec.args, t.dirs⟩ (t.before.1.executor, t.opened)

/-- What comes of writing the status of that. -/
def written : Except Failure Unit × Host :=
  (Status.ofResult t.done.1).write t.dirs.dir t.done.2.2

/-- The executor has passed the test, and its status could be written. -/
def Well : Prop := t.done.1 = .ok () ∧ t.written.1 = .ok ()

def ended : Except Failure Outcome := (runTest e t.spec t.before).1

def after : Host := (runTest e t.spec t.before).2.2

/-- What the runner has made of it. -/
def settled : Except Failure Unit := Executor.settle t.done.1 t.written.1

theorem settled_eq_ok_iff : t.settled = .ok () ↔ t.Well := Executor.settle_eq_ok_iff

/-- What comes of adding its line to the log. -/
def logged : Except Failure Unit × Host :=
  Work.change (·.append · t.log (logLine t.name (Status.ofResult t.settled))) t.written.2

theorem run_eq :
    runTest e t.spec t.before =
      (t.logged.1.map fun _ =>
          outcomeOf t.spec t.dirs t.settled (t.written.2.clock - t.opened.clock),
        ({ t.before.1.named t.before.2 t.spec with executor := t.done.2.1 }, t.logged.2)) := by
  have hdone : executed e t.spec (t.before.1.named t.before.2 t.spec) t.dirs t.opened =
      (t.settled, t.done.2.1, t.written.2) := Executor.run_eq e _ _
  have hrun := runTest_of_created e t.created
  rw [hdone] at hrun
  exact hrun

/-- A test that can be told in the log has an outcome. -/
theorem ended_of_logged (hlogged : t.logged.1 = .ok ()) :
    t.ended = .ok (outcomeOf t.spec t.dirs t.settled (t.written.2.clock - t.opened.clock)) := by
  rw [ended, t.run_eq, hlogged]
  rfl

/-- A test with an outcome has a line in the log. -/
theorem course {outcome : Outcome} (hended : t.ended = .ok outcome) :
    (∃ span, outcome = outcomeOf t.spec t.dirs t.settled span) ∧
      ∃ tree, t.written.2.tree.append t.written.2.cwd t.log (logLine t.name outcome.status) =
        .ok tree ∧ t.after = t.written.2.withTree tree := by
  have hrun := t.run_eq
  unfold ended at hended
  unfold after
  rw [hrun, logged] at hended
  rw [hrun, logged]
  rcases Work.change_cases
    (·.append · t.log (logLine t.name (Status.ofResult t.settled))) t.written.2 with
    ⟨f, hrefused⟩ | ⟨tree, htree, hdone⟩
  · simp only [hrefused, Except.map] at hended
    cases hended
  · simp only [hdone, Except.map, Except.ok.injEq] at hended ⊢
    subst hended
    exact ⟨⟨_, rfl⟩, tree, htree, rfl⟩

/-- The log has grown by the line of the test, and the status is as it was written. -/
theorem left {outcome : Outcome} (hended : t.ended = .ok outcome) (alive : t.after.alive = true) :
    t.written.2.alive = true ∧
      t.after.tree.found? t.after.cwd t.statusPath =
        t.written.2.tree.found? t.written.2.cwd t.statusPath ∧
      ∃ held runnable,
        (t.written.2.tree.found? t.written.2.cwd t.log = some (.file held runnable) ∨
          t.written.2.tree.found? t.written.2.cwd t.log = none ∧ held = .empty) ∧
        t.after.tree.found? t.after.cwd t.log =
          some (.file (held.append (logLine t.name outcome.status)) runnable) := by
  obtain ⟨-, tree, happend, hafter⟩ := t.course hended
  rw [hafter, Host.withTree_alive] at alive
  rw [hafter, Host.withTree_of_alive alive]
  obtain ⟨q, held, runnable, htarget, rfl⟩ := Tree.target_of_append happend
  obtain ⟨hfree, hheld, hgrown⟩ := Tree.found?_of_target htarget
  refine ⟨alive, Tree.found?_put_of_ne _ _ hfree fun p hp => ?_, held, runnable, hheld, hgrown _⟩
  -- The two files have different names.
  have hlog := Tree.reach_of_locate (Tree.target_found htarget).1
  obtain ⟨d, -, rfl⟩ := Tree.reach_plain_eq_ok Status.name_plain hp
  obtain ⟨d', -, rfl⟩ := Tree.reach_plain_eq_ok log_plain hlog
  intro heq
  have hnames := congrArg List.getLast? heq
  simp at hnames

/-- The status that is found then is that of what the executor has come to. If it could not
be written, there is none but one of the executor's own making. -/
theorem kept {outcome : Outcome} (hended : t.ended = .ok outcome) (alive : t.after.alive = true) :
    (t.written.1 = .ok () ∧ ∃ runnable, t.after.tree.found? t.after.cwd t.statusPath =
      some (.file (.text ((Status.ofResult t.done.1).line ++ "\n")) runnable)) ∨
    (t.written.1 ≠ .ok () ∧ t.after.tree.found? t.after.cwd t.statusPath =
      t.done.2.2.tree.found? t.done.2.2.cwd t.statusPath) := by
  obtain ⟨halive, hsame, -⟩ := t.left hended alive
  rw [hsame]
  unfold written at halive ⊢
  rcases Status.write_cases (Status.ofResult t.done.1) t.dirs.dir t.done.2.2 with
    ⟨f, hrefused⟩ | ⟨tree, hwrite, hdone⟩
  · rw [hrefused]
    exact .inr ⟨nofun, rfl⟩
  · rw [hdone] at halive ⊢
    rw [Host.withTree_alive] at halive
    rw [Host.withTree_of_alive halive]
    exact .inl ⟨rfl, Tree.found?_of_write hwrite⟩

theorem failure_iff {outcome : Outcome} (hended : t.ended = .ok outcome) :
    outcome.failure = none ↔ t.Well := by
  obtain ⟨⟨span, rfl⟩, -⟩ := t.course hended
  rw [← t.settled_eq_ok_iff]
  unfold outcomeOf
  cases t.settled <;> simp

theorem status_iff {outcome : Outcome} (hended : t.ended = .ok outcome) :
    outcome.status.verdict = .good ↔ t.Well := by
  obtain ⟨⟨span, rfl⟩, -⟩ := t.course hended
  rw [← t.settled_eq_ok_iff]
  exact Status.verdict_ofResult_iff

/-- The failure of the executor is what is told, even if its status could not be written. -/
theorem failure_of_error {outcome : Outcome} (hended : t.ended = .ok outcome) {f : Failure}
    (hdone : t.done.1 = .error f) : outcome.failure = some f := by
  obtain ⟨⟨span, rfl⟩, -⟩ := t.course hended
  have hsettled : t.settled = .error f := by rw [settled, hdone, Executor.settle]
  simp only [outcomeOf, hsettled]

end Tried

/-- The line of a test starts with the code of its status. -/
theorem good_prefix_logLine_iff (dirName : String) (s : Status) :
    "GOOD".toList <+: (logLine dirName s).toList ↔ s.verdict = .good := by
  have hline : (logLine dirName s).toList = s.verdict.name.toList ++
      ("\t" ++ dirName ++ "\t" ++ Text.join " " (Text.lines s.message) ++ "\n").toList := by
    simp [logLine, String.toList_append]
  rw [hline]
  cases hv : s.verdict with
  | good => exact iff_of_true (List.prefix_append _ _) rfl
  | bad =>
    refine iff_of_false (fun hpre => ?_) (by simp)
    have hsame := List.IsPrefix.eq_of_length
      (List.prefix_of_prefix_length_le hpre (List.prefix_append _ _) (by decide)) (by decide)
    exact absurd hsame (by decide)

/-! ### All tests of a run -/

/-- A test that has an outcome has been given a directory. -/
theorem tried_of_ended {e : Executor σ} {spec : Spec} {s : Job σ × Host} {outcome : Outcome}
    (hended : (runTest e spec s).1 = .ok outcome) :
    ∃ t : Tried e, t.spec = spec ∧ t.before = s := by
  cases hc : TrialDirs.create s.1.resultDir (s.1.nextName s.2 spec) s.2 with
  | mk created h =>
    cases created with
    | ok dirs => exact ⟨⟨spec, s, dirs, h, hc⟩, rfl, rfl⟩
    | error f =>
      rw [show s = (s.1, s.2) from rfl, runTest_of_refused e hc] at hended
      cases hended

/-- The test of the turn has gone well. -/
def Turn.WentWell (e : Executor σ) (turn : Turn σ) : Prop :=
  ∃ t : Tried e, t.spec = turn.spec ∧ t.before = turn.before ∧ t.Well

theorem Turn.passed_iff {e : Executor σ} {turn : Turn σ}
    {outcome : Outcome} (hrun : (runTest e turn.spec turn.before).1 = .ok outcome) :
    outcome.passed = true ↔ turn.WentWell e := by
  have hpassed : outcome.passed = true ↔ outcome.failure = none := Option.isNone_iff_eq_none
  have hended : ∀ t : Tried e, t.spec = turn.spec → t.before = turn.before →
      t.ended = .ok outcome := by
    intro t hspec hbefore
    rw [Tried.ended, hspec, hbefore, hrun]
  rw [hpassed]
  constructor
  · intro hnone
    obtain ⟨t, hspec, hbefore⟩ := tried_of_ended hrun
    exact ⟨t, hspec, hbefore, (t.failure_iff (hended t hspec hbefore)).mp hnone⟩
  · rintro ⟨t, hspec, hbefore, well⟩
    exact (t.failure_iff (hended t hspec hbefore)).mpr well

/-- Nothing has failed if as many have passed as there are. -/
theorem Summary.Counts.success_iff {summary : Summary} {outcomes : List Outcome}
    (h : summary.Counts outcomes) :
    summary.success = true ↔ ∀ outcome ∈ outcomes, outcome.passed = true := by
  obtain ⟨htotal, hsplit, hpassed⟩ := h
  have hfailed : summary.failed = 0 ↔ summary.passed = outcomes.length := by omega
  rw [success, beq_iff_eq, hfailed, hpassed, List.countP_eq_length]
  simp [Outcome.passed]

theorem counts_of_runAll {e : Executor σ} {specs : List Spec} {o : Options} {s : Job σ × Host}
    {summary : Summary} {outcomes : List Outcome}
    (hrun : (runAll e specs o s).1 = .ok (summary, outcomes)) : summary.Counts outcomes := by
  have hcases := runEach_cases e o.stopOnFail (o.select specs) .empty
    (reported (.jobStart s.1.resultDir (o.select specs).length) s)
  rw [runAll_eq e rfl] at hrun
  revert hrun hcases
  rcases runEach e o.stopOnFail (o.select specs) .empty _ with ⟨f | ⟨counted, outcomes'⟩, t⟩
  · exact nofun
  · rintro ⟨⟩ ⟨-, rfl⟩
    exact (Summary.counts_empty.foldl _).lasting _

/-- What holds of all outcomes holds of the outcome of each turn. -/
theorem forall_outcomes_iff {P : Outcome → Prop} {ts : List (Turn σ)} {outcomes : List Outcome}
    (hended : ts.mapM (·.ended) = .ok outcomes) :
    (∀ outcome ∈ outcomes, P outcome) ↔
      ∀ turn ∈ ts, ∃ outcome, turn.ended = .ok outcome ∧ P outcome := by
  induction ts generalizing outcomes with
  | nil =>
    cases hended
    simp
  | cons turn rest ih =>
    rw [List.mapM_cons] at hended
    cases hfirst : turn.ended with
    | error f =>
      rw [hfirst] at hended
      cases hended
    | ok outcome =>
      rw [hfirst] at hended
      cases hrest : rest.mapM (·.ended) with
      | error f =>
        rw [hrest] at hended
        cases hended
      | ok later =>
        rw [hrest] at hended
        cases hended
        simp [ih hrest, hfirst]

/-- A run succeeds if every test of it has gone well. -/
theorem success_iff {e : Executor σ} {specs : List Spec} {o : Options} {s : Job σ × Host}
    {summary : Summary} {outcomes : List Outcome}
    (hrun : (runAll e specs o s).1 = .ok (summary, outcomes)) :
    summary.success = true ↔ ∀ turn ∈ turnsOf e specs o s, turn.WentWell e := by
  have hended : (turnsOf e specs o s).mapM (·.ended) = .ok outcomes := by
    rw [← (runAll_turns e specs o s).1, hrun]
    rfl
  rw [(counts_of_runAll hrun).success_iff, forall_outcomes_iff hended]
  refine forall₂_congr fun turn hturn => ?_
  have htest := ended_of_mem_turns hturn
  constructor
  · rintro ⟨outcome, hok, hpassed⟩
    exact (Turn.passed_iff (htest.symm.trans hok)).mp hpassed
  · intro well
    obtain ⟨outcome, hok⟩ : ∃ outcome, turn.ended = .ok outcome := by
      have := (forall_outcomes_iff (P := fun _ => True) hended).mp (fun _ _ => trivial) turn hturn
      exact this.imp fun _ h => h.1
    exact ⟨outcome, hok, (Turn.passed_iff (htest.symm.trans hok)).mpr well⟩

end Job

namespace CommandLine

/-! ### Exit codes -/

theorem exitCode_eq_zero_iff {well : Bool} : exitCode well = 0 ↔ well = true := by
  cases well <;> decide

section
variable {α : Type} {w : Work α} {h h' : Host}

theorem part_of_ok {a : α} (hw : w h = (.ok a, h')) : Doing.part w h = (.ok a, h') := by
  unfold Doing.part
  rw [hw]
  rfl

theorem part_of_error {f : Failure} (hw : w h = (.error f, h')) :
    Doing.part w h = (.error ("Error: " ++ f.message), h') := by
  unfold Doing.part
  rw [hw]
  rfl

/-- Work with a job goes on, whatever comes of it. -/
theorem part_onJob {job job' : Job Unit} {w : WorkWith (Job Unit) α} {r : Except Failure α}
    (hw : w (job, h) = (r, (job', h'))) : Doing.part (onJob job w) h = (.ok (r, job'), h') := by
  refine part_of_ok ?_
  rw [onJob, hw]

end

section
variable {catalog : Catalog Host} {self : Program} {c : CommandLine} {h h' : Host}

theorem perform_of_ok {code : Nat} (hd : doing catalog self c h = (.ok code, h')) :
    (perform catalog self c h).1 = code := by
  rw [perform, hd]

theorem perform_of_error {message : String} (hd : doing catalog self c h = (.error message, h')) :
    (perform catalog self c h).1 = 1 := by
  rw [perform, hd]

end

section
variable {catalog : Catalog Host} {self : Program} {path : Option String}

/-- The exit code tells the status that is found. -/
theorem status_code_of_line {dir : String} {h : Host} {s : Status} {runnable : Bool}
    (hfound : h.tree.found? h.cwd (Status.path dir) =
      some (.file (.text (s.line ++ "\n")) runnable)) :
    (perform catalog self ⟨path, .status dir⟩ h).1 = exitCode s.isGood := by
  have hread := part_of_ok (Status.read_of_line hfound)
  have hdoing : doing catalog self ⟨path, .status dir⟩ h =
      (.ok (exitCode s.isGood),
        h.print (Status.line ⟨s.verdict, Text.trim s.message⟩ ++ "\n")) := by
    show (Doing.part (Status.read dir) >>= _) h = _
    rw [Work.bind_of_ok hread]
    rfl
  exact perform_of_ok hdoing

theorem status_code_of_none {dir : String} {h : Host}
    (hfound : h.tree.found? h.cwd (Status.path dir) = none) :
    (perform catalog self ⟨path, .status dir⟩ h).1 = 1 := by
  obtain ⟨f, hread⟩ := Status.read_of_none hfound
  exact perform_of_error (Work.bind_of_error (part_of_error hread))

/-- A command that runs tests has begun its job. -/
structure Begun (path : Option String) (o : RunOptions) (h : Host) (config : Config)
    (job : Job Unit) (h' : Host) : Prop where
  loaded : Config.load path h = .ok config
  begun : Job.begin (resultsDir config o) () h = (.ok job, h')

variable {o : RunOptions} {h h' : Host} {config : Config} {job : Job Unit}

theorem Begun.configuration (begun : Begun path o h config job h') :
    Doing.part (CommandLine.configuration path) h = (.ok config, h) := by
  refine part_of_ok ?_
  rw [CommandLine.configuration, begun.loaded]

/-- The exit code of a run is that of its test. -/
theorem run_code (begun : Begun path o h config job h') {test : String} {tag : Option String}
    {params : List String} (hcatalog : catalog.contains test = true) {outcome : Job.Outcome}
    (hended : (Job.runTest (executor catalog self config path o) ⟨test, params, tag⟩
      (job, h')).1 = .ok outcome) :
    (perform catalog self ⟨path, .run test tag params o⟩ h).1 = exitCode outcome.passed := by
  have hjob := part_of_ok begun.begun
  generalize hrun : Job.runTest (executor catalog self config path o) ⟨test, params, tag⟩
    (job, h') = ran at hended
  obtain ⟨r, job', h''⟩ := ran
  obtain rfl : r = .ok outcome := hended
  have hdoing : runTest catalog self path test tag params o h =
      (.ok (exitCode outcome.passed),
        h''.print (outcome.status.line ++ "\t" ++ outcome.testDir ++ "\n")) := by
    unfold runTest
    rw [Work.bind_of_ok begun.configuration]
    simp only [hcatalog, Bool.not_true, Bool.false_eq_true, if_false]
    rw [Work.bind_of_ok hjob, Work.bind_of_ok (part_onJob hrun)]
    rfl
  exact perform_of_ok hdoing

variable {control : String} {stopOnFail verbose : Bool} {keyword : Option String}
  {specs : List Job.Spec}

/-- A job tells the exit code of its summary behind what it reports, if it gets as far. -/
theorem runJob_eq (begun : Begun path o h config job h')
    (hcontrol : Job.Control.ofFile control h = .ok specs) (hne : specs ≠ []) (verbose : Bool) :
    ∃ shown, runJob catalog self path control stopOnFail verbose keyword o h =
      (Doing.part (ExceptT.mk (pure (Job.runAll (executor catalog self config path o) specs
          ⟨stopOnFail, keyword⟩ (job, h')).1)) >>= fun result =>
        pure (exitCode result.1.success) : Doing Nat) shown := by
  have hjob := part_of_ok begun.begun
  have hsome : specs.isEmpty = false := by simpa using hne
  have hspecs : Doing.part (fun h => (Job.Control.ofFile control h, h)) h = (.ok specs, h) :=
    part_of_ok (by rw [hcontrol])
  generalize hrun : Job.runAll (executor catalog self config path o) specs
    ⟨stopOnFail, keyword⟩ (job, h') = ran
  obtain ⟨r, job', h''⟩ := ran
  refine ⟨h''.complain ((Job.Console.mk verbose true).text job'.events), ?_⟩
  unfold runJob
  rw [Work.bind_of_ok begun.configuration, Work.bind_of_ok hspecs]
  simp only [hsome, Bool.false_eq_true, if_false]
  rw [Work.bind_of_ok hjob, Work.bind_of_ok (part_onJob hrun)]
  rfl

theorem job_code_of_ok (begun : Begun path o h config job h')
    (hcontrol : Job.Control.ofFile control h = .ok specs) (hne : specs ≠ [])
    {summary : Job.Summary} {outcomes : List Job.Outcome}
    (hrun : (Job.runAll (executor catalog self config path o) specs ⟨stopOnFail, keyword⟩
      (job, h')).1 = .ok (summary, outcomes)) :
    (perform catalog self ⟨path, .job control stopOnFail verbose keyword o⟩ h).1 =
      exitCode summary.success := by
  obtain ⟨shown, hdoing⟩ := runJob_eq begun hcontrol hne verbose
  rw [hrun] at hdoing
  exact perform_of_ok hdoing

theorem job_code_of_error (begun : Begun path o h config job h')
    (hcontrol : Job.Control.ofFile control h = .ok specs) (hne : specs ≠ []) {f : Failure}
    (hrun : (Job.runAll (executor catalog self config path o) specs ⟨stopOnFail, keyword⟩
      (job, h')).1 = .error f) :
    (perform catalog self ⟨path, .job control stopOnFail verbose keyword o⟩ h).1 = 1 := by
  obtain ⟨shown, hdoing⟩ := runJob_eq begun hcontrol hne verbose
  rw [hrun] at hdoing
  exact perform_of_error hdoing

end

/-! ### Agreement -/

/-- Everything that is made out about the test says whether it has gone well. -/
structure Agreed {σ : Type} {e : Executor σ} (catalog : Catalog Host) (bench : Program)
    (t : Job.Tried e) (outcome : Job.Outcome) : Prop where
  failure : outcome.failure = none ↔ t.Well
  own : ∀ f, t.done.1 = .error f → outcome.failure = some f
  status : outcome.status.verdict = .good ↔ t.Well
  line : "GOOD".toList <+: (Job.logLine t.name outcome.status).toList ↔ t.Well
  /-- The line is the last of the log, behind what that held. -/
  logged : t.after.alive = true → ∃ held runnable,
    (t.written.2.tree.found? t.written.2.cwd t.log = some (.file held runnable) ∨
      t.written.2.tree.found? t.written.2.cwd t.log = none ∧ held = .empty) ∧
    t.after.tree.found? t.after.cwd t.log =
      some (.file (held.append (Job.logLine t.name outcome.status)) runnable)
  /-- So does whoever is asked for the status later, as long as the file is as it was left. If
  it could not be written, there is none but one that the executor itself has made. -/
  asked : t.after.alive = true →
    t.written.1 = .ok () ∨ t.done.2.2.tree.found? t.done.2.2.cwd t.statusPath = none →
    ∀ path later, later.tree.found? later.cwd t.statusPath =
      t.after.tree.found? t.after.cwd t.statusPath →
    ((perform catalog bench ⟨path, .status t.dirs.dir⟩ later).1 = 0 ↔ t.Well)
  /-- And so does who asks with arguments, if the directory does not look like a switch. -/
  told : t.after.alive = true →
    t.written.1 = .ok () ∨ t.done.2.2.tree.found? t.done.2.2.cwd t.statusPath = none →
    Arguments.Progress.NoDash t.dirs.dir →
    ∀ later, later.tree.found? later.cwd t.statusPath =
      t.after.tree.found? t.after.cwd t.statusPath →
    ((main catalog bench ["status", t.dirs.dir] later).1 = 0 ↔ t.Well)

theorem agreed {σ : Type} {e : Executor σ} (catalog : Catalog Host) (bench : Program)
    (t : Job.Tried e) {outcome : Job.Outcome} (hended : t.ended = .ok outcome) :
    Agreed catalog bench t outcome := by
  have hasked : t.after.alive = true →
      t.written.1 = .ok () ∨ t.done.2.2.tree.found? t.done.2.2.cwd t.statusPath = none →
      ∀ path later, later.tree.found? later.cwd t.statusPath =
        t.after.tree.found? t.after.cwd t.statusPath →
      ((perform catalog bench ⟨path, .status t.dirs.dir⟩ later).1 = 0 ↔ t.Well) := by
    intro alive hfile path later hsame
    rcases t.kept hended alive with ⟨hwritten, runnable, hfound⟩ | ⟨hwritten, hfound⟩
    · rw [status_code_of_line (hsame.trans hfound), exitCode_eq_zero_iff,
        Status.isGood_ofResult_iff]
      exact ⟨fun hdone => ⟨hdone, hwritten⟩, And.left⟩
    · have hnone := hfile.resolve_left hwritten
      rw [status_code_of_none (hsame.trans (hfound.trans hnone))]
      exact iff_of_false (by decide) fun well => hwritten well.2
  refine ⟨t.failure_iff hended, fun f => t.failure_of_error hended, t.status_iff hended,
    (Job.good_prefix_logLine_iff _ _).trans (t.status_iff hended),
    fun alive => (t.left hended alive).2.2, hasked, fun alive hfile hdash later hsame => ?_⟩
  rw [main, of_status hdash (TrialDirs.dir_ne_empty t.created)]
  exact hasked alive hfile none later hsame

/-- **One verdict.** Whatever becomes of a test that has a directory and can be told in the
log, it has an outcome, and all that is made out about it agrees: it is good if the executor
has passed the test and the status could be written. The exit code of a run says the same of
its test. That of a job says so of all tests that the job has run; and if the job could not
go on, it does not tell success. -/
theorem one_verdict (catalog : Catalog Host) (self : Program) :
    (∀ {σ : Type} {e : Executor σ} (t : Job.Tried e), t.logged.1 = .ok () →
      ∃ outcome, t.ended = .ok outcome ∧ Agreed catalog self t outcome) ∧
    ∀ path o h config job h', Begun path o h config job h' →
      let e := executor catalog self config path o
      (∀ t : Job.Tried e, t.before = (job, h') → t.logged.1 = .ok () →
        catalog.contains t.spec.name = true →
        ((perform catalog self ⟨path, .run t.spec.name t.spec.tag t.spec.args o⟩ h).1 = 0 ↔
          t.Well)) ∧
      ∀ control stopOnFail verbose keyword specs,
        Job.Control.ofFile control h = .ok specs → specs ≠ [] →
        let ran := (Job.runAll e specs ⟨stopOnFail, keyword⟩ (job, h')).1
        let code := (perform catalog self ⟨path, .job control stopOnFail verbose keyword o⟩ h).1
        (∀ result, ran = .ok result →
          (code = 0 ↔
            ∀ turn ∈ Job.turnsOf e specs ⟨stopOnFail, keyword⟩ (job, h'), turn.WentWell e)) ∧
        ∀ f, ran = .error f → code ≠ 0 := by
  refine ⟨fun t hlogged => ⟨_, t.ended_of_logged hlogged, agreed catalog self t
    (t.ended_of_logged hlogged)⟩, fun path o h config job h' begun => ⟨?run, ?job⟩⟩
  case run =>
    intro t hbefore hlogged hcatalog
    have hended := t.ended_of_logged hlogged
    have hcode := run_code begun hcatalog (by rw [← hbefore]; exact hended)
    rw [hcode, exitCode_eq_zero_iff, Job.Outcome.passed, Option.isNone_iff_eq_none,
      t.failure_iff hended]
  case job =>
    intro control stopOnFail verbose keyword specs hcontrol hne ran code
    refine ⟨fun (summary, outcomes) hok => ?_, fun f hfailed => ?_⟩
    · have hcode : code = _ := job_code_of_ok begun hcontrol hne hok
      rw [hcode, exitCode_eq_zero_iff, Job.success_iff hok]
    · have hcode : code = 1 := job_code_of_error begun hcontrol hne hfailed
      rw [hcode]
      decide

/-- A test fails with a blank message: alone, on the reading of its status, and in a job. -/
theorem one_verdict_blank :
    let catalog : Catalog Host :=
      (Catalog.empty.register "a" fun _ => pure ()).register "b"
        fun _ => throw (.failed (.fail " \n"))
    let self : Program := fun _ h => (.error .notFound, h)
    let listed := "[[test]]\nname = \"b\"\n\n[[test]]\nname = \"a\"\n"
    let tree := Tree.empty.put ["c"] (.file (.text listed) false)
    let h : Host := ⟨tree, [], 7, 8, [], 0, none, "", ""⟩
    let o : RunOptions := ⟨some "/r", true, none⟩
    let ran := perform catalog self ⟨none, .run "b" none [] o⟩ h
    (perform catalog self ⟨none, .run "a" none [] o⟩ h).1 = 0 ∧ ran.1 ≠ 0 ∧
      (perform catalog self ⟨none, .status "/r/b"⟩ ran.2).1 ≠ 0 ∧
      (perform catalog self ⟨none, .job "c" false false none o⟩ h).1 ≠ 0 := by
  intro catalog self listed tree h o ran
  let job : Job Unit := ⟨"/r", .empty, [], ()⟩
  let e : Executor Unit := executor catalog self .standard none o
  let h' : Host := (Work.change (·.makeDirectories · "/r") h).2
  have hmade : Work.change (·.makeDirectories · "/r") h = (.ok (), h') := by
    have hfirst : (Work.change (·.makeDirectories · "/r") h).1 = .ok () := by decide +kernel
    rw [← hfirst]
    exact (Prod.eta _).symm
  have begun : Begun none o h .standard job h' := by
    refine ⟨by decide +kernel, ?_⟩
    show (Work.change (·.makeDirectories · "/r") >>= _) h = _
    rw [Work.bind_of_ok hmade]
    rfl
  let create (spec : Job.Spec) := TrialDirs.create "/r" (job.nextName h' spec) h'
  let tried (spec : Job.Spec) (dirs : TrialDirs) (hdirs : (create spec).1 = .ok dirs) :
      Job.Tried e :=
    ⟨spec, (job, h'), dirs, (create spec).2, by rw [← hdirs]; exact (Prod.eta _).symm⟩
  have hbad : ∀ t : Job.Tried e, t.spec.name = "b" → ¬ t.Well := by
    rintro t hname ⟨hdone, -⟩
    have hfails : t.done.1 = .error (.fail " \n") := by
      show ((Executor.inProcess catalog).execute _ _).1 = _
      simp only [Executor.inProcess, hname]
      rfl
    rw [hfails] at hdone
    cases hdone
  let a := tried ⟨"a", [], none⟩ (.of "/r/a") (by decide +kernel)
  let b := tried ⟨"b", [], none⟩ (.of "/r/b") (by decide +kernel)
  obtain ⟨htried, hcommands⟩ := one_verdict catalog self
  obtain ⟨hrun, hjob⟩ := hcommands none o h .standard job h' begun
  have hlogged : b.logged.1 = .ok () := by decide +kernel
  refine ⟨?_, ?_, ?_, ?_⟩
  · exact (hrun a rfl (by decide +kernel) (by decide +kernel)).mpr
      ⟨by decide +kernel, by decide +kernel⟩
  · exact fun hzero => hbad b rfl ((hrun b rfl hlogged (by decide +kernel)).mp hzero)
  · obtain ⟨outcome, -, hagreed⟩ := htried b hlogged
    have hasked := hagreed.asked (by decide +kernel) (.inl (by decide +kernel)) none ran.2
      (by decide +kernel)
    exact fun hzero => hbad b rfl (hasked.mp hzero)
  · obtain ⟨hok, hfailed⟩ := hjob "c" false false none [⟨"b", [], none⟩, ⟨"a", [], none⟩]
      (by decide +kernel) (by decide)
    intro hzero
    generalize hran : (Job.runAll e _ _ (job, h')).1 = r at hok hfailed
    cases r with
    | error f => exact hfailed f rfl hzero
    | ok result =>
      obtain ⟨t, hspec, -, well⟩ := (hok result rfl).mp hzero _ (List.mem_cons_self ..)
      exact hbad t (congrArg Job.Spec.name hspec) well

end CommandLine
end DeviceLab
