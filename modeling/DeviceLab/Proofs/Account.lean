import DeviceLab.Proofs.Text
import DeviceLab.Proofs.Turns

/-! A run accounts for its tests.

The tests that are wanted run one after another, and each that can proceed has an
outcome, whatever came of it. Only a directory that cannot be made or a log that
cannot be added to blocks a test (`runTest_eq_error_iff`), and a run goes no
further than a test that is blocked. What it reports is one event for each test
that starts and one for each that is complete, in their order, and the summary
counts the outcomes (`runAll_accounted`). -/
namespace DeviceLab.Job

/-! ### Which tests are wanted -/

/-- The test has the keyword of the options, if there is one, in its name or in its tag. -/
def Options.Wants (o : Options) (spec : Spec) : Prop :=
  ∀ keyword ∈ o.filter, keyword.toList <:+: spec.name.toList ∨
    ∃ tag ∈ spec.tag, keyword.toList <:+: tag.toList

theorem Spec.selectedBy_iff {keyword : String} {spec : Spec} :
    spec.selectedBy keyword = true ↔
      keyword.toList <:+: spec.name.toList ∨ ∃ tag ∈ spec.tag, keyword.toList <:+: tag.toList := by
  rw [selectedBy, Bool.or_eq_true, Text.contains_iff, Option.any_eq_true]
  simp only [Text.contains_iff, Option.mem_def]

theorem Options.wants_iff {o : Options} {spec : Spec} :
    o.Wants spec ↔ ∀ keyword ∈ o.filter, spec.selectedBy keyword = true :=
  forall₂_congr fun _ _ => Spec.selectedBy_iff.symm

instance (o : Options) (spec : Spec) : Decidable (o.Wants spec) :=
  decidable_of_iff' _ Options.wants_iff

theorem Options.select_eq_filter (o : Options) (specs : List Spec) :
    o.select specs = specs.filter (o.Wants ·) := by
  simp only [Options.wants_iff]
  unfold select
  cases o.filter with
  | none => exact (List.filter_eq_self.mpr (by simp)).symm
  | some keyword => simp

variable {σ : Type}

/-! ### Tests that cannot proceed -/

/-- Why a test cannot proceed: its directory cannot be made, or its line cannot be
added to the log, whatever has come of the test itself. -/
inductive Blocked (e : Executor σ) (spec : Spec) : Job σ × Host → Failure → Prop
  | directory {job : Job σ} {h h' : Host} {f : Failure}
      (refused : TrialDirs.create job.resultDir (job.nextName h spec) h = (.error f, h')) :
      Blocked e spec (job, h) f
  | log {job : Job σ} {h h' : Host} {dirs : TrialDirs} {f : Failure}
      (made : TrialDirs.create job.resultDir (job.nextName h spec) h = (.ok dirs, h'))
      (refused :
        let done := executed e spec (job.named h spec) dirs h'
        (Work.change (·.append · (statusLog job.resultDir)
          (logLine (job.nextName h spec) (Status.ofResult done.1))) done.2.2).1 = .error f) :
      Blocked e spec (job, h) f

/-- Only a test that is blocked has no outcome. -/
theorem runTest_eq_error_iff {e : Executor σ} {spec : Spec} {s : Job σ × Host} {f : Failure} :
    (runTest e spec s).1 = .error f ↔ Blocked e spec s f := by
  obtain ⟨job, h⟩ := s
  constructor
  · intro herror
    rcases runTest_cases e spec job h with
      ⟨f', h₁, hc, hrun⟩ | ⟨dirs, h₁, result, x, h₂, logged, h₃, hc, hdone, hlog, hrun⟩
    · rw [hrun] at herror
      cases herror
      exact .directory hc
    · rw [hrun] at herror
      refine .log hc ?_
      rw [hdone]
      dsimp only
      rw [hlog]
      cases logged with
      | ok u => cases herror
      | error f' =>
        cases herror
        rfl
  · intro blocked
    cases blocked with
    | directory refused => rw [runTest_of_refused e refused]
    | log made refused =>
      rw [runTest_of_created e made]
      show Except.map _ (Work.change _ _).1 = _
      rw [refused]
      rfl

/-- An outcome is that of the test, and a test reports nothing itself. -/
theorem runTest_keeps (e : Executor σ) (spec : Spec) (s : Job σ × Host) :
    (∀ outcome, (runTest e spec s).1 = .ok outcome → outcome.spec = spec) ∧
      (runTest e spec s).2.1.events = s.1.events := by
  obtain ⟨job, h⟩ := s
  rcases runTest_cases e spec job h with
    ⟨f, h₁, -, hrun⟩ | ⟨dirs, h₁, result, x, h₂, logged, h₃, -, -, -, hrun⟩
  · rw [hrun]
    refine ⟨fun outcome hended => ?_, rfl⟩
    cases hended
  · rw [hrun]
    refine ⟨fun outcome hended => ?_, rfl⟩
    cases logged with
    | error f => cases hended
    | ok u =>
      cases hended
      rfl

/-! ### Runs -/

/-- The tests of these outcomes have run, each from where the one before it had left the job. -/
inductive Ran (e : Executor σ) : Job σ × Host → List Outcome → Job σ × Host → Prop
  | nothing (s : Job σ × Host) : Ran e s [] s
  | test {s s₁ s' : Job σ × Host} {outcome : Outcome} {rest : List Outcome}
      (first : runTest e outcome.spec (reported (.testStart outcome.spec) s) = (.ok outcome, s₁))
      (later : Ran e (reported (.testComplete outcome) s₁) rest s') :
      Ran e s (outcome :: rest) s'

/-- What is told of a test that has an outcome. -/
def Outcome.told (outcome : Outcome) : List Event :=
  [.testStart outcome.spec, .testComplete outcome]

theorem Ran.events {e : Executor σ} {s s' : Job σ × Host} {outcomes : List Outcome}
    (ran : Ran e s outcomes s') : s'.1.events = s.1.events ++ outcomes.flatMap Outcome.told := by
  induction ran with
  | nothing s => simp
  | @test s s₁ s' outcome rest first later ih =>
    have hfirst : s₁.1.events = s.1.events ++ [.testStart outcome.spec] := by
      have hkeep := (runTest_keeps e outcome.spec (reported (.testStart outcome.spec) s)).2
      rwa [first] at hkeep
    have hbetween : (reported (.testComplete outcome) s₁).1.events =
        s.1.events ++ outcome.told := by
      show s₁.1.events ++ [.testComplete outcome] = _
      rw [hfirst, List.append_assoc]
      rfl
    rw [ih, hbetween, List.flatMap_cons, List.append_assoc]

/-- The run went through the tests, as far as the first that failed if it had to stop there. -/
structure Through (e : Executor σ) (stopOnFail : Bool) (specs : List Spec) (s : Job σ × Host)
    (outcomes : List Outcome) (s' : Job σ × Host) : Prop where
  ran : Ran e s outcomes s'
  tests : outcomes.map (·.spec) =
    if stopOnFail then specs.take (outcomes.findIdx (!·.passed) + 1) else specs

/-- The run went as far as a test that was blocked, and no further. -/
structure Halted (e : Executor σ) (stopOnFail : Bool) (specs : List Spec) (s : Job σ × Host)
    (outcomes : List Outcome) (spec : Spec) (f : Failure) (s' : Job σ × Host) : Prop where
  tests : outcomes.map (·.spec) ++ [spec] <+: specs
  passed : stopOnFail = true → ∀ outcome ∈ outcomes, outcome.passed = true
  last : ∃ t, Ran e s outcomes t ∧ Blocked e spec (reported (.testStart spec) t) f ∧
    runTest e spec (reported (.testStart spec) t) = (.error f, s')

section
variable {e : Executor σ} {stopOnFail : Bool} {s s₁ s' : Job σ × Host} {outcome : Outcome}
  {rest : List Spec} {outcomes : List Outcome}
  (first : runTest e outcome.spec (reported (.testStart outcome.spec) s) = (.ok outcome, s₁))
  (goes : stopOnFail = true → outcome.passed = true)
include first goes

theorem Through.after
    (through : Through e stopOnFail rest (reported (.testComplete outcome) s₁) outcomes s') :
    Through e stopOnFail (outcome.spec :: rest) s (outcome :: outcomes) s' := by
  refine ⟨.test first through.ran, ?_⟩
  rw [List.map_cons, through.tests]
  cases stopOnFail with
  | false => rfl
  | true => simp [List.findIdx_cons, goes rfl]

theorem Halted.after {spec : Spec} {f : Failure}
    (halted : Halted e stopOnFail rest (reported (.testComplete outcome) s₁) outcomes spec f s') :
    Halted e stopOnFail (outcome.spec :: rest) s (outcome :: outcomes) spec f s' := by
  obtain ⟨t, ran, hlast⟩ := halted.last
  refine ⟨?_, fun hstop => ?_, t, .test first ran, hlast⟩
  · rw [List.map_cons, List.cons_append]
    exact (List.prefix_cons_inj _).mpr halted.tests
  · exact List.forall_mem_cons.mpr ⟨goes hstop, halted.passed hstop⟩

end

/-- A run goes through its tests and counts them all, or halts. -/
theorem runEach_cases (e : Executor σ) (stopOnFail : Bool) (specs : List Spec) (summary : Summary)
    (s : Job σ × Host) :
    match runEach e stopOnFail specs summary s with
    | (.ok (counted, outcomes), s') =>
      Through e stopOnFail specs s outcomes s' ∧ counted = outcomes.foldl Summary.add summary
    | (.error f, s') => ∃ outcomes spec, Halted e stopOnFail specs s outcomes spec f s' := by
  induction specs generalizing summary s with
  | nil => exact ⟨⟨.nothing s, by cases stopOnFail <;> rfl⟩, rfl⟩
  | cons spec rest ih =>
    rw [runEach_cons]
    unfold Turn.take Turn.left Turn.isLast
    cases hrun : runTest e spec (reported (.testStart spec) s) with
    | mk ended s₁ =>
      cases ended with
      | error f =>
        have hblocked := runTest_eq_error_iff.mp (congrArg Prod.fst hrun)
        exact ⟨[], spec, ⟨rest, rfl⟩, by simp, s, .nothing s, hblocked, hrun⟩
      | ok outcome =>
        obtain rfl := (runTest_keeps e spec _).1 outcome (congrArg Prod.fst hrun)
        cases hlast : (stopOnFail && !outcome.passed) with
        | true =>
          simp only [Bool.and_eq_true, Bool.not_eq_true'] at hlast
          simp only [hlast, Bool.not_false, Bool.and_self, if_true]
          refine ⟨⟨.test hrun (.nothing _), ?_⟩, rfl⟩
          simp [List.findIdx_cons, hlast.2]
        | false =>
          have hgoes : stopOnFail = true → outcome.passed = true := by
            rintro rfl
            simpa using hlast
          have hrest := ih (summary.add outcome) (reported (.testComplete outcome) s₁)
          simp only [hlast, Bool.false_eq_true, if_false]
          revert hrest
          rcases runEach e stopOnFail rest (summary.add outcome)
            (reported (.testComplete outcome) s₁) with ⟨f | ⟨counted, outcomes⟩, s'⟩
          · rintro ⟨outcomes, spec, halted⟩
            exact ⟨outcome :: outcomes, spec, halted.after hrun hgoes⟩
          · rintro ⟨through, hcounted⟩
            exact ⟨through.after hrun hgoes, hcounted⟩

/-- The counts of a summary are those of the outcomes. -/
structure Summary.Counts (summary : Summary) (outcomes : List Outcome) : Prop where
  total : summary.total = outcomes.length
  split : summary.passed + summary.failed = summary.total
  passed : summary.passed = outcomes.countP (·.failure = none)

theorem Summary.Counts.add {summary : Summary} {outcomes : List Outcome}
    (h : summary.Counts outcomes) (outcome : Outcome) :
    (summary.add outcome).Counts (outcomes ++ [outcome]) := by
  obtain ⟨htotal, hsplit, hpassed⟩ := h
  have hnone : outcome.passed = true ↔ outcome.failure = none := Option.isNone_iff_eq_none
  cases hpass : outcome.passed with
  | true =>
    rw [hpass] at hnone
    refine ⟨?_, ?_, ?_⟩
    · simp [Summary.add, hpass, htotal]
    · simp only [Summary.add, hpass, if_true]
      omega
    · simp [Summary.add, hpass, hpassed, List.countP_append, hnone.mp rfl]
  | false =>
    rw [hpass] at hnone
    refine ⟨?_, ?_, ?_⟩
    · simp [Summary.add, hpass, htotal]
    · simp only [Summary.add, hpass, Bool.false_eq_true, if_false]
      omega
    · simp [Summary.add, hpass, hpassed, List.countP_append, mt hnone.mpr nofun]

/-- The tests that are counted one by one are all counted. -/
theorem Summary.Counts.foldl {summary : Summary} {before : List Outcome}
    (h : summary.Counts before) (outcomes : List Outcome) :
    (outcomes.foldl Summary.add summary).Counts (before ++ outcomes) := by
  induction outcomes generalizing summary before with
  | nil => rwa [List.append_nil]
  | cons outcome rest ih =>
    rw [List.append_cons]
    exact ih (h.add outcome)

theorem Summary.counts_empty : Summary.empty.Counts [] :=
  ⟨rfl, rfl, rfl⟩

/-- How long it took does not matter for the counts. -/
theorem Summary.Counts.lasting {summary : Summary} {outcomes : List Outcome}
    (h : summary.Counts outcomes) (span : Nat) :
    Summary.Counts { summary with span := span } outcomes :=
  ⟨h.total, h.split, h.passed⟩

/-- **A run accounts for its tests.** The tests that are wanted run in their order.
Where the run ends well, they have all run, or those up to the first that failed
if it is to stop there, and the summary counts their outcomes. Where it does not,
the tests before one that was blocked have run, and none after it. Either way each
test was reported when it started and when it was complete, and the end of the job
only where the run ended well. -/
theorem runAll_accounted (e : Executor σ) (specs : List Spec) (o : Options) (s : Job σ × Host) :
    let wanted := specs.filter (o.Wants ·)
    let begun := reported (.jobStart s.1.resultDir wanted.length) s
    match runAll e specs o s with
    | (.ok (summary, outcomes), s') =>
      (∃ t, Through e o.stopOnFail wanted begun outcomes t ∧
        s' = reported (.jobComplete summary outcomes) t) ∧
      summary.Counts outcomes ∧
      s'.1.events = s.1.events ++ .jobStart s.1.resultDir wanted.length ::
        (outcomes.flatMap Outcome.told ++ [.jobComplete summary outcomes])
    | (.error f, s') => ∃ outcomes spec,
      Halted e o.stopOnFail wanted begun outcomes spec f s' ∧
      s'.1.events = s.1.events ++ .jobStart s.1.resultDir wanted.length ::
        (outcomes.flatMap Outcome.told ++ [.testStart spec]) := by
  intro wanted begun
  have hbegun : begun.1.events = s.1.events ++ [.jobStart s.1.resultDir wanted.length] := rfl
  have hcases := runEach_cases e o.stopOnFail wanted .empty begun
  have hselect : begun = reported (.jobStart s.1.resultDir (o.select specs).length) s := by
    rw [o.select_eq_filter]
  rw [runAll_eq e hselect, o.select_eq_filter]
  revert hcases
  rcases runEach e o.stopOnFail wanted .empty begun with ⟨f | ⟨counted, outcomes⟩, t⟩
  · rintro ⟨outcomes, spec, halted⟩
    obtain ⟨u, ran, -, hlast⟩ := halted.last
    have hkeep := (runTest_keeps e spec (reported (.testStart spec) u)).2
    rw [hlast] at hkeep
    refine ⟨outcomes, spec, halted, hkeep.trans ?_⟩
    show u.1.events ++ [.testStart spec] = _
    rw [ran.events, hbegun]
    simp
  · rintro ⟨through, rfl⟩
    refine ⟨⟨t, through, rfl⟩, (Summary.counts_empty.foldl outcomes).lasting _, ?_⟩
    show t.1.events ++ [_] = _
    rw [through.ran.events, hbegun]
    simp

end DeviceLab.Job
