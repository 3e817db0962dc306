import DeviceLab.Job
import DeviceLab.Proofs.Dirs

/-! A job turn by turn.

Each test of a job takes its turn: a directory is made for it, the test is
executed there and its status written, then a line is added to the status log.
`turns` lists the turns of a run; the run ends where its last turn ends
(`runEach_turns`), and every turn but the last ended with an outcome. -/
namespace DeviceLab

namespace Executor
variable {σ : Type}

/-- The test is executed, then its status is written. -/
theorem run_eq (e : Executor σ) (inv : Invocation) (s : σ × Host) :
    e.run inv s =
      let done := e.execute inv s
      let written := (Status.ofResult done.1).write inv.dirs.dir done.2.2
      (settle done.1 written.1, (done.2.1, written.2)) := by
  unfold run
  have hdone : WorkWith.attempt (e.execute inv) s =
      (.ok (e.execute inv s).1, (e.execute inv s).2) := rfl
  rw [Work.bind_of_ok hdone]
  generalize e.execute inv s = done
  have hwritten :
      WorkWith.attempt (WorkWith.host ((Status.ofResult done.1).write inv.dirs.dir)) done.2 =
      (.ok ((Status.ofResult done.1).write inv.dirs.dir done.2.2).1,
        (done.2.1, ((Status.ofResult done.1).write inv.dirs.dir done.2.2).2)) := rfl
  rw [Work.bind_of_ok hwritten]
  cases hsettle : settle done.1 ((Status.ofResult done.1).write inv.dirs.dir done.2.2).1 with
  | ok u =>
    simp only [hsettle]
    rfl
  | error f =>
    simp only [hsettle]
    rfl

end Executor

namespace Job
variable {σ : Type}

/-- The name of the directory a test gets next. -/
def nextName (job : Job σ) (h : Host) (spec : Spec) : String :=
  numbered spec.base (job.nextNumber h spec.base)

/-- The job once that name is given away. -/
def named (job : Job σ) (h : Host) (spec : Spec) : Job σ :=
  { job with used := job.used.insert spec.base (job.nextNumber h spec.base) }

/-- A test whose directory cannot be made is not executed. -/
theorem runTest_of_refused (e : Executor σ) {spec : Spec} {job : Job σ} {h h' : Host}
    {f : Failure}
    (hc : TrialDirs.create job.resultDir (job.nextName h spec) h = (.error f, h')) :
    runTest e spec (job, h) = (.error f, (job.named h spec, h')) := by
  unfold runTest
  have hname : nextDirName spec (job, h) = (.ok (job.nextName h spec), (job.named h spec, h)) := rfl
  rw [Work.bind_of_ok hname]
  have hdir : WorkWith.see (·.resultDir) (job.named h spec, h) =
      (.ok job.resultDir, (job.named h spec, h)) := rfl
  rw [Work.bind_of_ok hdir]
  have hcreate : WorkWith.host (TrialDirs.create job.resultDir (job.nextName h spec))
      (job.named h spec, h) = (.error f, (job.named h spec, h')) := by
    simp only [WorkWith.host, hc]
  exact Work.bind_of_error hcreate

/-- What becomes of a test in its directory. -/
def executed (e : Executor σ) (spec : Spec) (job : Job σ) (dirs : TrialDirs) (h : Host) :
    Except Failure Unit × σ × Host :=
  e.run ⟨spec.name, spec.args, dirs⟩ (job.executor, h)

/-- The outcome of a test that ended so. -/
def outcomeOf (spec : Spec) (dirs : TrialDirs) (result : Except Failure Unit) (span : Nat) :
    Outcome where
  spec
  testDir := dirs.dir
  status := Status.ofResult result
  failure := match result with
    | .ok _ => none
    | .error f => some f
  span

theorem outcomeOf_testDir (spec : Spec) (dir : String) (result : Except Failure Unit) (span : Nat) :
    (outcomeOf spec (.of dir) result span).testDir = dir := rfl

/-- A test with a directory is executed there, and has an outcome once its line is in the log. -/
theorem runTest_of_created (e : Executor σ) {spec : Spec} {job : Job σ} {h h' : Host}
    {dirs : TrialDirs}
    (hc : TrialDirs.create job.resultDir (job.nextName h spec) h = (.ok dirs, h')) :
    runTest e spec (job, h) =
      let done := executed e spec (job.named h spec) dirs h'
      let logged := Work.change (·.append · (statusLog job.resultDir)
        (logLine (job.nextName h spec) (Status.ofResult done.1))) done.2.2
      (logged.1.map fun _ => outcomeOf spec dirs done.1 (done.2.2.clock - h'.clock),
        ({ job.named h spec with executor := done.2.1 }, logged.2)) := by
  unfold runTest
  have hname : nextDirName spec (job, h) = (.ok (job.nextName h spec), (job.named h spec, h)) := rfl
  rw [Work.bind_of_ok hname]
  have hdir : WorkWith.see (·.resultDir) (job.named h spec, h) =
      (.ok job.resultDir, (job.named h spec, h)) := rfl
  rw [Work.bind_of_ok hdir]
  have hcreate : WorkWith.host (TrialDirs.create job.resultDir (job.nextName h spec))
      (job.named h spec, h) = (.ok dirs, (job.named h spec, h')) := by
    simp only [WorkWith.host, hc]
  rw [Work.bind_of_ok hcreate]
  have hstart : WorkWith.host (Work.see (·.clock)) (job.named h spec, h') =
      (.ok h'.clock, (job.named h spec, h')) := rfl
  rw [Work.bind_of_ok hstart]
  have hdone : WorkWith.attempt
      (WorkWith.zoom (·.executor) (fun s (job : Job σ) => { job with executor := s })
        (e.run ⟨spec.name, spec.args, dirs⟩)) (job.named h spec, h') =
      (.ok (executed e spec (job.named h spec) dirs h').1,
        ({ job.named h spec with executor := (executed e spec (job.named h spec) dirs h').2.1 },
          (executed e spec (job.named h spec) dirs h').2.2)) := rfl
  rw [Work.bind_of_ok hdone]
  generalize executed e spec (job.named h spec) dirs h' = done
  obtain ⟨result, x, h₂⟩ := done
  simp only [Work.bind_apply, WorkWith.host, Work.see, WorkWith.see, appendStatus]
  cases hlog : Work.change (·.append · (statusLog job.resultDir)
      (logLine (job.nextName h spec) (Status.ofResult result))) h₂ with
  | mk logged h₃ =>
    have hdir' : (job.named h spec).resultDir = job.resultDir := rfl
    simp only [hdir', hlog]
    cases logged <;> rfl

/-- A test has no directory and is not executed, or is executed in its directory and
ends so if its line can be added to the log. -/
theorem runTest_cases (e : Executor σ) (spec : Spec) (job : Job σ) (h : Host) :
    (∃ f h₁, TrialDirs.create job.resultDir (job.nextName h spec) h = (.error f, h₁) ∧
      runTest e spec (job, h) = (.error f, (job.named h spec, h₁))) ∨
    ∃ dirs h₁ result x h₂ logged h₃,
      TrialDirs.create job.resultDir (job.nextName h spec) h = (.ok dirs, h₁) ∧
      executed e spec (job.named h spec) dirs h₁ = (result, x, h₂) ∧
      Work.change (·.append · (statusLog job.resultDir)
        (logLine (job.nextName h spec) (Status.ofResult result))) h₂ = (logged, h₃) ∧
      runTest e spec (job, h) =
        (logged.map fun _ => outcomeOf spec dirs result (h₂.clock - h₁.clock),
          ({ job.named h spec with executor := x }, h₃)) := by
  rcases hc : TrialDirs.create job.resultDir (job.nextName h spec) h with ⟨f | dirs, h₁⟩
  · exact .inl ⟨f, h₁, rfl, runTest_of_refused e hc⟩
  · rcases hdone : executed e spec (job.named h spec) dirs h₁ with ⟨result, x, h₂⟩
    rcases hlog : Work.change (·.append · (statusLog job.resultDir)
      (logLine (job.nextName h spec) (Status.ofResult result))) h₂ with ⟨logged, h₃⟩
    refine .inr ⟨dirs, h₁, result, x, h₂, logged, h₃, rfl, hdone, hlog, ?_⟩
    rw [runTest_of_created e hc, hdone]
    dsimp only
    rw [hlog]

/-! ### Turns -/

/-- One test of a run: the job before, how the test ended, and the job after. -/
structure Turn (σ : Type) where
  spec : Spec
  before : Job σ × Host
  ended : Except Failure Outcome
  after : Job σ × Host

namespace Turn

/-- The turn of a test. -/
def take (e : Executor σ) (spec : Spec) (s : Job σ × Host) : Turn σ where
  spec
  before := s
  ended := (runTest e spec s).1
  after := (runTest e spec s).2

/-- The name of the directory of the turn. -/
def dirName (turn : Turn σ) : String :=
  turn.before.1.nextName turn.before.2 turn.spec

/-- Does the run end with this turn? -/
def isLast (stopOnFail : Bool) (turn : Turn σ) : Bool :=
  match turn.ended with
  | .ok outcome => stopOnFail && !outcome.passed
  | .error _ => true

end Turn

/-- The job once it has reported. -/
def reported (event : Event) (s : Job σ × Host) : Job σ × Host :=
  ({ s.1 with events := s.1.events ++ [event] }, s.2)

/-- The job as the next turn finds it. -/
def Turn.left (turn : Turn σ) : Job σ × Host :=
  match turn.ended with
  | .ok outcome => reported (.testComplete outcome) turn.after
  | .error _ => turn.after

theorem Turn.left_host (turn : Turn σ) : turn.left.2 = turn.after.2 := by
  unfold Turn.left
  cases turn.ended <;> rfl

/-- A run goes on only after a test that has an outcome. -/
theorem Turn.ended_of_isLast_eq_false (turn : Turn σ) {stopOnFail : Bool}
    (h : turn.isLast stopOnFail = false) : ∃ outcome, turn.ended = .ok outcome := by
  unfold Turn.isLast at h
  cases hended : turn.ended with
  | ok outcome => exact ⟨outcome, rfl⟩
  | error f => simp [hended] at h

/-- The turns of the tests, up to the first that ends the run. -/
def turns (e : Executor σ) (stopOnFail : Bool) : List Spec → Job σ × Host → List (Turn σ)
  | [], _ => []
  | spec :: rest, s =>
    let turn := Turn.take e spec (reported (.testStart spec) s)
    turn :: if turn.isLast stopOnFail then [] else turns e stopOnFail rest turn.left

/-- A turn ends as its test does. -/
theorem ended_of_mem_turns {e : Executor σ} {stopOnFail : Bool} {specs : List Spec}
    {s : Job σ × Host} {turn : Turn σ} (h : turn ∈ turns e stopOnFail specs s) :
    turn.ended = (runTest e turn.spec turn.before).1 := by
  induction specs generalizing s with
  | nil => exact absurd h List.not_mem_nil
  | cons spec rest ih =>
    rw [turns] at h
    rcases List.mem_cons.mp h with rfl | h
    · simp only [Turn.take]
    · split at h
      · exact absurd h List.not_mem_nil
      · exact ih h

/-- The turns of a run of the tests that are selected. -/
def turnsOf (e : Executor σ) (specs : List Spec) (o : Options) (s : Job σ × Host) :
    List (Turn σ) :=
  let selected := o.select specs
  turns e o.stopOnFail selected (reported (.jobStart s.1.resultDir selected.length) s)

/-- The host at the end of some turns. -/
def hostAfter (h : Host) (ts : List (Turn σ)) : Host :=
  ts.foldl (fun _ turn => turn.after.2) h

theorem runEach_cons (e : Executor σ) (stopOnFail : Bool) (spec : Spec) (rest : List Spec)
    (summary : Summary) (s : Job σ × Host) :
    runEach e stopOnFail (spec :: rest) summary s =
      let turn := Turn.take e spec (reported (.testStart spec) s)
      match turn.ended with
      | .error f => (.error f, turn.left)
      | .ok outcome =>
        if turn.isLast stopOnFail then (.ok (summary.add outcome, [outcome]), turn.left)
        else
          let later := runEach e stopOnFail rest (summary.add outcome) turn.left
          (later.1.map fun (summary, outcomes) => (summary, outcome :: outcomes), later.2) := by
  have hreport : ∀ (ev : Event) (s : Job σ × Host), report ev s = (.ok (), reported ev s) :=
    fun _ _ => rfl
  rw [runEach, Work.bind_of_ok (hreport _ _), Work.bind_apply]
  unfold Turn.take Turn.isLast Turn.left
  rcases runTest e spec (reported (.testStart spec) s) with ⟨f | outcome, s'⟩
  · rfl
  · simp only [Work.bind_of_ok (hreport _ _)]
    cases stopOnFail && !outcome.passed with
    | true => rfl
    | false =>
      simp only [Bool.false_eq_true, if_false, Work.bind_apply]
      rcases runEach e stopOnFail rest (summary.add outcome) (reported (.testComplete outcome) s')
        with ⟨f | done, s''⟩
      · rfl
      · rfl

/-- A run ends with the outcomes of its turns, or with the failure of the last of them. -/
theorem runEach_turns (e : Executor σ) (stopOnFail : Bool) (specs : List Spec) (summary : Summary)
    (s : Job σ × Host) :
    (runEach e stopOnFail specs summary s).1.map (·.2) =
        (turns e stopOnFail specs s).mapM (·.ended) ∧
      (runEach e stopOnFail specs summary s).2.2 =
        hostAfter s.2 (turns e stopOnFail specs s) := by
  induction specs generalizing summary s with
  | nil => exact ⟨rfl, rfl⟩
  | cons spec rest ih =>
    rw [runEach_cons, turns]
    generalize Turn.take e spec (reported (.testStart spec) s) = turn
    have hleft := turn.left_host
    simp only [List.mapM_cons, hostAfter, List.foldl_cons]
    cases hended : turn.ended with
    | error f =>
      have hlast : turn.isLast stopOnFail = true := by simp [Turn.isLast, hended]
      simp only [hlast, if_true]
      exact ⟨rfl, hleft⟩
    | ok outcome =>
      cases hlast : turn.isLast stopOnFail with
      | true => exact ⟨by simp [Except.map], by simp [hleft]⟩
      | false =>
        obtain ⟨hresult, hhost⟩ := ih (summary.add outcome) turn.left
        simp only [Bool.false_eq_true, if_false, ← hresult, hhost, hleft]
        refine ⟨?_, rfl⟩
        generalize (runEach e stopOnFail rest (summary.add outcome) turn.left).1 = later
        cases later <;> rfl

/-- A whole run reports how many tests there are, runs them, and reports what came of them. -/
theorem runAll_eq (e : Executor σ) {specs : List Spec} {o : Options} {s begun : Job σ × Host}
    (hbegun : begun = reported (.jobStart s.1.resultDir (o.select specs).length) s) :
    runAll e specs o s =
      match runEach e o.stopOnFail (o.select specs) .empty begun with
      | (.ok (counted, outcomes), t) =>
        let summary := { counted with span := t.2.clock - s.2.clock }
        (.ok (summary, outcomes), reported (.jobComplete summary outcomes) t)
      | (.error f, t) => (.error f, t) := by
  have hstart : WorkWith.host (Work.see (·.clock)) s = (.ok s.2.clock, s) := rfl
  have hdir : WorkWith.see (·.resultDir) s = (.ok s.1.resultDir, s) := rfl
  have hreport : report (.jobStart s.1.resultDir (o.select specs).length) s = (.ok (), begun) := by
    rw [hbegun]
    rfl
  unfold runAll
  rw [Work.bind_of_ok hstart, Work.bind_of_ok hdir, Work.bind_of_ok hreport, Work.bind_apply]
  rcases runEach e o.stopOnFail (o.select specs) .empty begun with ⟨f | ⟨counted, outcomes⟩, t⟩
  · rfl
  · rfl

/-- It ends as its turns do. -/
theorem runAll_turns (e : Executor σ) (specs : List Spec) (o : Options) (s : Job σ × Host) :
    (runAll e specs o s).1.map (·.2) = (turnsOf e specs o s).mapM (·.ended) ∧
      (runAll e specs o s).2.2 = hostAfter s.2 (turnsOf e specs o s) := by
  let begun := reported (.jobStart s.1.resultDir (o.select specs).length) s
  have hbegun : begun = reported (.jobStart s.1.resultDir (o.select specs).length) s := rfl
  obtain ⟨hresult, hhost⟩ := runEach_turns e o.stopOnFail (o.select specs) .empty begun
  unfold turnsOf
  rw [runAll_eq e hbegun, ← hresult, show hostAfter s.2 _ = hostAfter begun.2 _ from rfl, ← hhost]
  rcases runEach e o.stopOnFail (o.select specs) .empty begun with ⟨f | ⟨counted, outcomes⟩, t⟩
  · exact ⟨rfl, rfl⟩
  · exact ⟨rfl, rfl⟩

/-! ### What every turn keeps, the run keeps -/

section
variable {Inv : Job σ × Host → Prop} {R : Host → Host → Prop} {e : Executor σ} {stopOnFail : Bool}

/-- Each turn of a run begins with what holds after the turns before it, and a
relation that leads over every turn leads from each turn to all later ones. -/
theorem turns_keep (refl : ∀ h, R h h) (trans : ∀ {h i j}, R h i → R i j → R h j)
    (report : ∀ event s, Inv s → Inv (reported event s))
    (step : ∀ spec s, Inv s → R s.2 (Turn.take e spec s).after.2 ∧
      ∀ outcome, (Turn.take e spec s).ended = .ok outcome → Inv (Turn.take e spec s).after)
    (specs : List Spec) {s : Job σ × Host} (hs : Inv s) :
    (∀ turn ∈ turns e stopOnFail specs s,
        turn = Turn.take e turn.spec turn.before ∧ Inv turn.before ∧ R s.2 turn.before.2) ∧
      R s.2 (hostAfter s.2 (turns e stopOnFail specs s)) ∧
      (turns e stopOnFail specs s).Pairwise fun early late =>
        (∃ outcome, early.ended = .ok outcome) ∧ R early.after.2 late.before.2 := by
  induction specs generalizing s with
  | nil => exact ⟨by simp [turns], refl _, .nil⟩
  | cons spec rest ih =>
    have hbegun := report (.testStart spec) s hs
    obtain ⟨hover, hafter⟩ := step spec _ hbegun
    have hfirst : ∀ turn, turn = Turn.take e spec (reported (.testStart spec) s) →
        turn = Turn.take e turn.spec turn.before ∧ Inv turn.before ∧ R s.2 turn.before.2 := by
      intro turn hturn
      rw [hturn]
      exact ⟨rfl, hbegun, refl _⟩
    rw [turns]
    revert hfirst hover hafter
    generalize Turn.take e spec (reported (.testStart spec) s) = turn
    intro hover hafter hfirst
    cases hlast : turn.isLast stopOnFail with
    | true =>
      simp only [if_true, List.mem_singleton]
      exact ⟨hfirst, hover, List.pairwise_singleton _ _⟩
    | false =>
      obtain ⟨outcome, hended⟩ := turn.ended_of_isLast_eq_false hlast
      have hleft : turn.left = reported (.testComplete outcome) turn.after := by
        simp [Turn.left, hended]
      obtain ⟨heach, hend, hpairs⟩ := ih (hleft ▸ report _ _ (hafter outcome hended))
      rw [turn.left_host] at heach hend
      simp only [Bool.false_eq_true, if_false, List.forall_mem_cons, List.pairwise_cons]
      refine ⟨⟨hfirst _ rfl, fun t ht => ?_⟩, trans hover hend,
        fun t ht => ⟨⟨outcome, hended⟩, (heach t ht).2.2⟩, hpairs⟩
      exact ⟨(heach t ht).1, (heach t ht).2.1, trans hover (heach t ht).2.2⟩

/-- What every turn adds to a view of the host, a run adds in the order of its turns. -/
theorem turns_fold {β : Type} (view : Host → β) (add : β → Turn σ → β)
    (report : ∀ event s, Inv s → Inv (reported event s))
    (step : ∀ spec s, Inv s →
      view (Turn.take e spec s).after.2 = add (view s.2) (Turn.take e spec s) ∧
        ∀ outcome, (Turn.take e spec s).ended = .ok outcome → Inv (Turn.take e spec s).after)
    (specs : List Spec) {s : Job σ × Host} (hs : Inv s) :
    view (hostAfter s.2 (turns e stopOnFail specs s)) =
      (turns e stopOnFail specs s).foldl add (view s.2) := by
  induction specs generalizing s with
  | nil => rfl
  | cons spec rest ih =>
    obtain ⟨hover, hafter⟩ := step spec _ (report (.testStart spec) s hs)
    change view _ = add (view s.2) _ at hover
    rw [turns]
    revert hover hafter
    generalize Turn.take e spec (reported (.testStart spec) s) = turn
    intro hafter hover
    cases hlast : turn.isLast stopOnFail with
    | true => exact hover
    | false =>
      obtain ⟨outcome, hended⟩ := turn.ended_of_isLast_eq_false hlast
      have hleft : turn.left = reported (.testComplete outcome) turn.after := by
        simp [Turn.left, hended]
      have hrest := ih (hleft ▸ report _ _ (hafter outcome hended))
      rw [turn.left_host, hover] at hrest
      exact hrest

end

end Job
end DeviceLab
