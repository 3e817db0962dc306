import DeviceLab.Proofs.NextName

/-! Every test has a directory of its own.

A base gives its name to the first of its tests and numbers to the others, the least
ones that have not been used up and are taken for free (`History.fresh`). A name is
taken for free as well if it leads to something that cannot be asked for by its path
(`free_iff`); a test of that name is not run. A directory is made where nothing was, so
as long as none is removed, all are at different places, whatever the tests are named
(`turns_apart`). -/
namespace DeviceLab

/-! ### Directories that stay -/

/-- No directory goes away. -/
def Host.Stays (h h' : Host) : Prop :=
  ∀ p, h.tree.get? p = some .directory → h'.tree.get? p = some .directory

theorem Host.Stays.refl (h : Host) : h.Stays h := fun _ hp => hp

theorem Status.write_stays (s : Status) (dir : String) : Work.Keeps Host.Stays (s.write dir) :=
  Work.keeps_change Host.Stays.refl fun h t ht => by
    obtain ⟨q, r, -, hfree, rfl⟩ := Tree.write_eq_put ht
    exact fun p => Tree.directory_put _ hfree

theorem Work.append_stays (path text : String) :
    Work.Keeps Host.Stays (Work.change (·.append · path text)) :=
  Work.keeps_change Host.Stays.refl fun h t ht => by
    obtain ⟨q, c, r, htarget, rfl⟩ := Tree.target_of_append ht
    exact fun p => Tree.directory_put _ (Tree.found?_of_target htarget).1

namespace Job
variable {σ : Type}

/-! ### The directory of a turn -/

/-- The directory of the test is made at the place. -/
def Turn.At (turn : Turn σ) (p : Place) : Prop :=
  let dir := Path.join turn.before.1.resultDir turn.dirName
  ∃ h t, TrialDirs.create turn.before.1.resultDir turn.dirName turn.before.2 = (.ok (.of dir), h) ∧
    TrialDirs.Made turn.before.1.resultDir dir turn.before.2 h t p

/-- If the test is executed, that does not remove the directory at the place. -/
def Turn.Spares (e : Executor σ) (turn : Turn σ) (p : Place) : Prop :=
  ∀ dirs h, TrialDirs.create turn.before.1.resultDir turn.dirName turn.before.2 = (.ok dirs, h) →
    h.tree.get? p = some .directory →
    (e.execute ⟨turn.spec.name, turn.spec.args, dirs⟩ (turn.before.1.executor, h)).2.2.tree.get? p =
      some .directory

/-- The directories of two turns are not the same. -/
def Turn.Apart (early late : Turn σ) : Prop :=
  ∀ p q, early.At p → late.At q → p ≠ q

theorem Turn.At.absent {turn : Turn σ} {p : Place} (at_p : turn.At p) :
    turn.before.2.tree.get? p = none := by
  obtain ⟨h, t, -, made⟩ := at_p
  refine Option.eq_none_iff_forall_ne_some.mpr fun entry hentry => ?_
  cases made.absent.symm.trans (Tree.makeDirectories_extends made.results p entry hentry)

section
variable {e : Executor σ} {spec : Spec} {s : Job σ × Host} {p : Place}

/-- A test that has an outcome has a directory. -/
theorem at_of_ended {turn : Turn σ} {outcome : Outcome}
    (hended : (runTest e turn.spec turn.before).1 = .ok outcome) :
    outcome.testDir = Path.join turn.before.1.resultDir turn.dirName ∧ ∃ p, turn.At p := by
  obtain ⟨spec, ⟨job, h⟩, ended, after⟩ := turn
  dsimp only at hended
  rcases runTest_cases e spec job h with
    ⟨f, h₁, -, hrun⟩ | ⟨dirs, h₁, result, x, h₂, logged, h₃, hc, -, -, hrun⟩
  · rw [hrun] at hended
    cases hended
  · obtain ⟨rfl, t, p, made⟩ := TrialDirs.create_eq_ok hc
    rw [hrun] at hended
    cases logged with
    | error f => cases hended
    | ok u =>
      cases hended
      refine ⟨?_, p, h₁, t, hc, made⟩
      rw [outcomeOf_testDir]
      rfl

/-- A directory that is there, or is the test's own, is there after the turn if the
test does not remove it. -/
theorem take_stays (hthere : s.2.tree.get? p = some .directory ∨ (Turn.take e spec s).At p)
    (spares : (Turn.take e spec s).Spares e p) :
    (Turn.take e spec s).after.2.tree.get? p = some .directory := by
  obtain ⟨job, h⟩ := s
  have hmade : ∀ {created h₁},
      TrialDirs.create job.resultDir (job.nextName h spec) h = (created, h₁) →
        h₁.tree.get? p = some .directory := by
    intro created h₁ hc
    rcases hthere with hp | ⟨h₂, t, hc', made⟩
    · have hgrown := TrialDirs.create_grown job.resultDir (job.nextName h spec) h
      rw [hc] at hgrown
      exact hgrown.tree p _ hp
    · obtain rfl : h₁ = h₂ := congrArg Prod.snd (hc.symm.trans hc')
      rw [made.after]
      exact TrialDirs.laidOut_self _ (Tree.ne_nil_of_absent made.absent)
  rw [Turn.take]
  dsimp only
  rcases runTest_cases e spec job h with
    ⟨f, h₁, hc, hrun⟩ | ⟨dirs, h₁, result, x, h₂, logged, h₃, hc, hdone, hlog, hrun⟩
  · rw [hrun]
    exact hmade hc
  · have hexecuted : (executed e spec (job.named h spec) dirs h₁).2.2.tree.get? p =
        some .directory := by
      rw [executed, Executor.run_eq]
      exact Status.write_stays _ _ _ p (spares dirs h₁ hc (hmade hc))
    have hlogged := Work.append_stays (statusLog job.resultDir)
      (logLine (job.nextName h spec) (Status.ofResult result)) h₂ p
    rw [hdone] at hexecuted
    rw [hlog] at hlogged
    rw [hrun]
    exact hlogged hexecuted

end

/-! ### The directories of a run -/

/-- The directories of these tests are there. -/
def Standing (past : List (Turn σ)) (h : Host) : Prop :=
  ∀ turn ∈ past, ∀ p, turn.At p → h.tree.get? p = some .directory

/-- No test that is run removes its own directory, or that of a test before it. -/
def Spared (e : Executor σ) (past run : List (Turn σ)) : Prop :=
  ∀ front turn back, run = front ++ turn :: back →
    ∀ early ∈ past ++ front ++ [turn], ∀ p, early.At p → turn.Spares e p

/-- If all directories are spared, they are there in the end, and at different places. -/
theorem turns_apart {e : Executor σ} {stopOnFail : Bool} (specs : List Spec)
    {past : List (Turn σ)} {s : Job σ × Host} (standing : Standing past s.2)
    (apart : past.Pairwise Turn.Apart) (spared : Spared e past (turns e stopOnFail specs s)) :
    Standing (past ++ turns e stopOnFail specs s)
        (hostAfter s.2 (turns e stopOnFail specs s)) ∧
      (past ++ turns e stopOnFail specs s).Pairwise Turn.Apart := by
  induction specs generalizing past s with
  | nil => simpa [turns, hostAfter] using ⟨standing, apart⟩
  | cons spec rest ih =>
    rw [turns] at spared ⊢
    have hbefore : (Turn.take e spec (reported (.testStart spec) s)).before.2 = s.2 := rfl
    have hstays := @take_stays _ e spec (reported (.testStart spec) s)
    revert spared hbefore hstays
    generalize Turn.take e spec (reported (.testStart spec) s) = turn
    intro spared hbefore hstays
    have hown := spared [] turn _ rfl
    have hstanding : Standing (past ++ [turn]) turn.left.2 := by
      intro early hearly p hp
      rw [turn.left_host]
      refine hstays ?_ (hown early (by simpa using hearly) p hp)
      rcases List.mem_append.mp hearly with hpast | hturn
      · exact .inl (standing early hpast p hp)
      · obtain rfl := List.mem_singleton.mp hturn
        exact .inr hp
    have hapart : (past ++ [turn]).Pairwise Turn.Apart := by
      refine List.pairwise_append.mpr ⟨apart, List.pairwise_singleton _ _, ?_⟩
      intro early hearly late hlate p q hp hq heq
      obtain rfl := List.mem_singleton.mp hlate
      subst heq
      have habsent := hq.absent
      rw [hbefore, standing early hearly p hp] at habsent
      cases habsent
    rw [List.append_cons]
    cases hlast : turn.isLast stopOnFail with
    | true =>
      rw [turn.left_host] at hstanding
      simpa [hostAfter] using ⟨hstanding, hapart⟩
    | false =>
      simp only [hlast, Bool.false_eq_true, if_false] at spared ⊢
      have hlater : Spared e (past ++ [turn]) (turns e stopOnFail rest turn.left) := by
        intro front late back hrun early hearly
        refine spared (turn :: front) late back (by rw [hrun]; rfl) early ?_
        simpa using hearly
      have := ih hstanding hapart hlater
      rwa [turn.left_host] at this

/-! ### The tests a job has run -/

/-- The number of the test's directory. -/
def Turn.number (turn : Turn σ) : Nat :=
  turn.before.1.nextNumber turn.before.2 turn.spec.base

/-- The job has run these tests so far, whatever executed them and whatever else was
going on between them. -/
inductive History : Job σ → List (Turn σ) → Prop where
  | new (resultDir : String) (events : List Event) (x : σ) :
      History ⟨resultDir, .empty, events, x⟩ []
  | report {job : Job σ} {past : List (Turn σ)} (event : Event) (h : Host) :
      History job past → History (reported event (job, h)).1 past
  | test {job : Job σ} {past : List (Turn σ)} (e : Executor σ) (spec : Spec) (h : Host) :
      History job past →
        History (Turn.take e spec (job, h)).after.1 (past ++ [Turn.take e spec (job, h)])

/-- A test uses up the numbers of its base up to its own. -/
theorem take_usedUp (e : Executor σ) (spec : Spec) (job : Job σ) (h : Host) (base : String) :
    (Turn.take e spec (job, h)).after.1.usedUp base =
      if spec.base = base then job.nextNumber h spec.base else job.usedUp base := by
  have hused : (Turn.take e spec (job, h)).after.1.used = (job.named h spec).used := by
    rw [Turn.take]
    dsimp only
    rcases runTest_cases e spec job h with
      ⟨f, h₁, -, hrun⟩ | ⟨dirs, h₁, result, x, h₂, logged, h₃, -, -, -, hrun⟩
    · rw [hrun]
    · rw [hrun]
  rw [usedUp, hused, named, Dict.get?_insert]
  split <;> rfl

/-- A number has been given to a test of the base, or was passed over on the way to it. -/
def UsedUp (past : List (Turn σ)) (base : String) (m : Nat) : Prop :=
  1 ≤ m ∧ ∃ turn ∈ past, turn.spec.base = base ∧ m ≤ turn.number

theorem usedUp_concat {past : List (Turn σ)} {turn : Turn σ} {base : String} {m : Nat} :
    UsedUp (past ++ [turn]) base m ↔
      UsedUp past base m ∨ 1 ≤ m ∧ turn.spec.base = base ∧ m ≤ turn.number := by
  simp only [UsedUp, List.mem_append, List.mem_singleton]
  constructor
  · rintro ⟨hm, early, hearly | rfl, hbase⟩
    · exact .inl ⟨hm, early, hearly, hbase⟩
    · exact .inr ⟨hm, hbase⟩
  · rintro (⟨hm, early, hearly, hbase⟩ | ⟨hm, hbase⟩)
    · exact ⟨hm, early, .inl hearly, hbase⟩
    · exact ⟨hm, turn, .inr rfl, hbase⟩

section
variable {job : Job σ} {past : List (Turn σ)} {h : Host} {spec : Spec}

/-- The job counts the numbers that have been used up. -/
theorem History.usedUp_iff (history : History job past) {base : String} {m : Nat} :
    UsedUp past base m ↔ 1 ≤ m ∧ m ≤ job.usedUp base := by
  induction history with
  | new resultDir events x =>
    have hnone : (⟨resultDir, .empty, events, x⟩ : Job σ).usedUp base = 0 := rfl
    simp only [UsedUp, List.not_mem_nil, false_and, exists_false, and_false, hnone, false_iff]
    omega
  | report event h _ ih => exact ih
  | @test job past e spec h _ ih =>
    have hnumber : (Turn.take e spec (job, h)).number = job.nextNumber h spec.base := rfl
    have hbase : (Turn.take e spec (job, h)).spec.base = spec.base := rfl
    rw [usedUp_concat, ih, take_usedUp, hnumber, hbase]
    by_cases hsame : spec.base = base
    · subst hsame
      have := (nextNumber_least job h spec.base).1
      simp only [if_true, true_and]
      omega
    · simp [hsame]

/-- A base that has been used has used up a number. -/
theorem usedUp_of_mem {turn : Turn σ} (hmem : turn ∈ past) : UsedUp past turn.spec.base 1 :=
  ⟨Nat.le_refl 1, turn, hmem, rfl,
    Nat.succ_le_of_lt (Nat.zero_lt_of_lt
      (nextNumber_least turn.before.1 turn.before.2 turn.spec.base).1)⟩

/-! ### Names -/

/-- The name is taken for free: who asks for its path is not told of anything there. -/
def Free (job : Job σ) (h : Host) (name : String) : Prop :=
  h.exists? (Path.join job.resultDir name) = false

instance (job : Job σ) (h : Host) (name : String) : Decidable (job.Free h name) :=
  inferInstanceAs (Decidable (_ = _))

/-- What is in the tree where the steps of the name lead from the results directory. -/
def entryAt (job : Job σ) (h : Host) (name : String) : Option Entry :=
  match h.tree.reach h.cwd (Path.join job.resultDir name) with
  | .ok p => h.tree.get? p
  | .error _ => none

/-- Who asks for the entry by this path is refused, although its steps lead there. -/
inductive Unaskable (path : String) : Entry → Prop where
  | nul {e : Entry} : path.toList.contains '\x00' = true → Unaskable path e
  | empty {e : Entry} : path = "" → Unaskable path e
  | tooLong {e : Entry} : Tree.maxPath ≤ path.utf8ByteSize → Unaskable path e
  | slash {c : Content} {runnable : Bool} : Path.endsInSlash path = true →
      Unaskable path (.file c runnable)

/-- The name leads to something that cannot be asked for by its path. -/
def Overlooked (job : Job σ) (h : Host) (name : String) : Prop :=
  ∃ e, job.entryAt h name = some e ∧ Unaskable (Path.join job.resultDir name) e

theorem entryAt_eq_some_iff {name : String} {e : Entry} :
    job.entryAt h name = some e ↔
      ∃ p, h.tree.reach h.cwd (Path.join job.resultDir name) = .ok p ∧ h.tree.get? p = some e := by
  unfold entryAt
  cases h.tree.reach h.cwd (Path.join job.resultDir name) with
  | error _ => simp
  | ok p => simp

/-- An entry is found by the path that leads to it, unless it cannot be asked for. -/
theorem not_free_iff {name : String} :
    ¬ job.Free h name ↔
      ∃ e, job.entryAt h name = some e ∧ ¬ Unaskable (Path.join job.resultDir name) e := by
  simp only [Free, Host.exists?, Tree.exists?_eq, Bool.not_eq_false, Option.isSome_iff_exists,
    Tree.found?_eq_some_iff, Tree.locate_eq_ok_iff, entryAt_eq_some_iff]
  constructor
  · rintro ⟨e, p, ⟨hnul, hne, hshort, hreach, hslash⟩, he⟩
    refine ⟨e, ⟨p, hreach, he⟩, fun unaskable => ?_⟩
    cases unaskable with
    | nul h => cases hnul.symm.trans h
    | empty h => exact hne h
    | tooLong h => exact Nat.not_le.mpr hshort h
    | slash h => exact hslash h _ _ he
  · rintro ⟨e, ⟨p, hreach, he⟩, askable⟩
    refine ⟨e, p, ⟨Bool.eq_false_iff.mpr fun h => askable (.nul h), fun h => askable (.empty h),
      Nat.lt_of_not_le fun h => askable (.tooLong h), hreach, fun hslash c r hfile => ?_⟩, he⟩
    obtain rfl : e = .file c r := Option.some.inj (he.symm.trans hfile)
    exact askable (.slash hslash)

/-- A name that is taken for free leads to nothing, or to something that is overlooked. -/
theorem free_iff {name : String} :
    job.Free h name ↔ job.entryAt h name = none ∨ job.Overlooked h name := by
  rw [← not_iff_not, not_free_iff, not_or, ← ne_eq, Option.ne_none_iff_exists', Overlooked]
  constructor
  · rintro ⟨e, he, askable⟩
    refine ⟨⟨e, he⟩, ?_⟩
    rintro ⟨e', he', unaskable⟩
    cases he.symm.trans he'
    exact askable unaskable
  · rintro ⟨⟨e, he⟩, hnot⟩
    exact ⟨e, he, fun unaskable => hnot ⟨e, he, unaskable⟩⟩

/-- No directory is made where something is, so a test of such a name is not run. -/
theorem runTest_of_present (e : Executor σ) {entry : Entry}
    (hentry : job.entryAt h (job.nextName h spec) = some entry) :
    ∃ f, (runTest e spec (job, h)).1 = .error f := by
  rcases hc : TrialDirs.create job.resultDir (job.nextName h spec) h with ⟨f | dirs, h₁⟩
  · exact ⟨f, by rw [runTest_of_refused e hc]⟩
  · obtain ⟨-, t, p, made⟩ := TrialDirs.create_eq_ok hc
    obtain ⟨q, hreach, hq⟩ := entryAt_eq_some_iff.mp hentry
    have hext := Tree.makeDirectories_extends made.results
    obtain rfl : q = p := Except.ok.inj ((Tree.reach_of_directories (fun q h => hext q _ h)
      hreach).symm.trans (Tree.reach_of_locate made.located))
    cases made.absent.symm.trans (hext q _ hq)

/-- The name of the next test: that of its base if this is new and taken for free, and the
base with the least number from 2 on, if it is not, that has not been used up and is. -/
structure Fresh (job : Job σ) (past : List (Turn σ)) (h : Host) (spec : Spec) (name : String) :
    Prop where
  /-- The search has found it after so many tries, and would not find another one after more. -/
  found : ∀ tries, h.tree.entries.length + 2 ≤ tries →
    numbered spec.base (firstFree (job.taken h spec.base) (job.usedUp spec.base + 1) tries) = name
  free : job.Free h name
  /-- There is nothing of the name in the results directory, unless it is overlooked. -/
  absent_iff : job.entryAt h name = none ↔ ¬ job.Overlooked h name
  first : (∀ turn ∈ past, turn.spec.base ≠ spec.base) → job.Free h spec.base → name = spec.base
  later : ¬ ((∀ turn ∈ past, turn.spec.base ≠ spec.base) ∧ job.Free h spec.base) →
    ∃ k, 2 ≤ k ∧ name = spec.base ++ "." ++ toString k ∧ (∀ m, UsedUp past spec.base m → m < k) ∧
      ∀ j, 2 ≤ j → (∀ m, UsedUp past spec.base m → m < j) →
        job.Free h (spec.base ++ "." ++ toString j) → k ≤ j

theorem numbered_of_two_le (base : String) {n : Nat} (hn : 2 ≤ n) :
    numbered base n = base ++ "." ++ toString n := by
  rw [numbered_eq base hn, dotted, String.append_assoc]

/-- Whatever the job has run and whatever is in its results directory, the next name is fresh. -/
theorem History.fresh (history : History job past) (h : Host) (spec : Spec) :
    Fresh job past h spec (job.nextName h spec) := by
  obtain ⟨habove, hfree, hleast, hfound⟩ := nextNumber_least job h spec.base
  have hnew : (∀ turn ∈ past, turn.spec.base ≠ spec.base) ↔ job.usedUp spec.base = 0 := by
    constructor
    · intro hnone
      by_contra hne
      obtain ⟨-, turn, hturn, hbase, -⟩ :=
        history.usedUp_iff.mpr ⟨Nat.pos_of_ne_zero hne, Nat.le_refl _⟩
      exact hnone turn hturn hbase
    · intro hzero turn hturn hbase
      have := (history.usedUp_iff.mp (hbase ▸ usedUp_of_mem hturn)).2
      omega
  refine ⟨fun tries htries => by rw [hfound tries htries, nextName], hfree, ⟨fun hnone => ?_,
    (free_iff.mp hfree).resolve_right⟩, fun hnone hbare => ?_, fun hother => ?_⟩
  · rintro ⟨e, he, -⟩
    cases hnone.symm.trans he
  · have hone : job.nextNumber h spec.base = 1 := by
      have := hleast 1 (by rw [hnew.mp hnone]; omega) hbare
      omega
    rw [nextName, hone]
    rfl
  · have hk : 2 ≤ job.nextNumber h spec.base := by
      by_contra hlt
      have hone : job.nextNumber h spec.base = 1 := by omega
      rw [hone] at habove hfree
      exact hother ⟨hnew.mpr (by omega), hfree⟩
    refine ⟨_, hk, numbered_of_two_le _ hk, fun m hm => ?_, fun j hj hused hfree => ?_⟩
    · exact Nat.lt_of_le_of_lt (history.usedUp_iff.mp hm).2 habove
    · refine hleast j ?_ (by rwa [taken, numbered_of_two_le _ hj])
      by_cases hzero : job.usedUp spec.base = 0
      · omega
      · exact hused _ (history.usedUp_iff.mpr ⟨Nat.pos_of_ne_zero hzero, Nat.le_refl _⟩)

/-- The tests of one base, in order. -/
def runsOf (base : String) (past : List (Turn σ)) : List (Turn σ) :=
  past.filter (·.spec.base = base)

/-- Each of the tests finds its own name free: the first that of the base, and every
other one that of the base with its number in the order. -/
def Undisturbed (base : String) (runs : List (Turn σ)) : Prop :=
  ∀ (i : Nat) (hi : i < runs.length),
    runs[i].before.1.Free runs[i].before.2 (numbered base (i + 1))

instance (base : String) (runs : List (Turn σ)) : Decidable (Undisturbed base runs) :=
  Nat.decidableBallLT _ _

/-- If each of its tests finds its own name free, a base counts its tests. -/
theorem History.counted (history : History job past) {base : String}
    (undisturbed : Undisturbed base (runsOf base past)) :
    job.usedUp base = (runsOf base past).length ∧
      (runsOf base past).map Turn.dirName =
        (List.range (runsOf base past).length).map fun i => numbered base (i + 1) := by
  induction history with
  | new resultDir events x => exact ⟨rfl, rfl⟩
  | report event h _ ih => exact ih undisturbed
  | @test job past e spec h _ ih =>
    by_cases hbase : spec.base = base
    · have hruns : runsOf base (past ++ [Turn.take e spec (job, h)]) =
          runsOf base past ++ [Turn.take e spec (job, h)] := by
        rw [runsOf, List.filter_append]
        simp [runsOf, Turn.take, hbase]
      rw [hruns] at undisturbed ⊢
      obtain ⟨hused, hnames⟩ := ih fun i hi => by
        simpa only [List.getElem_append_left hi] using
          undisturbed i (Nat.lt_of_lt_of_le hi (by simp))
      have hlast : (Turn.take e spec (job, h)).before.1.Free (Turn.take e spec (job, h)).before.2
          (numbered base ((runsOf base past).length + 1)) := by
        simpa using undisturbed (runsOf base past).length (by simp)
      have hfree : job.taken h base ((runsOf base past).length + 1) = false := hlast
      have hnumber : job.nextNumber h base = (runsOf base past).length + 1 := by
        obtain ⟨habove, -, hleast, -⟩ := nextNumber_least job h base
        have := hleast _ (by omega) hfree
        omega
      have hname : (Turn.take e spec (job, h)).dirName =
          numbered base ((runsOf base past).length + 1) := by
        rw [← hnumber, ← hbase]
        rfl
      rw [take_usedUp, if_pos hbase, hbase, hnumber, List.length_append, List.map_append, hnames,
        List.length_singleton, List.range_succ, List.map_append, List.map_singleton,
        List.map_singleton, hname]
      exact ⟨rfl, rfl⟩
    · have hruns : runsOf base (past ++ [Turn.take e spec (job, h)]) = runsOf base past := by
        rw [runsOf, List.filter_append]
        simp [runsOf, Turn.take, hbase]
      rw [hruns] at undisturbed ⊢
      rw [take_usedUp, if_neg hbase]
      exact ih undisturbed

/-! ### A whole run -/

theorem history_runEach {e : Executor σ} {stopOnFail : Bool} (specs : List Spec) (summary : Summary)
    {past : List (Turn σ)} {s : Job σ × Host} (history : History s.1 past) :
    History (runEach e stopOnFail specs summary s).2.1 (past ++ turns e stopOnFail specs s) := by
  induction specs generalizing past s summary with
  | nil =>
    rw [turns, List.append_nil]
    exact history
  | cons spec rest ih =>
    have htest := History.test e spec s.2 (history.report (.testStart spec) s.2)
    have hsame : ((reported (.testStart spec) (s.1, s.2)).1, s.2) =
        reported (.testStart spec) s := rfl
    rw [hsame] at htest
    rw [runEach_cons, turns, List.append_cons]
    dsimp only
    revert htest
    generalize Turn.take e spec (reported (.testStart spec) s) = turn
    intro htest
    have hleft : History turn.left.1 (past ++ [turn]) := by
      unfold Turn.left
      cases turn.ended with
      | error f => exact htest
      | ok outcome => exact htest.report (.testComplete outcome) turn.after.2
    cases hended : turn.ended with
    | error f =>
      have hlast : turn.isLast stopOnFail = true := by simp [Turn.isLast, hended]
      simpa [hlast] using hleft
    | ok outcome =>
      cases hlast : turn.isLast stopOnFail with
      | true => simpa [hlast] using hleft
      | false => simpa [hlast] using ih (summary.add outcome) hleft

theorem history_runAll {e : Executor σ} {specs : List Spec} {o : Options}
    (history : History job past) (h : Host) :
    History (runAll e specs o (job, h)).2.1 (past ++ turnsOf e specs o (job, h)) := by
  let begun := reported (.jobStart job.resultDir (o.select specs).length) (job, h)
  have hbegun : History begun.1 past := history.report _ h
  have hrun : History (runEach e o.stopOnFail (o.select specs) .empty begun).2.1
      (past ++ turns e o.stopOnFail (o.select specs) begun) := history_runEach _ _ hbegun
  rw [runAll_eq e rfl, turnsOf]
  revert hrun
  dsimp only
  rcases runEach e o.stopOnFail (o.select specs) .empty begun with ⟨f | ⟨counted, outcomes⟩, t⟩
  · exact id
  · exact fun hrun => hrun.report (.jobComplete _ outcomes) t.2

/-- **Names are taken for free, and as small as they can be.** After any tests, and whatever
is in the results directory, the next name is the first of its base that has not been used
up and is taken for free; a base that is left alone counts its tests. There is nothing of
that name in the results directory, unless it is overlooked, and then the test is not run.
A run of tests that remove no test's directory gives each test a directory of its own. -/
theorem names_fresh (history : History job past) :
    (∀ h spec, Fresh job past h spec (job.nextName h spec) ∧
      ∀ e, job.Overlooked h (job.nextName h spec) → ∃ f, (runTest e spec (job, h)).1 = .error f) ∧
    (∀ h name, job.Free h name ↔ job.entryAt h name = none ∨ job.Overlooked h name) ∧
    (∀ base, Undisturbed base (runsOf base past) →
      (runsOf base past).map Turn.dirName =
        (List.range (runsOf base past).length).map fun i => numbered base (i + 1)) ∧
    ∀ (e : Executor σ) (specs : List Spec) (o : Options) (h : Host),
      let run := turnsOf e specs o (job, h)
      History (runAll e specs o (job, h)).2.1 (past ++ run) ∧
      (∀ turn ∈ run, ∀ outcome, turn.ended = .ok outcome →
        outcome.testDir = Path.join turn.before.1.resultDir turn.dirName ∧ ∃ p, turn.At p) ∧
      (Standing past h → past.Pairwise Turn.Apart → Spared e past run →
        (past ++ run).Pairwise Turn.Apart) := by
  refine ⟨fun h spec => ⟨history.fresh h spec, fun e ⟨_, hentry, _⟩ => runTest_of_present e hentry⟩,
    fun h name => free_iff, fun base undisturbed => (history.counted undisturbed).2,
    fun e specs o h => ⟨history_runAll history h, fun turn hturn outcome hended => ?_,
      fun standing apart spared => (turns_apart (o.select specs) standing apart spared).2⟩⟩
  rw [ended_of_mem_turns hturn] at hended
  exact at_of_ended hended

end

theorem noting_spared (past run : List (Turn σ)) : Spared Executor.noting past run := by
  intro front turn back _ early _ p _ dirs h _ hdir
  rw [Executor.noting_after]
  exact Work.append_stays _ _ h p hdir

/-- A tag that is the name of another test with its number gets a number itself, and the
base that is left alone counts its tests. A tag that names a file as a directory is taken
for free, and its test is not run. -/
theorem names_fresh_beside_tag :
    let tree := Tree.empty.put ["r"] .directory
    let s : Job Unit × Host := (⟨"/r", .empty, [], ()⟩, ⟨tree, [], 7, 8, [], 0, none, "", ""⟩)
    let specs : List Spec := [⟨"x", [], none⟩, ⟨"x", [], none⟩, ⟨"y", [], some "x.2"⟩]
    let run := turnsOf Executor.noting specs ⟨false, none⟩ s
    let filed : Host := { s.2 with tree := tree.put ["r", "log"] (.file .empty false) }
    let spec : Spec := ⟨"x", [], some "log/"⟩
    run.map Turn.dirName = ["x", "x.2", "x.2.2"] ∧ run.Pairwise Turn.Apart ∧
      (runsOf "x" run).map Turn.dirName =
        (List.range (runsOf "x" run).length).map (fun i => numbered "x" (i + 1)) ∧
      s.1.nextName filed spec = "log/" ∧ s.1.entryAt filed "log/" = some (.file .empty false) ∧
      ∃ f, (runTest Executor.noting spec (s.1, filed)).1 = .error f := by
  intro tree s specs run filed spec
  have history : History s.1 [] := .new "/r" [] ()
  obtain ⟨hfresh, -, -, hrun⟩ := names_fresh history
  obtain ⟨hafter, -, hapart⟩ := hrun Executor.noting specs ⟨false, none⟩ s.2
  have hname : s.1.nextName filed spec = "log/" := by decide +kernel
  have hentry : s.1.entryAt filed "log/" = some (.file .empty false) := by decide +kernel
  have hslash : Path.endsInSlash (Path.join s.1.resultDir "log/") = true := by decide +kernel
  refine ⟨by decide +kernel, ?_, (names_fresh hafter).2.2.1 "x" (by decide +kernel), hname, hentry,
    ?_⟩
  · exact hapart (fun _ hturn => absurd hturn List.not_mem_nil) .nil (noting_spared _ _)
  · exact (hfresh filed spec).2 Executor.noting (hname ▸ ⟨_, hentry, .slash hslash⟩)

end Job
end DeviceLab
