import DeviceLab.Proofs.Results

/-! Where the directories of tests are made.

A test's directory has the name of the test, and the name is walked as a path:
it is made right in the results directory if the steps in front of the last one
lead back there, and anywhere else if they do not (`test_placed_iff`). Names
without a slash are always safe. -/
namespace DeviceLab

/-! ### Where walks lead -/

/-- Where steps lead from a place if nothing stops the walk. -/
def Place.along (here : Place) : List String → Place
  | [] => here
  | step :: rest =>
    along (if step = "." then here else if step = ".." then here.dropLast else here ++ [step]) rest

theorem Place.along_append (here : Place) (a b : List String) :
    along here (a ++ b) = along (along here a) b := by
  induction a generalizing here with
  | nil => rfl
  | cons step rest ih => exact ih _

/-- Where a path leads, seen from a directory, if nothing stops the walk. -/
def Path.aim (cwd : Place) (path : String) : Place :=
  Place.along (if isAbsolute path then [] else cwd) (steps path)

/-- Where a path leads before its last step. -/
def Path.aimAbove (cwd : Place) (path : String) : Place :=
  Place.along (if isAbsolute path then [] else cwd) (steps path).dropLast

/-- A joined path leads where its end leads, seen from its beginning. -/
theorem Path.aim_join (cwd : Place) (base rest : String) :
    aim cwd (join base rest) = aim (aim cwd base) rest := by
  cases habs : isAbsolute rest with
  | true =>
    have hjoin : join base rest = rest := by simp [join, habs]
    simp [hjoin, aim, habs]
  | false =>
    rw [aim, steps_join habs, isAbsolute_join habs, Place.along_append]
    simp [aim, habs]

theorem Path.aim_of_plain {name : String} (hn : TrialDirs.Plain name) (place : Place) :
    aim place name = place ++ [name] := by
  simp [aim, hn.relative, hn.step, Place.along, hn.notHere, hn.notUp]

namespace Tree

theorem along_of_walk {t : Tree} {here p : Place} {steps : List String}
    (h : t.walk here steps = .ok p) : p = Place.along here steps := by
  induction steps generalizing here with
  | nil => exact (Except.ok.inj h).symm
  | cons step rest ih =>
    simp only [walk, beq_iff_eq] at h
    rw [Place.along]
    split at h
    · cases h
    · cases h
    · by_cases hhere : step = "."
      · rw [if_pos hhere] at h ⊢
        exact ih h
      rw [if_neg hhere] at h ⊢
      by_cases hup : step = ".."
      · rw [if_pos hup] at h ⊢
        exact ih h
      rw [if_neg hup] at h ⊢
      split at h
      · cases h
      · exact ih h

/-- A walk goes on from a directory only. -/
theorem directory_of_walk_cons {t : Tree} {here p : Place} {step : String} {rest : List String}
    (h : t.walk here (step :: rest) = .ok p) : t.get? here = some .directory := by
  rw [walk] at h
  split at h
  · cases h
  · cases h
  · assumption

/-- A walk that ends where nothing is ends with a name. -/
theorem walk_concat_of_absent {t : Tree} (sound : t.Sound) {here p : Place} {front : List String}
    {last : String} (h : t.walk here (front ++ [last]) = .ok p) (absent : t.get? p = none) :
    p = Place.along here front ++ [last] := by
  rw [walk_append] at h
  cases hfront : t.walk here front with
  | error e =>
    rw [hfront] at h
    cases h
  | ok q =>
    rw [hfront] at h
    have hstep : t.walk q [last] = .ok p := h
    have hdir := directory_of_walk_cons hstep
    have hnew : ∀ r, t.get? r = some .directory → p ≠ r := by
      rintro r hr rfl
      cases absent.symm.trans hr
    have hp := along_of_walk hstep
    have hhere : last ≠ "." := by
      rintro rfl
      exact hnew q hdir hp
    have hup : last ≠ ".." := by
      rintro rfl
      exact hnew q.dropLast (sound q _ hdir) hp
    rw [hp, along_of_walk hfront]
    simp [Place.along, hhere, hup]

/-- A path can lead to one place only. -/
theorem aim_of_reach {t : Tree} {cwd p : Place} {path : String} (h : t.reach cwd path = .ok p) :
    p = Path.aim cwd path :=
  along_of_walk h

theorem alike_makeDirectory {t t' : Tree} {cwd : Place} {path : String}
    (h : t.makeDirectory cwd path = .ok t') : t.Alike (· = Path.aim cwd path) t' := by
  obtain ⟨p, hloc, -, -, rfl⟩ := makeDirectory_eq_ok_iff.mp h
  rw [← aim_of_reach (reach_of_locate hloc)]
  exact alike_put t p .directory

end Tree

/-- A relative path that is not empty has steps. -/
theorem Path.steps_ne_nil {path : String} (hne : path ≠ "") (hr : Path.isAbsolute path = false) :
    Path.steps path ≠ [] := by
  obtain ⟨c, cs, hcs⟩ := List.exists_cons_of_ne_nil (l := path.toList) (by simpa using hne)
  have hc : (c == '/') = false := by
    simpa [isAbsolute, hcs] using hr
  unfold steps Text.pieces
  rw [hcs, Text.cutAll, if_neg (by simp [hc])]
  split <;> simp

/-! ### What is made -/

namespace TrialDirs

/-- The trees are alike but for the place of the directory and what is below it. -/
def Inside (dir : String) (h h' : Host) : Prop :=
  h'.cwd = h.cwd ∧ h.tree.Alike (Path.aim h.cwd dir <+: ·) h'.tree

theorem Inside.refl (dir : String) (h : Host) : Inside dir h h :=
  ⟨rfl, .refl _ _⟩

theorem Inside.trans {dir : String} {h i j : Host} (hi : Inside dir h i) (hj : Inside dir i j) :
    Inside dir h j :=
  ⟨hj.1.trans hi.1, hi.2.trans (hi.1 ▸ hj.2)⟩

theorem makeDirectory_inside {dir path : String}
    (hpath : ∀ cwd, Path.aim cwd dir <+: Path.aim cwd path) :
    Work.Keeps (Inside dir) (Work.change (·.makeDirectory · path)) :=
  Work.keeps_change (Inside.refl dir) fun h _ ht =>
    ⟨rfl, (Tree.alike_makeDirectory ht).mono fun _ hq => hq ▸ hpath h.cwd⟩

theorem makeParts_inside (dir : String) {names : List String}
    (hnames : ∀ name ∈ names, Plain name) : Work.Keeps (Inside dir) (makeParts dir names) := by
  induction names with
  | nil => exact Work.keeps_pure (Inside.refl dir) ()
  | cons name rest ih =>
    obtain ⟨hname, hrest⟩ := List.forall_mem_cons.mp hnames
    refine Work.Keeps.bind (R := Inside dir) (fun _ _ _ => .trans)
      (makeDirectory_inside fun cwd => ?_) fun _ => ih hrest
    rw [Path.aim_join, Path.aim_of_plain hname]
    exact List.prefix_append ..

/-- If the results directory is there, nothing is made but at the place that the
name leads to, and below. -/
theorem create_inside {resultDir : String} (name : String) {h : Host} {place : Place}
    (hreach : h.tree.reach h.cwd resultDir = .ok place)
    (hdir : h.tree.get? place = some .directory) :
    Inside (Path.join resultDir name) h (create resultDir name h).2 := by
  rw [create_eq]
  split
  · exact Inside.refl _ h
  · rw [make, Work.bind_apply]
    rcases Work.change_cases (·.makeDirectories · resultDir) h with ⟨e, he⟩ | ⟨t, ht, hok⟩
    · rw [he]
      exact Inside.refl _ h
    · obtain ⟨rfl, -⟩ := Tree.makeDirectories_of_reach hreach hdir ht
      have hsame : h.withTree h.tree = h := by
        unfold Host.withTree
        split <;> rfl
      rw [hok, hsame]
      let dir := Path.join resultDir name
      have hparts : Work.Keeps (Inside dir) (makeParts dir partNames) :=
        makeParts_inside dir fun _ => plain_of_mem_partNames
      exact Work.Keeps.bind (R := Inside dir) (fun _ _ _ => .trans)
        (makeDirectory_inside fun _ => List.prefix_refl _)
        (fun _ => Work.Keeps.bind (R := Inside dir) (fun _ _ _ => .trans) hparts
          fun _ => Work.keeps_pure (Inside.refl dir) _) h

end TrialDirs

namespace Job
variable {σ : Type}

/-! ### The place of a test's directory -/

/-- The steps of the name in front of its last one lead back to the directory. -/
def Direct (place : Place) (name : String) : Prop :=
  Path.aimAbove place name = place

instance (place : Place) (name : String) : Decidable (Direct place name) :=
  inferInstanceAs (Decidable (_ = _))

theorem direct_of_name {name : String} (hslash : '/' ∉ name.toList) (place : Place) :
    Direct place name := by
  rw [Direct, Path.aimAbove, Path.isAbsolute_of_name hslash]
  by_cases hne : name = ""
  · subst hne
    rfl
  · rw [Path.steps_of_name hne hslash]
    rfl

/-- A number puts no slash into a name. -/
theorem not_slash_numbered {base : String} (hslash : '/' ∉ base.toList) (n : Nat) :
    '/' ∉ (numbered base n).toList := by
  have hdigits : '/' ∉ Nat.toDigits 10 n := Text.not_mem_toDigits (by decide) n
  unfold numbered
  split
  · exact hslash
  · simp [String.toList_append, hslash, hdigits]

section
variable {resultDir name : String} {h h₁ : Host} {t : Tree} {p : Place}
  (made : TrialDirs.Made resultDir (Path.join resultDir name) h h₁ t p)
include made

/-- The results directory has a place of its own. -/
theorem reach_of_made : t.reach h.cwd resultDir = .ok (Path.aim h.cwd resultDir) := by
  by_cases hempty : resultDir = ""
  · subst hempty
    rfl
  · obtain ⟨place, hreach, -⟩ :=
      Tree.leads_of_makeDirectories (fun he => absurd he hempty) made.results
    rw [hreach, Tree.aim_of_reach hreach]

theorem aim_of_made : p = Path.aim (Path.aim h.cwd resultDir) name := by
  rw [← Path.aim_join]
  exact Tree.aim_of_reach (Tree.reach_of_locate made.located)

/-- Nothing is made at a place that is there, so the name leads away from the results directory. -/
theorem steps_ne_nil_of_made : Path.steps name ≠ [] := by
  intro hsteps
  have hp := aim_of_made made
  rw [Path.aim, hsteps, Place.along] at hp
  split at hp
  · exact Tree.ne_nil_of_absent made.absent hp
  · next hrel =>
    have hname : name = "" := by
      by_contra hne
      exact Path.steps_ne_nil hne (by simpa using hrel) hsteps
    by_cases hempty : resultDir = ""
    · -- Then the path is empty, and leads nowhere.
      obtain ⟨-, hne, -⟩ := Tree.locate_eq_ok_iff.mp made.located
      exact hne (by rw [hname, hempty, Path.join_empty])
    · obtain ⟨place, hreach, hdir⟩ :=
        Tree.leads_of_makeDirectories (fun he => absurd he hempty) made.results
      rw [← Tree.aim_of_reach hreach] at hp
      rw [← hp, made.absent] at hdir
      cases hdir

/-- The directory lies where the name leads without its last step. -/
theorem dropLast_of_made (sound : h.tree.Sound) :
    p.dropLast = Path.aimAbove (Path.aim h.cwd resultDir) name := by
  have hreach := Tree.reach_of_locate made.located
  obtain ⟨front, last, hsteps⟩ :=
    (List.eq_nil_or_concat (Path.steps name)).resolve_left (steps_ne_nil_of_made made)
  rw [List.concat_eq_append] at hsteps
  have hwalk : t.walk (if Path.isAbsolute name then [] else Path.aim h.cwd resultDir)
      (front ++ [last]) = .ok p := by
    rw [← hsteps]
    cases habs : Path.isAbsolute name with
    | true =>
      have hjoin : Path.join resultDir name = name := by simp [Path.join, habs]
      rwa [hjoin, Tree.reach, habs] at hreach
    | false => rwa [Tree.reach_join _ _ _ habs, reach_of_made made] at hreach
  rw [Tree.walk_concat_of_absent (sound.makeDirectories made.results) hwalk made.absent,
    Path.aimAbove, hsteps, List.dropLast_concat, List.dropLast_concat]

end

/-! ### What becomes of a test -/

/-- A directory cannot be made, and the test is not executed, whatever would execute
it. Nothing but directories may have been made, and if the results directory is
there, only where the test's name leads to, and below. -/
def NotExecuted (spec : Spec) (job : Job σ) (h : Host) : Prop :=
  ∃ f h₁, TrialDirs.create job.resultDir (job.nextName h spec) h = (.error f, h₁) ∧
    (∀ e : Executor σ, runTest e spec (job, h) = (.error f, (job.named h spec, h₁))) ∧
    TrialDirs.Grown h h₁ ∧
    ∀ place, Settled place (job, h) →
      h.tree.Alike (Path.aim place (job.nextName h spec) <+: ·) h₁.tree

/-- The test is executed in a directory that was made for it at `p`, where nothing
was, while the results directory is at `place`. -/
def ExecutedAt (spec : Spec) (job : Job σ) (h : Host) (place p : Place) : Prop :=
  let dir := Path.join job.resultDir (job.nextName h spec)
  ∃ h₁ t, TrialDirs.Made job.resultDir dir h h₁ t p ∧ t.reach h.cwd job.resultDir = .ok place ∧
    ∀ e : Executor σ, (runTest e spec (job, h)).2.1.executor =
      (executed e spec (job.named h spec) (.of dir) h₁).2.1

theorem notExecuted_or_executedAt (job : Job σ) (h : Host) (spec : Spec) :
    NotExecuted spec job h ∨ ∃ p, ExecutedAt spec job h (Path.aim h.cwd job.resultDir) p := by
  cases hc : TrialDirs.create job.resultDir (job.nextName h spec) h with
  | mk created h₁ =>
    cases created with
    | error f =>
      have hgrown := TrialDirs.create_grown job.resultDir (job.nextName h spec) h
      rw [hc] at hgrown
      refine .inl ⟨f, h₁, hc, fun e => runTest_of_refused e hc, hgrown, fun place settled => ?_⟩
      have hinside :=
        TrialDirs.create_inside (job.nextName h spec) settled.reach settled.directory
      rw [hc] at hinside
      rw [Tree.aim_of_reach settled.reach, ← Path.aim_join]
      exact hinside.2
    | ok dirs =>
      obtain ⟨rfl, t, p, made⟩ := TrialDirs.create_eq_ok hc
      exact .inr ⟨p, h₁, t, made, reach_of_made made, fun e => by rw [runTest_of_created e hc]⟩

section
variable {spec : Spec} {job : Job σ} {h : Host} {place p : Place}

theorem ExecutedAt.place_eq (at_p : ExecutedAt spec job h place p) :
    place = Path.aim h.cwd job.resultDir := by
  obtain ⟨h₁, t, -, hreach, -⟩ := at_p
  exact Tree.aim_of_reach hreach

theorem ExecutedAt.aim_eq (at_p : ExecutedAt spec job h place p) :
    p = Path.aim place (job.nextName h spec) := by
  rw [at_p.place_eq]
  obtain ⟨h₁, t, made, -⟩ := at_p
  exact aim_of_made made

theorem ExecutedAt.ne_nil (at_p : ExecutedAt spec job h place p) : p ≠ [] := by
  obtain ⟨h₁, t, made, -⟩ := at_p
  exact Tree.ne_nil_of_absent made.absent

/-- The directory is a child of the results directory if its name is direct. -/
theorem ExecutedAt.child_iff (at_p : ExecutedAt spec job h place p) (sound : h.tree.Sound) :
    p.dropLast = place ↔ Direct place (job.nextName h spec) := by
  rw [at_p.place_eq]
  obtain ⟨h₁, t, made, -⟩ := at_p
  rw [dropLast_of_made made sound, Direct]

end

/-- What is no child of a directory is not below it, or in another one below it. -/
theorem not_below_or_below {place p : Place} (hne : p ≠ []) (hparent : p.dropLast ≠ place) :
    ¬ TrialDirs.Below place p ∨ TrialDirs.Below place p.dropLast := by
  obtain ⟨q, name, rfl⟩ := (List.eq_nil_or_concat p).resolve_left hne
  rw [List.concat_eq_append, List.dropLast_concat] at hparent ⊢
  rw [or_iff_not_imp_left, not_not]
  rintro ⟨hpre, hother⟩
  exact ⟨(List.prefix_concat_iff.mp hpre).resolve_left (Ne.symm hother), hparent⟩

/-- **A test's directory is a child of the results directory if and only if its name
leads back there before the last step.** Otherwise it is outside, or inside another
directory there. A test whose name or tag has no slash is never executed anywhere
but in a child of the results directory. -/
theorem test_placed_iff {job : Job σ} {h : Host} (sound : h.tree.Sound) (spec : Spec) :
    NotExecuted spec job h ∨ ∃ place p, ExecutedAt spec job h place p ∧
      p = Path.aim place (job.nextName h spec) ∧
      (p.dropLast = place ↔ Direct place (job.nextName h spec)) ∧
      (p.dropLast ≠ place → ¬ TrialDirs.Below place p ∨ TrialDirs.Below place p.dropLast) ∧
      ('/' ∉ spec.base.toList → p.dropLast = place) := by
  refine (notExecuted_or_executedAt job h spec).imp_right ?_
  rintro ⟨p, at_p⟩
  have hchild := at_p.child_iff sound
  exact ⟨_, p, at_p, at_p.aim_eq, hchild, not_below_or_below at_p.ne_nil,
    fun hslash => hchild.mpr (direct_of_name (not_slash_numbered hslash _) _)⟩

/-- The tag `../y` leads out of the results directory, and a second test of the tag
`a/` into the directory of the first. -/
theorem test_placed_elsewhere :
    let tree := Tree.empty.put ["r"] .directory
    let host : Tree → Host := fun t => ⟨t, [], 7, 8, [], 0, none, "", ""⟩
    let later : Job Unit := ⟨"/r", Dict.empty.insert "a/" 1, [], ()⟩
    ExecutedAt ⟨"x", [], some "../y"⟩ ⟨"/r", .empty, [], ()⟩ (host tree) ["r"] ["y"] ∧
      ExecutedAt ⟨"x", [], some "a/"⟩ later (host (tree.put ["r", "a"] .directory)) ["r"]
        ["r", "a", ".2"] := by
  intro tree host later
  have sound : tree.Sound := Tree.sound_empty.put (by decide) (by decide)
  have runs (spec : Spec) (job : Job Unit) (t : Tree) (p : Place) (hsound : t.Sound)
      (hok : (runTest Executor.noting spec (job, host t)).1.isOk = true)
      (hplace : Path.aim [] job.resultDir = ["r"])
      (hp : Path.aim ["r"] (job.nextName (host t) spec) = p) :
      ExecutedAt spec job (host t) ["r"] p := by
    rcases @test_placed_iff _ job (host t) hsound spec with
      ⟨f, h₁, -, hfails, -⟩ | ⟨place, q, at_q, hq, -⟩
    · rw [hfails] at hok
      cases hok
    · obtain rfl : place = ["r"] := at_q.place_eq.trans hplace
      rwa [← hp, ← hq]
  exact ⟨runs _ _ _ _ sound (by decide +kernel) (by decide) (by decide +kernel),
    runs _ _ _ _ (sound.put (by decide) (by decide)) (by decide +kernel) (by decide)
      (by decide +kernel)⟩

end Job
end DeviceLab
