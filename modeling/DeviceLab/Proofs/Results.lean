import DeviceLab.Proofs.Status
import DeviceLab.Proofs.Turns

/-! Results are never overwritten.

Every test gets a directory where nothing was, so whatever a confined executor
does there touches nothing that is older than the test. The status log is the
one file that a job writes to outside of these directories, and it only grows
(`results_kept`). -/
namespace DeviceLab

/-- The bytes of one content lead those of another. -/
def Content.IsPrefix (c c' : Content) : Prop :=
  c.bytes.data.toList <+: c'.bytes.data.toList

theorem Content.isPrefix_append (c : Content) (s : String) : c.IsPrefix (c.append s) := by
  cases c with
  | text t =>
    simp only [IsPrefix, bytes, append, Utf8.encode, String.toUTF8_eq_toByteArray,
      String.toByteArray_append, ByteArray.toList_data_append]
    exact List.prefix_append _ _
  | raw bytes =>
    simp only [IsPrefix, Content.bytes, append]
    exact List.prefix_append _ _

namespace Executor
variable {σ : Type}

/-- The executor changes nothing but what lies in the directory of its test, and
leaves that directory in place. -/
def Confined (e : Executor σ) : Prop :=
  ∀ (name : String) (params : List String) (dir : String) (s : σ) (h : Host) (p : Place),
    h.tree.Sound → h.tree.locate h.cwd dir = .ok p → h.tree.get? p = some .directory →
    let h' := (e.execute ⟨name, params, .of dir⟩ (s, h)).2.2
    h'.cwd = h.cwd ∧ h'.tree.Sound ∧ h.tree.Alike (TrialDirs.Below p) h'.tree

end Executor

/-- Notes kept with the results touch the file of notes only. -/
theorem Context.record_alike (params : List String) (pairs : List (String × String)) {dir : String}
    {h : Host} {p : Place} (sound : h.tree.Sound) (hreach : h.tree.reach h.cwd dir = .ok p) :
    let h' := (Context.record ⟨.of dir, params⟩ pairs h).2
    h'.cwd = h.cwd ∧ h'.tree.Sound ∧ h.tree.Alike (· = p ++ ["results", "keyval"]) h'.tree := by
  have hplain : TrialDirs.Plain "keyval" :=
    ⟨⟨by decide, by decide, by decide⟩, by decide, by decide⟩
  have hresults : TrialDirs.Plain "results" := TrialDirs.plain_of_mem_partNames (by decide)
  refine Work.change_alike sound fun t hop => ?_
  obtain ⟨q, c, r, hloc, hopen, -, rfl⟩ := Tree.append_eq_ok sound hop
  have hq := Tree.reach_of_locate hloc
  cases hr : h.tree.reach h.cwd (Path.join dir "results") with
  | error e =>
    rw [Context.keyvalPath, Tree.reach_join _ _ _ hplain.relative] at hq
    change (h.tree.reach h.cwd (Path.join dir "results")).bind _ = _ at hq
    rw [hr] at hq
    cases hq
  | ok place =>
    obtain ⟨-, rfl⟩ := TrialDirs.reach_part_eq_ok hresults hreach hr
    obtain ⟨-, rfl⟩ := TrialDirs.reach_part_eq_ok hplain hr hq
    rw [List.append_assoc] at hopen ⊢
    exact ⟨hopen, _, rfl⟩

/-- An executor that notes the name of the test with its results. -/
def Executor.noting {σ : Type} : Executor σ where
  execute inv := WorkWith.host (Context.record ⟨inv.dirs, inv.params⟩ [("name", inv.name)])

theorem Executor.noting_after {σ : Type} (inv : Invocation) (s : σ) (h : Host) :
    (noting.execute inv (s, h)).2.2 =
      (Context.record ⟨inv.dirs, inv.params⟩ [("name", inv.name)] h).2 :=
  WorkWith.host_after _ s h

theorem Executor.noting_confined {σ : Type} : (noting : Executor σ).Confined := by
  intro name params dir s h p sound hlocated _
  rw [noting_after]
  dsimp only
  obtain ⟨hcwd, hsound, halike⟩ :=
    Context.record_alike params [("name", name)] sound (Tree.reach_of_locate hlocated)
  refine ⟨hcwd, hsound, halike.mono ?_⟩
  rintro q rfl
  exact ⟨List.prefix_append .., by simp⟩

/-- Writing a status touches the status file only. -/
theorem Status.write_alike (s : Status) {dir : String} {h : Host} {p : Place}
    (sound : h.tree.Sound) (hreach : h.tree.reach h.cwd dir = .ok p) :
    let h' := (s.write dir h).2
    h'.cwd = h.cwd ∧ h'.tree.Sound ∧ h.tree.Alike (· = p ++ ["status"]) h'.tree := by
  refine Work.change_alike sound fun t hop => ?_
  obtain ⟨q, r, hloc, hopen, rfl⟩ := Tree.write_eq_ok sound hop
  obtain ⟨-, rfl⟩ := TrialDirs.reach_part_eq_ok name_plain hreach (Tree.reach_of_locate hloc)
  exact ⟨hopen, _, rfl⟩

namespace Job
variable {σ : Type}

/-! ### The results directory -/

/-- The results directory of the job is there. -/
structure Settled (place : Place) (s : Job σ × Host) : Prop where
  reach : s.2.tree.reach s.2.cwd s.1.resultDir = .ok place
  directory : s.2.tree.get? place = some .directory
  sound : s.2.tree.Sound

/-- A job that begins makes its results directory. -/
theorem begin_settled {resultDir : String} {x : σ} {job : Job σ} {h h' : Host}
    (alive : h.alive = true) (sound : h.tree.Sound) (hcwd : h.tree.get? h.cwd = some .directory)
    (hb : begin resultDir x h = (.ok job, h')) : ∃ place, Settled place (job, h') := by
  obtain ⟨_, h₁, hmade, hrest⟩ := Work.bind_eq_ok hb
  cases hrest
  obtain ⟨t, ht, rfl⟩ := Work.change_eq_ok hmade
  rw [Host.withTree_of_alive alive]
  obtain ⟨place, hreach, hdir⟩ := Tree.leads_of_makeDirectories (fun _ => hcwd) ht
  exact ⟨place, hreach, hdir, sound.makeDirectories ht⟩

theorem Settled.reported {place : Place} {s : Job σ × Host} (settled : Settled place s)
    (event : Event) : Settled place (reported event s) :=
  ⟨settled.reach, settled.directory, settled.sound⟩

/-- A job stays settled as long as no directory goes away. -/
theorem Settled.of_directories {place : Place} {s s' : Job σ × Host} (settled : Settled place s)
    (hdir : s'.1.resultDir = s.1.resultDir) (hcwd : s'.2.cwd = s.2.cwd)
    (keep : ∀ q, s.2.tree.get? q = some .directory → s'.2.tree.get? q = some .directory)
    (sound : s'.2.tree.Sound) : Settled place s' := by
  refine ⟨?_, keep _ settled.directory, sound⟩
  rw [hdir, hcwd]
  exact Tree.reach_of_directories keep settled.reach

/-- The directory of a test is made where nothing was, and nothing else is. -/
theorem Settled.made {place : Place} {s : Job σ × Host} (settled : Settled place s) {name : String}
    {dirs : TrialDirs} {h' : Host}
    (hc : TrialDirs.create s.1.resultDir name s.2 = (.ok dirs, h')) :
    dirs = .of (Path.join s.1.resultDir name) ∧
      ∃ p, TrialDirs.Made s.1.resultDir (Path.join s.1.resultDir name) s.2 h' s.2.tree p := by
  obtain ⟨hdirs, t, p, made⟩ := TrialDirs.create_eq_ok hc
  obtain ⟨rfl, -⟩ := made.results_eq settled.reach settled.directory
  exact ⟨hdirs, p, made⟩

/-- The place of the status log. -/
def logPlace (place : Place) : Place := place ++ ["status.log"]

theorem log_plain : TrialDirs.Plain "status.log" :=
  ⟨⟨by decide, by decide, by decide⟩, by decide, by decide⟩

/-- Adding to the status log either puts the text behind what the log holds, or
is refused and changes nothing. -/
theorem append_log {resultDir : String} (text : String) {h : Host} {place : Place}
    (sound : h.tree.Sound) (hreach : h.tree.reach h.cwd resultDir = .ok place) :
    let done := Work.change (·.append · (statusLog resultDir) text) h
    (∃ f, done = (.error f, h)) ∨
      ∃ c r, done = (.ok (), h.withTree (h.tree.put (logPlace place) (.file (c.append text) r))) ∧
        h.tree.Open (logPlace place) ∧
        (h.tree.get? (logPlace place) = some (.file c r) ∨
          h.tree.get? (logPlace place) = none ∧ c = .empty ∧ r = false) := by
  cases hop : h.tree.append h.cwd (statusLog resultDir) text with
  | error e => exact .inl ⟨_, Work.change_of_error hop⟩
  | ok t =>
    obtain ⟨q, c, r, hloc, hopen, hold, rfl⟩ := Tree.append_eq_ok sound hop
    obtain ⟨-, rfl⟩ := TrialDirs.reach_part_eq_ok log_plain hreach (Tree.reach_of_locate hloc)
    exact .inr ⟨c, r, Work.change_of_ok hop, hopen, hold⟩

/-! ### What is kept -/

/-- Everything is as it was but the log, which has only grown. -/
structure Kept (log : Place) (t t' : Tree) : Prop where
  entries : ∀ q e, q ≠ log → t.get? q = some e → t'.get? q = some e
  directory : t.get? log = some .directory → t'.get? log = some .directory
  grown : ∀ c r, t.get? log = some (.file c r) →
    ∃ c', t'.get? log = some (.file c' r) ∧ c.IsPrefix c'

namespace Kept
variable {log : Place} {t u v : Tree}

theorem of_extends (h : t.Extends u) : Kept log t u :=
  ⟨fun q e _ hq => h q e hq, h log _, fun c _ hc => ⟨c, h log _ hc, List.prefix_refl _⟩⟩

theorem trans (h : Kept log t u) (h' : Kept log u v) : Kept log t v := by
  refine ⟨fun q e hq he => h'.entries q e hq (h.entries q e hq he), h'.directory ∘ h.directory, ?_⟩
  intro c r hc
  obtain ⟨c₁, hc₁, hpre⟩ := h.grown c r hc
  obtain ⟨c₂, hc₂, hpre'⟩ := h'.grown c₁ r hc₁
  exact ⟨c₂, hc₂, hpre.trans hpre'⟩

theorem directories (h : Kept log t u) (q : Place) (hq : t.get? q = some .directory) :
    u.get? q = some .directory := by
  by_cases hlog : q = log
  · subst hlog
    exact h.directory hq
  · exact h.entries q _ hlog hq

/-- A text added to the log. -/
theorem put_append {c : Content} {r : Bool} (text : String)
    (hold : t.get? log = some (.file c r) ∨ t.get? log = none ∧ c = .empty ∧ r = false)
    (hlog : log ≠ []) : Kept log t (t.put log (.file (c.append text) r)) := by
  refine ⟨fun q e hq he => ?_, fun hd => ?_, fun c' r' hc => ?_⟩
  · rwa [Tree.get?_put_of_ne t _ hq]
  · rcases hold with h | ⟨h, -⟩ <;> simp [hd] at h
  · rcases hold with h | ⟨h, -⟩
    · rw [hc] at h
      cases h
      exact ⟨_, Tree.get?_put_self t hlog _, Content.isPrefix_append _ _⟩
    · simp [hc] at h

end Kept

/-- Whatever comes of it, adding to the status log keeps what was there. -/
theorem append_kept {resultDir : String} (text : String) {h : Host} {place : Place}
    (sound : h.tree.Sound) (hreach : h.tree.reach h.cwd resultDir = .ok place) :
    let h' := (Work.change (·.append · (statusLog resultDir) text) h).2
    Kept (logPlace place) h.tree h'.tree ∧ h'.tree.Sound ∧ h'.cwd = h.cwd := by
  rcases append_log text sound hreach with ⟨f, hlog⟩ | ⟨c, r, hlog, hopen, hold⟩
  · rw [hlog]
    exact ⟨.of_extends (.refl _), sound, rfl⟩
  · rw [hlog]
    unfold Host.withTree
    split
    · exact ⟨.put_append text hold (by simp [logPlace]), sound.put hopen.parent hopen.free, rfl⟩
    · exact ⟨.of_extends (.refl _), sound, rfl⟩

/-- A confined test changes nothing that was there before its directory. -/
theorem executed_alike {e : Executor σ} (confined : e.Confined) (spec : Spec) (job : Job σ)
    {resultDir dir : String} {h h₁ : Host} {p : Place}
    (made : TrialDirs.Made resultDir dir h h₁ h.tree p) (sound : h.tree.Sound) :
    let h₂ := (executed e spec job (.of dir) h₁).2.2
    h₂.cwd = h.cwd ∧ h₂.tree.Sound ∧ h.tree.Alike (p <+: ·) h₂.tree ∧
      h₂.tree.get? p = some .directory := by
  have hcwd : h₁.cwd = h.cwd := by rw [made.after]
  obtain ⟨hcwd', hsound, halike⟩ := confined spec.name spec.args dir job.executor h₁ p
    (made.sound sound) (made.located_after sound) made.directory
  rw [executed, Executor.run_eq]
  revert hcwd' hsound halike
  generalize e.execute ⟨spec.name, spec.args, .of dir⟩ (job.executor, h₁) = done
  intro hcwd' hsound halike
  have hbefore : h.tree.Alike (p <+: ·) done.2.2.tree :=
    made.alike.trans (halike.mono fun q hq => hq.1)
  have hextends := hbefore.extends fun q hq => sound.absent_below made.absent hq
  have hreach : done.2.2.tree.reach done.2.2.cwd dir = .ok p := by
    rw [hcwd', hcwd]
    exact Tree.reach_of_directories (fun q => hextends q _) (Tree.reach_of_locate made.located)
  obtain ⟨hw, hwsound, hwalike⟩ := Status.write_alike (Status.ofResult done.1) hsound hreach
  refine ⟨hw.trans (hcwd'.trans hcwd), hwsound, hbefore.trans (hwalike.mono ?_), ?_⟩
  · rintro q rfl
    exact List.prefix_append _ _
  · exact (hwalike p (by simp)).trans ((halike p fun hp => hp.2 rfl).trans made.directory)

/-- One test keeps what was there, and if it has an outcome, its directory is one
that was not. -/
theorem take_kept {e : Executor σ} (confined : e.Confined) {place : Place} (spec : Spec)
    {s : Job σ × Host} (settled : Settled place s) :
    let turn := Turn.take e spec s
    Kept (logPlace place) s.2.tree turn.after.2.tree ∧ Settled place turn.after ∧
      ∀ outcome, turn.ended = .ok outcome → ∃ p, s.2.tree.get? p = none ∧
        turn.after.2.tree.locate turn.after.2.cwd outcome.testDir = .ok p := by
  obtain ⟨job, h⟩ := s
  have hgrown := TrialDirs.create_grown job.resultDir (job.nextName h spec) h
  simp only [Turn.take]
  cases hc : TrialDirs.create job.resultDir (job.nextName h spec) h with
  | mk created h₁ =>
    cases created with
    | error f =>
      rw [hc] at hgrown
      obtain ⟨hhost, htree, -, hsound⟩ : TrialDirs.Grown h h₁ := hgrown
      have hcwd : h₁.cwd = h.cwd := by rw [hhost]
      rw [runTest_of_refused e hc]
      refine ⟨.of_extends htree, settled.of_directories rfl hcwd (fun q => htree q _)
        (hsound settled.sound), fun outcome hended => ?_⟩
      cases hended
    | ok dirs =>
      obtain ⟨rfl, p, made⟩ := settled.made hc
      obtain ⟨hcwd, hsound, halike, hdir⟩ :=
        executed_alike confined spec (job.named h spec) made settled.sound
      rw [runTest_of_created e hc]
      revert hcwd hsound halike hdir
      generalize executed e spec (job.named h spec) _ h₁ = done
      intro hcwd hsound halike hdir
      have hextends := halike.extends fun q hq => settled.sound.absent_below made.absent hq
      have hreach : done.2.2.tree.reach done.2.2.cwd job.resultDir = .ok place := by
        rw [hcwd]
        exact Tree.reach_of_directories (fun q => hextends q _) settled.reach
      obtain ⟨hkept, hput, hcwd'⟩ := append_kept
        (logLine (job.nextName h spec) (Status.ofResult done.1)) hsound hreach
      revert hkept hput hcwd'
      dsimp only
      generalize Work.change _ done.2.2 = logged
      intro hkept hput hcwd'
      have hall : Kept (logPlace place) h.tree logged.2.tree := .trans (.of_extends hextends) hkept
      refine ⟨hall, settled.of_directories rfl (hcwd'.trans hcwd) hall.directories hput, ?_⟩
      intro outcome houtcome
      cases hlogged : logged.1 with
      | error f => simp [hlogged, Except.map] at houtcome
      | ok u =>
        simp only [hlogged, Except.map, Except.ok.injEq] at houtcome
        refine ⟨p, made.absent, ?_⟩
        rw [← houtcome, outcomeOf_testDir, hcwd', hcwd]
        refine Tree.locate_of_directories hall.directories made.located fun c r hfile => ?_
        rw [hkept.directories p hdir] at hfile
        cases hfile

/-! ### The whole run -/

/-- What a test has left in its directory is still there, as it was, after another one. -/
def Turn.LeftAlone (early late : Turn σ) : Prop :=
  ∃ outcome p, early.ended = .ok outcome ∧
    early.after.2.tree.locate early.after.2.cwd outcome.testDir = .ok p ∧
    ∀ q entry, TrialDirs.Below p q → early.after.2.tree.get? q = some entry →
      late.after.2.tree.get? q = some entry

/-- The log is in no test's directory: there was none yet when the results directory was there. -/
theorem Settled.log_not_below {place p : Place} {s : Job σ × Host} (settled : Settled place s)
    (hp : s.2.tree.get? p = none) : ¬ TrialDirs.Below p (logPlace place) := by
  rintro ⟨hpre, hne⟩
  rcases List.prefix_concat_iff.mp hpre with h | h
  · exact hne h.symm
  · exact settled.sound.not_below hp settled.directory h

/-- **No result is overwritten.** Whether a run of confined tests succeeds or
not, every entry that was there before is there afterwards as it was, the status
log with more behind what it held; and no test disturbs what an earlier one has
left in its directory. -/
theorem results_kept {e : Executor σ} (confined : e.Confined) {place : Place} {s : Job σ × Host}
    (settled : Settled place s) (specs : List Spec) (o : Options) :
    Kept (logPlace place) s.2.tree (runAll e specs o s).2.2.tree ∧
      (turnsOf e specs o s).Pairwise Turn.LeftAlone := by
  have hstep : ∀ spec t, Settled place t →
      Kept (logPlace place) t.2.tree (Turn.take e spec t).after.2.tree ∧
        ∀ outcome, (Turn.take e spec t).ended = .ok outcome →
          Settled place (Turn.take e spec t).after :=
    fun spec t ht => ⟨(take_kept confined spec ht).1, fun _ _ => (take_kept confined spec ht).2.1⟩
  obtain ⟨heach, hrun, hpairs⟩ := turns_keep (R := fun h h' => Kept (logPlace place) h.tree h'.tree)
    (fun h => .of_extends (.refl _)) (fun h h' => h.trans h')
    (fun event t (ht : Settled place t) => ht.reported event) hstep (o.select specs)
    (settled.reported (.jobStart s.1.resultDir (o.select specs).length))
  rw [(runAll_turns e specs o s).2]
  refine ⟨hrun, hpairs.imp_of_mem ?_⟩
  rintro early late hearly hlate ⟨⟨outcome, hended⟩, hbetween⟩
  obtain ⟨htake, hbefore, -⟩ := heach early hearly
  obtain ⟨htake', hbefore', -⟩ := heach late hlate
  have hlater : Kept (logPlace place) early.after.2.tree late.after.2.tree := by
    refine hbetween.trans ?_
    rw [htake']
    exact (take_kept confined late.spec hbefore').1
  obtain ⟨p, habsent, hlocated⟩ : ∃ p, early.before.2.tree.get? p = none ∧
      early.after.2.tree.locate early.after.2.cwd outcome.testDir = .ok p := by
    have hown := (take_kept confined early.spec hbefore).2.2 outcome
    rw [← htake] at hown
    exact hown hended
  refine ⟨outcome, p, hended, hlocated, fun q entry hq hentry => ?_⟩
  refine hlater.entries q entry ?_ hentry
  rintro rfl
  exact hbefore.log_not_below habsent hq

/-- Two tests of one name beside the results of an earlier job. -/
theorem results_kept_noting :
    let tree := ((Tree.empty.put ["r"] .directory).put ["r", "a"] (.file (.text "old") false)).put
      ["r", "status.log"] (.file (.text "GOOD\ta\tearlier\n") false)
    let s : Job Unit × Host := (⟨"/r", .empty, [], ()⟩, ⟨tree, [], 7, 8, [], 0, none, "", ""⟩)
    let specs : List Spec := [⟨"a", [], none⟩, ⟨"a", [], none⟩]
    ((turnsOf Executor.noting specs ⟨false, none⟩ s).map (·.dirName) = ["a.2", "a.3"]) ∧
      Kept ["r", "status.log"] tree (runAll Executor.noting specs ⟨false, none⟩ s).2.2.tree ∧
      (turnsOf Executor.noting specs ⟨false, none⟩ s).Pairwise Turn.LeftAlone := by
  intro tree s specs
  have hsound : tree.Sound :=
    ((Tree.sound_empty.put (by decide) (by decide)).put (by decide) (by decide)).put
      (by decide) (by decide)
  have settled : Settled ["r"] s := by
    have begun : begin "/r" () s.2 = (.ok s.1, s.2) := by rfl
    obtain ⟨place, settled⟩ := begin_settled rfl hsound rfl begun
    have hplace : s.2.tree.reach s.2.cwd "/r" = .ok ["r"] := by decide
    rwa [Except.ok.inj (settled.reach.symm.trans hplace)] at settled
  exact ⟨by decide +kernel, results_kept Executor.noting_confined settled specs ⟨false, none⟩⟩

end Job
end DeviceLab
