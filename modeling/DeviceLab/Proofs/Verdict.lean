import DeviceLab.Proofs.ErrorRecord
import DeviceLab.Trial.Child

/-! The verdict on a child.

Whoever starts a child judges it by three things: whether it ended before its time
was seen to be up, how it ended, and what is found at the path of its one record
(`Execution.result_eq`). A child passes only if it ended in time, with exit code zero
and without a record; everything else is a failure that says which of them was
amiss, and nothing else on the host counts (`verdict_sound`). A record that lies at
the end of a path too long to be looked up is not found. -/
namespace DeviceLab

/-- The entry that the steps of a path lead to, however long the path is. -/
def Tree.there? (t : Tree) (cwd : Place) (path : String) : Option Entry :=
  (t.reach cwd path).toOption.bind t.get?

/-- A record is found where it is, unless the path to it is too long. -/
theorem ErrorRecord.found?_path {t : Tree} {cwd : Place} {dir : String} {pid : Nat}
    (hnul : '\x00' ∉ dir.toList) :
    t.found? cwd (path (TrialDirs.of dir).debug pid) =
      if (path (TrialDirs.of dir).debug pid).utf8ByteSize < Tree.maxPath then
        t.there? cwd (path (TrialDirs.of dir).debug pid)
      else none := by
  ext e
  simp only [Tree.found?_eq_some_iff, locate_path_iff hnul, Tree.there?]
  split
  · next hshort =>
    cases hreach : t.reach cwd (path (TrialDirs.of dir).debug pid) with
    | error e' => simp [Except.toOption]
    | ok p => simp [hshort, Except.toOption]
  · next hlong => simp [hlong]

/-! ### Looks at a child -/

namespace Watch
variable {w : Watch} (hpos : 0 < w.interval)
include hpos

/-- At the last look the time is up. -/
theorem limit_le_lastLook : w.limit ≤ w.lastLook := by
  have := Nat.lt_div_mul_add (a := w.limit + w.interval - 1) hpos
  unfold lastLook
  omega

/-- It is the first at which that is so. -/
theorem lastLook_le {look : Nat} (h : w.limit ≤ look * w.interval) :
    w.lastLook ≤ look * w.interval := by
  refine Nat.mul_le_mul_right _ (Nat.le_of_lt_succ ?_)
  rw [Nat.div_lt_iff_lt_mul hpos, Nat.succ_mul]
  omega

end Watch

namespace Child

/-! ### What a child is judged by -/

/-- The failure of a test whose child did not end in time. -/
def late (name : String) (limit : Nat) : Failure :=
  .timeout ("test " ++ name ++ " did not complete within " ++ Seconds.text 1 limit ++ "s")

/-- The failure of a test whose child says nothing but how it ended. -/
def silent (name : String) (ending : Ending) : Failure :=
  .error ("test " ++ name ++ " failed rc=" ++ codeText ending)

/-- The verdict on a child, by how it ended and what is found at the path of its record. -/
def judged (name : String) (limit : Nat) (path : String) (ending : Ending)
    (found : Option Entry) : Except Failure Unit :=
  if ending = .overdue then .error (late name limit)
  else
    match ErrorRecord.told path found with
    | .error f => .error f
    | .ok (some f) => .error f
    | .ok none => if ending = .exited 0 then .ok () else .error (silent name ending)

/-- Whoever looks at a child judges it so, and changes nothing. -/
theorem verdict_eq (inv : Invocation) (limit pid : Nat) (ending : Ending) (h : Host) :
    verdict inv limit pid ending h =
      (judged inv.name limit (ErrorRecord.path inv.dirs.debug pid) ending
        (h.tree.found? h.cwd (ErrorRecord.path inv.dirs.debug pid)), h) := by
  unfold verdict judged
  by_cases hoverdue : ending = .overdue
  · subst hoverdue
    rfl
  · have hread := ErrorRecord.read_eq inv.dirs.debug pid h
    have hrunning : (ending == .overdue) = false := by simpa using hoverdue
    simp only [hrunning, Bool.false_eq_true, if_false, if_neg hoverdue]
    show (ErrorRecord.read inv.dirs.debug pid >>= _) h = _
    rw [Work.bind_apply, hread]
    rcases ErrorRecord.told _ _ with f | _ | f
    · rfl
    · by_cases hpass : ending = .exited 0
      · subst hpass
        rfl
      · have hfailed : (ending == .exited 0) = false := by simpa using hpass
        simp only [hfailed, Bool.false_eq_true, if_false, if_neg hpass]
        rfl
    · rfl

section
variable {name path : String} {limit : Nat} {ending : Ending} {found : Option Entry}

theorem judged_of_record {f : Failure} (hended : ending ≠ .overdue)
    (htold : ErrorRecord.told path found = .ok (some f)) :
    judged name limit path ending found = .error f := by
  rw [judged, if_neg hended, htold]

theorem judged_of_none (hended : ending ≠ .overdue) :
    judged name limit path ending none =
      if ending = .exited 0 then .ok () else .error (silent name ending) := by
  rw [judged, if_neg hended]
  rfl

/-- Whatever is found speaks against the test. -/
theorem judged_of_entry (hended : ending ≠ .overdue) (entry : Entry) :
    ∃ f, judged name limit path ending (some entry) = .error f := by
  have htold : ErrorRecord.told path (some entry) ≠ .ok none := by
    cases entry with
    | directory => exact nofun
    | file content runnable =>
      cases content with
      | raw bytes => exact nofun
      | text text =>
        rw [ErrorRecord.told_text]
        cases Failure.read? text <;> exact nofun
  rw [judged, if_neg hended]
  revert htold
  rcases ErrorRecord.told path (some entry) with f | _ | f
  · exact fun _ => ⟨f, rfl⟩
  · exact fun h => absurd rfl h
  · exact fun _ => ⟨f, rfl⟩

end

/-! ### Executions -/

theorem interval_pos : 0 < interval := by decide

theorem dir_mem_arguments (config : Option String) (inv : Invocation) :
    inv.dirs.dir ∈ arguments config inv := by
  simp [arguments]

/-- A test executed in a child that could be started, and what had become of that. -/
structure Execution (name dir : String) (timeout : Option Nat) where
  program : Program
  config : Option String
  params : List String
  /-- The host as the parent leaves it, and as the child does. -/
  parent : Host
  child : Host
  done : Finish
  startable : Program.refusedArgument (arguments config ⟨name, params, .of dir⟩) = none
  ran : program (arguments config ⟨name, params, .of dir⟩)
    (Program.started (timeout.map (⟨·, interval⟩)) parent) = (.ok done, child)

namespace Execution
variable {name dir : String} {timeout : Option Nat} (x : Execution name dir timeout)

def pid : Nat := x.parent.nextPid

/-- The path of the record of the child, as the parent has it. -/
def recordPath : String := ErrorRecord.path (TrialDirs.of dir).debug x.pid

/-- What lies there. -/
def record : Option Entry := x.child.tree.there? x.parent.cwd x.recordPath

/-- What the parent can find of it: nothing along a path that is too long. -/
def found : Option Entry :=
  if x.recordPath.utf8ByteSize < Tree.maxPath then x.record else none

theorem found_eq_iff :
    x.found = x.record ↔ x.recordPath.utf8ByteSize < Tree.maxPath ∨ x.record = none := by
  by_cases hshort : x.recordPath.utf8ByteSize < Tree.maxPath
  · simp [found, hshort]
  · simp [found, hshort, eq_comm]

/-- The child came to its end, and no look at it found it running with its time up. -/
def InTime : Prop :=
  x.done.ending ≠ .overdue ∧
    ∀ limit ∈ timeout, ∀ look, limit ≤ look * interval →
      x.child.clock ≤ x.parent.clock + look * interval

/-- What comes of the test. -/
def result {σ : Type} (s : σ) : Except Failure Unit :=
  ((executor x.program timeout x.config).execute ⟨name, x.params, .of dir⟩ (s, x.parent)).1

/-- How the child ended, as the parent has seen it. -/
def seen : Ending :=
  (Program.resume x.parent x.child (timeout.map (⟨·, interval⟩)) x.done).1.ending

theorem seen_of_inTime (inTime : x.InTime) : x.seen = x.done.ending := by
  obtain ⟨hended, hlooks⟩ := inTime
  unfold seen Program.resume
  cases timeout with
  | none => rfl
  | some limit =>
    have hlast : x.child.clock ≤ x.parent.clock + (Watch.mk limit interval).lastLook :=
      hlooks limit rfl _ (Watch.limit_le_lastLook (w := ⟨limit, interval⟩) interval_pos)
    simp [hended, Nat.not_lt.mpr hlast]

theorem seen_of_late (hlate : ¬ x.InTime) : x.seen = .overdue := by
  unfold seen Program.resume
  by_cases hended : x.done.ending = .overdue
  · cases timeout with
    | none => exact hended
    | some limit => simp [hended]
  · cases timeout with
    | none => exact absurd ⟨hended, nofun⟩ hlate
    | some limit =>
      have hover : x.parent.clock + (Watch.mk limit interval).lastLook < x.child.clock := by
        refine Nat.lt_of_not_le fun hlast => hlate ⟨hended, ?_⟩
        rintro _ ⟨⟩ look hlook
        have hfirst := Watch.lastLook_le (w := ⟨limit, interval⟩) interval_pos hlook
        exact Nat.le_trans hlast (Nat.add_le_add_left hfirst _)
      simp [hover]

include x in
/-- The directory of a child that could be started is named without the character NUL. -/
theorem not_nul : '\x00' ∉ dir.toList := by
  intro hnul
  have hmem := dir_mem_arguments x.config ⟨name, x.params, .of dir⟩
  have hany : (arguments x.config ⟨name, x.params, .of dir⟩).any (·.toList.contains '\x00') =
      true := List.any_eq_true.mpr ⟨dir, hmem, by simpa using hnul⟩
  have hstart := x.startable
  rw [Program.refusedArgument, if_pos hany] at hstart
  cases hstart

theorem resume_host (parent child : Host) (watch : Option Watch) (done : Finish) :
    (Program.resume parent child watch done).2.cwd = parent.cwd ∧
      (Program.resume parent child watch done).2.tree = child.tree := by
  unfold Program.resume
  cases watch with
  | none => exact ⟨rfl, rfl⟩
  | some w =>
    dsimp only
    split <;> exact ⟨rfl, rfl⟩

/-- The result is the verdict on how the child was seen to end and on what is found of
its record. -/
theorem result_eq {σ : Type} (s : σ) :
    x.result s = judged name (timeout.getD 0) x.recordPath x.seen x.found := by
  obtain ⟨hcwd, htree⟩ := resume_host x.parent x.child (timeout.map (⟨·, interval⟩)) x.done
  have hspawn : x.program.spawn (arguments x.config ⟨name, x.params, .of dir⟩)
        (timeout.map (⟨·, interval⟩)) x.parent =
      (.ok ((Program.resume x.parent x.child (timeout.map (⟨·, interval⟩)) x.done).1, x.pid),
        (Program.resume x.parent x.child (timeout.map (⟨·, interval⟩)) x.done).2) := by
    unfold Program.spawn
    rw [x.startable, x.ran]
    rfl
  have hfound : x.child.tree.found? x.parent.cwd x.recordPath = x.found :=
    ErrorRecord.found?_path x.not_nul
  simp only [result, executor, WorkWith.host_result, hspawn, verdict_eq, hcwd, htree]
  rw [← hfound]
  rfl

end Execution

/-- What the result of a test in a child has to do with how the child ended and with its
record. -/
structure Judges (name : String) (limit : Nat) (inTime : Prop) (ending : Ending)
    (record : Option Entry) (result : Except Failure Unit) : Prop where
  /-- A test passes only if its child ended in time, with exit code zero and without a record. -/
  pass : result = .ok () ↔ inTime ∧ ending = .exited 0 ∧ record = none
  /-- A child that is late is nothing but late. -/
  late : ¬ inTime → result = .error (late name limit)
  /-- A failure that was recorded is what the test fails with, whatever the exit code. -/
  recorded : inTime → ∀ text runnable f, record = some (.file (.text text) runnable) →
    Failure.read? text = some f → result = .error f
  /-- A record that tells no failure is one itself. -/
  unreadable : inTime → record ≠ none → ∃ f, result = .error f
  /-- Without a record the ending has to tell. -/
  silent : inTime → record = none → ending ≠ .exited 0 → result = .error (silent name ending)

theorem judges_of_inTime {name path : String} {limit : Nat} {inTime : Prop} {ending : Ending}
    {found : Option Entry} (hin : inTime) (hended : ending ≠ .overdue) :
    Judges name limit inTime ending found (judged name limit path ending found) := by
  refine ⟨?_, fun hlate => absurd hin hlate, fun _ text runnable f hfile hread => ?_,
    fun _ hfound => ?_, fun _ hnone hcode => ?_⟩
  · cases found with
    | none =>
      rw [judged_of_none hended]
      by_cases hcode : ending = .exited 0
      · simp [hcode, hin]
      · simp [hcode]
    | some entry =>
      have hfailed : ∃ f, judged name limit path ending (some entry) = .error f :=
        judged_of_entry hended entry
      obtain ⟨f, hf⟩ := hfailed
      simp [hf]
  · refine judged_of_record hended ?_
    rw [hfile, ErrorRecord.told_text, hread]
  · obtain ⟨entry, rfl⟩ := Option.ne_none_iff_exists'.mp hfound
    exact judged_of_entry hended entry
  · rw [hnone, judged_of_none hended, if_neg hcode]

theorem judges_of_late {name path : String} {limit : Nat} {inTime : Prop} {ending : Ending}
    {found : Option Entry} (hlate : ¬ inTime) :
    Judges name limit inTime ending found (judged name limit path .overdue found) := by
  rw [judged, if_pos rfl]
  exact ⟨by simp [hlate], fun _ => rfl, fun h => absurd h hlate, fun h => absurd h hlate,
    fun h => absurd h hlate⟩

/-- **The verdict on a child is sound**, and nothing counts for it but that child: how it
ended, whether in time, and what is found at the path of its own record. Two executions
that agree on these come to the same, whatever else is in the directories and on the
hosts. The one thing missed is a record at the end of a path too long to be looked up:
it counts for none. -/
theorem verdict_sound {σ : Type} {name dir : String} {timeout : Option Nat}
    (x : Execution name dir timeout) (s : σ) :
    Judges name (timeout.getD 0) x.InTime x.done.ending x.found (x.result s) ∧
      (x.found = x.record ↔ x.recordPath.utf8ByteSize < Tree.maxPath ∨ x.record = none) ∧
      ∀ (y : Execution name dir timeout) (s' : σ), y.pid = x.pid → y.done.ending = x.done.ending →
        (y.InTime ↔ x.InTime) → y.record = x.record → y.result s' = x.result s := by
  have hsame : ∀ {y : Execution name dir timeout}, y.done.ending = x.done.ending →
      (y.InTime ↔ x.InTime) → y.seen = x.seen := by
    intro y hending hinTime
    by_cases inTime : x.InTime
    · rw [x.seen_of_inTime inTime, y.seen_of_inTime (hinTime.mpr inTime), hending]
    · rw [x.seen_of_late inTime, y.seen_of_late fun h => inTime (hinTime.mp h)]
  refine ⟨?_, x.found_eq_iff, ?_⟩
  · rw [x.result_eq s]
    by_cases inTime : x.InTime
    · rw [x.seen_of_inTime inTime]
      exact judges_of_inTime inTime inTime.1
    · rw [x.seen_of_late inTime]
      exact judges_of_late inTime
  · intro y s' hpid hending hinTime hrecord
    have hpath : y.recordPath = x.recordPath := by
      rw [Execution.recordPath, Execution.recordPath, hpid]
    rw [x.result_eq, y.result_eq, hsame hending hinTime, hpath, Execution.found, Execution.found,
      hpath, hrecord]

/-- A child that ends with code 3 has recorded its failure, and what other processes have
left in the same directory makes no difference. -/
theorem verdict_sound_beside_others :
    let failure : Failure := .fail "no \x00 \"battery\"\n"
    let bare : Tree := (Tree.empty.put ["d"] .directory).put ["d", "debug"] .directory
    let crowded : Tree := (bare.put ["d", "debug", "error-80"] (.file (.raw [0xff]) false)).put
      ["d", "debug", "error-0"] (.file (.text (Failure.timeout "").compact) true)
    let run : Tree → Execution "t" "/d" (some Seconds.second) := fun tree =>
      { program := fun _ h =>
          (.ok ⟨.exited 3, .empty, .empty⟩,
            (ErrorRecord.write (TrialDirs.of "/d").debug h.pid failure h).2)
        config := none
        params := ["-x"]
        parent := ⟨tree, [], 7, 8, [], 0, none, "", ""⟩
        child := _
        done := _
        startable := by decide +kernel
        ran := rfl }
    (run bare).result () = .error failure ∧ (run crowded).result () = .error failure := by
  intro failure bare crowded run
  obtain ⟨judges, -, hsame⟩ := verdict_sound (run bare) ()
  have hlooks : ∀ look, Seconds.second ≤ look * interval →
      Program.startup ≤ look * interval :=
    fun look h => Nat.le_trans (by decide) h
  have inTime : ∀ tree, (run tree).child.clock = Program.startup → (run tree).InTime := by
    intro tree hclock
    refine ⟨nofun, ?_⟩
    rintro _ ⟨⟩ look hlook
    rw [hclock]
    exact Nat.le_trans (hlooks look hlook) (Nat.le_add_left ..)
  have hbareInTime := inTime bare (by decide +kernel)
  have hcrowdedInTime := inTime crowded (by decide +kernel)
  have hfound : (run bare).found = some (.file (.text failure.pretty) false) := by decide +kernel
  have hrecord : (run crowded).record = (run bare).record := by decide +kernel
  have hboth : (run crowded).InTime ↔ (run bare).InTime :=
    ⟨fun _ => hbareInTime, fun _ => hcrowdedInTime⟩
  have hbare := judges.recorded hbareInTime _ _ failure hfound failure.read?_pretty
  exact ⟨hbare, (hsame (run crowded) () rfl rfl hboth hrecord).trans hbare⟩

end Child
end DeviceLab
