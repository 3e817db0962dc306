import DeviceLab.CommandLine
import DeviceLab.Trial.Child

/-! Arguments, read back.

A switch and its value are read in two steps, if the value does not look like a
switch itself (`run_valued`). Behind two dashes all arguments are values, whatever
they look like (`run_behind`). So the bench that is started with the arguments of
a child is asked for the test they were made for (`of_arguments`), and one that is
started with the directory of a test is asked for its status (`of_status`). -/
namespace DeviceLab

namespace Arguments.Progress

/-- It does not look like a switch. -/
def NoDash (arg : String) : Prop := arg.toList.head? ≠ some '-'

instance (arg : String) : Decidable (NoDash arg) :=
  inferInstanceAs (Decidable (arg.toList.head? ≠ some '-'))

theorem NoDash.ne_dashes {arg : String} (h : NoDash arg) : (arg == "--") = false := by
  rw [beq_eq_false_iff_ne]
  rintro rfl
  exact h (by decide)

theorem classify_of_noDash (g : Grammar) (r : Progress) {arg : String} (h : NoDash arg) :
    r.classify g arg = .ok .value := by
  unfold classify
  split
  · next hlist => exact absurd (by rw [hlist]; rfl) h
  · next hlist => exact absurd (by rw [hlist]; rfl) h
  · rfl

theorem run_cons {g : Grammar} {r : Progress} {arg : String} (h : g.isSubcommand arg = false)
    (rest : List String) : r.run g (arg :: rest) = (r.next g arg).bind fun r => r.run g rest := by
  simp only [run, h, Bool.and_false, Bool.false_eq_true, if_false]
  rfl

/-- What is waited for is taken, even if a subcommand has its name. -/
theorem run_waiting (g : Grammar) (values : Values) (p : Pending) (filled : Nat) {arg : String}
    (h : NoDash arg) (rest : List String) :
    (Progress.mk values (some p) true filled false).run g (arg :: rest) =
      (Progress.mk values (some { p with values := [arg] }) false filled false).run g rest := by
  have hnext : (Progress.mk values (some p) true filled false).next g arg =
      .ok ⟨values, some { p with values := [arg] }, false, filled, false⟩ := by
    simp only [next, h.ne_dashes, classify_of_noDash g _ h, Bool.false_eq_true, if_false]
    rfl
  rw [run, if_neg (by simp), hnext]
  rfl

/-- A switch and its value. -/
theorem run_valued {g : Grammar} {r : Progress} {s : Switch} {kind : Kind} {values : Values}
    {filled : Nat} {arg value : String} (hvalues : r.onlyValues = false)
    (hword : (arg == "--") = false) (hsub : g.isSubcommand arg = false)
    (hclass : r.classify g arg = (r.take s none).map .switch) (hrole : s.role = .value kind)
    (hsettle : r.settle = .ok ⟨values, none, false, filled, false⟩) (h : NoDash value)
    (rest : List String) :
    r.run g (arg :: value :: rest) =
      (Progress.mk values (some ⟨s.name, kind, [value]⟩) false filled false).run g rest := by
  have hnext : r.next g arg = .ok ⟨values, some ⟨s.name, kind, []⟩, true, filled, false⟩ := by
    simp only [next, hvalues, hword, hclass, take, hrole, hsettle, Bool.false_eq_true, if_false]
    rfl
  rw [run_cons hsub, hnext]
  exact run_waiting g values ⟨s.name, kind, []⟩ filled h rest

theorem forM_check_text (values : List String) : values.forM (check .text) = .ok () := by
  induction values with
  | nil => rfl
  | cons value rest ih => exact ih

theorem settle_texts {r : Progress} {p : Pending} (hpending : r.pending = some p)
    (hkind : p.kind = .text) (hvalues : p.values ≠ []) (hnew : r.values.has p.name = false) :
    r.settle = .ok { r with
      values := r.values ++ [(p.name, p.values)], pending := none, waiting := false } := by
  have hsome : p.values.isEmpty = false := by simpa using hvalues
  simp only [settle, hpending, hsome, keep, hnew, hkind, Bool.false_eq_true, if_false, bind,
    Except.bind, pure, Except.pure, forM_check_text]

/-- Behind two dashes everything joins the values of the last position. -/
theorem run_behind {g : Grammar} {p : Position} (hlast : g.positions.getLast? = some p)
    (hp : p.behindDashes = true) (hsub : g.subcommands = []) (params : List String) {r : Progress}
    {values : List String} (hvalues : r.onlyValues = true)
    (hpending : r.pending = some ⟨p.name, p.kind, values⟩) :
    r.run g params =
      .ok ⟨{ r with pending := some ⟨p.name, p.kind, values ++ params⟩ }, none⟩ := by
  have hany : g.positions.any (·.behindDashes) = true :=
    List.any_eq_true.mpr ⟨p, List.mem_of_getLast? hlast, hp⟩
  induction params generalizing r values with
  | nil =>
    rw [List.append_nil, ← hpending]
    rfl
  | cons arg rest ih =>
    have hnext : r.next g arg =
        .ok { r with pending := some ⟨p.name, p.kind, values ++ [arg]⟩ } := by
      simp [next, place, nextPosition, hvalues, hany, hlast, hp, hpending]
    have harg : g.isSubcommand arg = false := by simp [Grammar.isSubcommand, hsub]
    rw [run_cons harg, hnext]
    show run g _ rest = _
    rw [ih (r := { r with pending := some ⟨p.name, p.kind, values ++ [arg]⟩ }) hvalues rfl,
      List.append_assoc]
    rfl

end Arguments.Progress

namespace CommandLine
open Arguments Progress

/-- The values that the arguments of a child give. -/
def childValues (dir name : String) (params : List String) : Values :=
  [("testdir", [dir]), ("name", [name])] ++ if params.isEmpty then [] else [("params", params)]

theorem innerValues_of_run {subcommand : String} {args : List String} {r : Progress}
    {sub : Option (String × List String)} {values : Values}
    (hrun : start.run (inner subcommand) args = .ok ⟨r, sub⟩)
    (hfinish : r.finish (inner subcommand) = .ok values)
    (hthere : (mandatory subcommand).any (!values.has ·) = false) :
    innerValues subcommand args = .ok values := by
  simp only [innerValues, hrun, bind, Except.bind, hfinish, hthere, Bool.false_eq_true, if_false]
  rfl

theorem settle_dir {dir : String} (hne : dir ≠ "") (filled : Nat) :
    (Progress.mk [] (some ⟨"testdir", .path, [dir]⟩) false filled false).settle =
      .ok ⟨[("testdir", [dir])], none, false, filled, false⟩ := by
  have hempty : dir.isEmpty = false := by simpa [String.isEmpty_iff] using hne
  simp [settle, keep, Values.has, check, hempty, bind, Except.bind, pure, Except.pure]

theorem run_named {dir name : String} (hdir : NoDash dir) (hne : dir ≠ "") (hname : NoDash name)
    (rest : List String) :
    start.run (inner Child.subcommand)
        ("--testdir" :: dir :: "--name" :: name :: "--" :: rest) =
      (Progress.mk [("testdir", [dir])] (some ⟨"name", .text, [name]⟩) false 0 true).run
        (inner Child.subcommand) rest :=
  calc
    _ = (Progress.mk [] (some ⟨"testdir", .path, [dir]⟩) false 0 false).run
        (inner Child.subcommand) ("--name" :: name :: "--" :: rest) :=
      run_valued (s := valued "testdir" .path) rfl (by decide) (by decide) rfl rfl rfl hdir _
    _ = (Progress.mk [("testdir", [dir])] (some ⟨"name", .text, [name]⟩) false 0 false).run
        (inner Child.subcommand) ("--" :: rest) :=
      run_valued (s := valued "name" .text) rfl (by decide) (by decide) rfl rfl
        (settle_dir hne 0) hname _
    _ = _ := by
      rw [run_cons (by decide)]
      rfl

theorem innerValues_child {dir name : String} (params : List String) (hdir : NoDash dir)
    (hne : dir ≠ "") (hname : NoDash name) :
    innerValues Child.subcommand ("--testdir" :: dir :: "--name" :: name :: "--" :: params) =
      .ok (childValues dir name params) := by
  have hrun := run_named hdir hne hname params
  cases params with
  | nil => exact innerValues_of_run hrun rfl rfl
  | cons arg rest =>
    have hfirst : (Progress.mk [("testdir", [dir])] (some ⟨"name", .text, [name]⟩) false 0 true).run
          (inner Child.subcommand) (arg :: rest) =
        (Progress.mk [("testdir", [dir]), ("name", [name])] (some ⟨"params", .text, [arg]⟩) false 0
          true).run (inner Child.subcommand) rest := by
      rw [run_cons rfl]
      rfl
    have hbehind := run_behind (g := inner Child.subcommand)
      (p := ⟨"params", .text, false, false, true⟩) rfl rfl rfl rest
      (r := ⟨[("testdir", [dir]), ("name", [name])], some ⟨"params", .text, [arg]⟩, false, 0, true⟩)
      rfl rfl
    refine innerValues_of_run (hrun.trans (hfirst.trans hbehind)) ?_ rfl
    rw [finish, settle_texts rfl rfl (by simp) rfl]
    rfl

theorem of_eq_ok_of_run {args rest : List String} {subcommand : String} {r : Progress}
    {inside outside : Values} {config : Option String} {action : Action}
    (hrun : start.run outer args = .ok ⟨r, some (subcommand, rest)⟩)
    (hinside : innerValues subcommand rest = .ok inside) (hfinish : r.finish outer = .ok outside)
    (hnone : inside.get? "config" = none) (haction : actionOf subcommand inside = action)
    (hconfig : outside.get? "config" = config) :
    CommandLine.of args = .ok ⟨config, action⟩ := by
  simp only [CommandLine.of, hrun, bind, Except.bind, hinside, hfinish, hnone, haction, hconfig,
    Option.none_or]
  rfl

/-- The arguments of a child ask for the test they were made for. -/
theorem of_arguments {config : Option String} {inv : Invocation}
    (hconfig : ∀ path ∈ config, NoDash path ∧ path ≠ "") (hdir : NoDash inv.dirs.dir)
    (hne : inv.dirs.dir ≠ "") (hname : NoDash inv.name) :
    CommandLine.of (Child.arguments config inv) =
      .ok ⟨config, .child inv.dirs.dir inv.name inv.params⟩ := by
  have hinside := innerValues_child inv.params hdir hne hname
  have haction : actionOf Child.subcommand (childValues inv.dirs.dir inv.name inv.params) =
      .child inv.dirs.dir inv.name inv.params := by
    cases inv.params <;> rfl
  have hnone : (childValues inv.dirs.dir inv.name inv.params).get? "config" = none := by
    cases inv.params <;> rfl
  cases config with
  | none =>
    have hrun : start.run outer (Child.arguments none inv) = .ok ⟨start, some (Child.subcommand,
        "--testdir" :: inv.dirs.dir :: "--name" :: inv.name :: "--" :: inv.params)⟩ := rfl
    exact of_eq_ok_of_run hrun hinside rfl hnone haction rfl
  | some path =>
    obtain ⟨hpath, hsome⟩ := hconfig path rfl
    have hrun : start.run outer (Child.arguments (some path) inv) =
        .ok ⟨⟨[], some ⟨"config", .path, [path]⟩, false, 0, false⟩, some (Child.subcommand,
          "--testdir" :: inv.dirs.dir :: "--name" :: inv.name :: "--" :: inv.params)⟩ :=
      run_valued (s := valued "config" .path) rfl (by decide) (by decide) rfl rfl rfl hpath _
    have hempty : path.isEmpty = false := by simpa [String.isEmpty_iff] using hsome
    have hfinish : (Progress.mk [] (some ⟨"config", .path, [path]⟩) false 0 false).finish outer =
        .ok [("config", [path])] := by
      simp [finish, settle, keep, Values.has, check, hempty, bind, Except.bind, pure, Except.pure,
        outer]
    exact of_eq_ok_of_run hrun hinside hfinish hnone haction rfl

/-- The directory of a test behind the subcommand asks for its status. -/
theorem of_status {dir : String} (hdir : NoDash dir) (hne : dir ≠ "") :
    CommandLine.of ["status", dir] = .ok ⟨none, .status dir⟩ := by
  have hrun : start.run outer ["status", dir] = .ok ⟨start, some ("status", [dir])⟩ := rfl
  have hnext : start.next (inner "status") dir =
      .ok ⟨[], some ⟨"testdir", .path, [dir]⟩, false, 1, false⟩ := by
    rw [next, if_neg (by decide), if_neg (by simpa using hdir.ne_dashes),
      classify_of_noDash _ _ hdir]
    rfl
  have hinside : start.run (inner "status") [dir] =
      .ok ⟨⟨[], some ⟨"testdir", .path, [dir]⟩, false, 1, false⟩, none⟩ := by
    rw [run_cons rfl, hnext]
    rfl
  have hfinish : (Progress.mk [] (some ⟨"testdir", .path, [dir]⟩) false 1 false).finish
      (inner "status") = .ok [("testdir", [dir])] := by
    rw [finish, settle_dir hne]
    rfl
  exact of_eq_ok_of_run hrun (innerValues_of_run hinside hfinish rfl) rfl rfl rfl rfl

end CommandLine

end DeviceLab
