import DeviceLab.Proofs.Dirs

/-! Opening the directory of a test again.

A directory that has been made at a place is opened again by the absolute path of
that place (`reopen_made`), and this path leads there from every working
directory. Along names a walk ends where the names say, if it ends at all
(`walk_plain`). -/
namespace DeviceLab

namespace TrialDirs

theorem Plain.ne_empty {name : String} (h : Plain name) : name ≠ "" := by
  rintro rfl
  have := h.step
  simp [Path.steps, Text.pieces, Text.cutAll] at this

theorem Plain.not_slash {name : String} (h : Plain name) : '/' ∉ name.toList := by
  have hstep : name ∈ Path.steps name := by
    rw [h.step]
    exact List.mem_cons_self ..
  exact Path.not_slash_of_mem_steps hstep

theorem plain_of_step {step : String} (hne : step ≠ "") (hslash : '/' ∉ step.toList)
    (hname : Tree.IsName step) : Plain step :=
  ⟨hname, Path.isAbsolute_of_name hslash, Path.steps_of_name hne hslash⟩

end TrialDirs

namespace Tree
open TrialDirs (Plain)

/-- A place that names lead to. -/
def Named (p : Place) : Prop := ∀ name ∈ p, Plain name

/-- The steps of a path pass places with names only. -/
theorem named_of_walk {t : Tree} {here p : Place} {steps : List String} (named : Named here)
    (hne : ∀ step ∈ steps, step ≠ "") (hslash : ∀ step ∈ steps, '/' ∉ step.toList)
    (h : t.walk here steps = .ok p) : Named p := by
  induction steps generalizing here with
  | nil =>
    cases h
    exact named
  | cons step rest ih =>
    have hrest : ∀ {next : Place}, Named next → t.walk next rest = .ok p → Named p :=
      fun named h => ih named (fun s hs => hne s (List.mem_cons_of_mem _ hs))
        (fun s hs => hslash s (List.mem_cons_of_mem _ hs)) h
    simp only [walk] at h
    split at h
    · cases h
    · cases h
    · split at h
      · exact hrest named h
      · next hdot =>
        split at h
        · exact hrest (fun n hn => named n (List.dropLast_subset _ hn)) h
        · next hup =>
          split at h
          · cases h
          · next hlong =>
            refine hrest (fun n hn => ?_) h
            rcases List.mem_append.mp hn with hn | hn
            · exact named n hn
            · obtain rfl := List.mem_singleton.mp hn
              exact TrialDirs.plain_of_step (hne n (List.mem_cons_self ..))
                (hslash n (List.mem_cons_self ..))
                ⟨by simpa using hdot, by simpa using hup, Nat.not_lt.mp hlong⟩

theorem named_of_reach {t : Tree} {cwd p : Place} {path : String} (hcwd : Named cwd)
    (h : t.reach cwd path = .ok p) : Named p := by
  refine named_of_walk ?_ ?_ (fun step hs => Path.not_slash_of_mem_steps hs) h
  · split
    · exact fun name hn => absurd hn (by simp)
    · exact hcwd
  · intro step hs
    have := (List.mem_filter.mp hs).2
    simpa [String.isEmpty_iff] using this

/-- Names lead where they say, if they lead anywhere. -/
theorem walk_plain_eq_ok {t : Tree} {here p : Place} {names : List String} (named : Named names)
    (h : t.walk here names = .ok p) : p = here ++ names := by
  induction names generalizing here with
  | nil =>
    cases h
    simp
  | cons name rest ih =>
    have hname := (named name (List.mem_cons_self ..)).toIsName
    rw [← List.singleton_append, walk_append] at h
    cases hfirst : t.walk here [name] with
    | error e =>
      rw [hfirst] at h
      cases h
    | ok q =>
      rw [hfirst] at h
      obtain ⟨-, rfl⟩ := walk_name_eq_ok hname hfirst
      rw [ih (fun n hn => named n (List.mem_cons_of_mem _ hn)) h, List.append_assoc]
      rfl

/-- In a sound tree names lead to every entry. -/
theorem Sound.walk_plain {t : Tree} (sound : t.Sound) {here : Place} {names : List String}
    (named : Named names) {e : Entry} (he : t.get? (here ++ names) = some e) :
    t.walk here names = .ok (here ++ names) := by
  induction names generalizing here with
  | nil => simp [walk]
  | cons name rest ih =>
    have hname := (named name (List.mem_cons_self ..)).toIsName
    have hdir : t.get? here = some .directory :=
      sound.above (List.prefix_append here (name :: rest)) (by simp) he
    rw [List.append_cons] at he ⊢
    rw [← List.singleton_append, walk_append, walk_name hname hdir]
    exact ih (fun n hn => named n (List.mem_cons_of_mem _ hn)) he

theorem steps_ofNames {p : Place} (named : Named p) : Path.steps (Path.ofNames p) = p :=
  Path.steps_ofNames (fun name hn => (named name hn).ne_empty)
    fun name hn => (named name hn).not_slash

/-- The absolute path of a place leads there, wherever one is. -/
theorem Sound.reach_ofNames {t : Tree} (sound : t.Sound) {p : Place} (named : Named p) {e : Entry}
    (he : t.get? p = some e) (cwd : Place) : t.reach cwd (Path.ofNames p) = .ok p := by
  rw [reach, Path.isAbsolute_ofNames, if_pos rfl, steps_ofNames named]
  exact sound.walk_plain named he

theorem reach_ofNames_eq_ok {t : Tree} {cwd p q : Place} (named : Named p)
    (h : t.reach cwd (Path.ofNames p) = .ok q) : q = p := by
  rw [reach, Path.isAbsolute_ofNames, if_pos rfl, steps_ofNames named] at h
  exact walk_plain_eq_ok named h

theorem isName_of_walk {t : Tree} {here p : Place} {name : String} (hdot : name ≠ ".")
    (hup : name ≠ "..") (h : t.walk here [name] = .ok p) : IsName name := by
  refine ⟨hdot, hup, Nat.not_lt.mp fun hlong => ?_⟩
  simp only [walk, beq_iff_eq, hdot, hup, if_false, if_pos hlong] at h
  split at h <;> cases h

/-- A path that goes on by a name leads right into where it led before. -/
theorem reach_join_eq_ok {t : Tree} {cwd q : Place} {base name : String}
    (hrelative : Path.isAbsolute name = false) (hstep : Path.steps name = [name])
    (hdot : name ≠ ".") (hup : name ≠ "..")
    (h : t.reach cwd (Path.join base name) = .ok q) :
    ∃ d, t.reach cwd base = .ok d ∧ q = d ++ [name] := by
  rw [reach_join _ _ _ hrelative, hstep] at h
  cases hd : t.reach cwd base with
  | error e =>
    rw [hd] at h
    cases h
  | ok d =>
    rw [hd] at h
    exact ⟨d, rfl, (walk_name_eq_ok (isName_of_walk hdot hup h) h).2⟩

theorem reach_plain_eq_ok {t : Tree} {cwd q : Place} {base name : String} (hn : Plain name)
    (h : t.reach cwd (Path.join base name) = .ok q) :
    ∃ d, t.reach cwd base = .ok d ∧ q = d ++ [name] :=
  reach_join_eq_ok hn.relative hn.step hn.notHere hn.notUp h

end Tree

namespace TrialDirs

theorem withParts_deep (t : Tree) {p q : Place} (names : List String)
    (hq : q.length ≠ p.length + 1) : (withParts t p names).get? q = t.get? q := by
  induction names generalizing t with
  | nil => rfl
  | cons name rest ih =>
    rw [withParts, ih, Tree.get?_put_of_ne]
    rintro rfl
    simp at hq

/-- There is nothing yet in the parts of a directory that is made. -/
theorem laidOut_deep {t : Tree} (sound : t.Sound) {p : Place} (hp : t.get? p = none)
    (part name : String) : (laidOut t p).get? (p ++ [part, name]) = none := by
  rw [laidOut, withParts_deep _ _ (by simp), Tree.get?_put_of_ne _ _ (by simp)]
  exact sound.absent_below hp (List.prefix_append ..)

/-- A directory is opened again by the absolute path of its place. -/
theorem reopen_of_directory {h : Host} {dir : String} {p : Place}
    (hloc : h.tree.locate h.cwd dir = .ok p) (hdir : h.tree.get? p = some .directory) :
    reopen dir h = (.ok (of (Path.ofNames p)), h) := by
  have his : h.isDirectory dir = true := by
    simp [Host.isDirectory, Tree.isDirectory, Tree.stat, hloc, hdir, bind, Except.bind, pure,
      Except.pure]
  have hsee : Work.see (·.isDirectory dir) h = (.ok (h.isDirectory dir), h) := rfl
  have hlook : Work.look (·.locate · dir) h = (.ok p, h) := by
    simp [Work.look, hloc, Work.ofOs]
  unfold reopen
  rw [Work.bind_of_ok hsee, his]
  show (Work.look (·.locate · dir) >>= fun place => pure (of (Path.ofNames place))) h = _
  rw [Work.bind_of_ok hlook]
  rfl

end TrialDirs
end DeviceLab
