import DeviceLab.Files.Tree
import DeviceLab.Proofs.Path
import Mathlib.Data.List.Induction

/-! What changes of a tree keep.

In a sound tree every entry lies in a directory, so below a place where nothing
is there is nothing either (`Sound.absent_below`). A walk looks at directories
only: a tree that still has the directories of another one leads every path to
the same place (`walk_of_directories`). Making a directory puts an entry where
nothing was; writing a file puts one where no directory was. -/
namespace DeviceLab.Tree

/-! ### Entries -/

theorem get?_put (t : Tree) (p : Place) (e : Entry) (q : Place) :
    (t.put p e).get? q =
      if q = [] then some .directory else if q = p then some e else t.get? q := by
  by_cases hq : q = []
  · subst hq
    rfl
  · have hempty : q.isEmpty = false := by simpa using hq
    simp only [get?, put, hempty, Bool.false_eq_true, if_false, if_neg hq, List.find?_cons]
    by_cases hqp : q = p
    · simp [hqp]
    · have hne : (p == q) = false := by simpa using fun h => hqp h.symm
      have hsame : (fun entry : Place × Entry =>
          decide ((entry.1 != p) = true ∧ (entry.1 == q) = true)) = (·.1 == q) := by
        funext entry
        by_cases he : entry.1 = q <;> simp [he, hqp]
      simp only [hne, if_neg hqp, List.find?_filter, hsame]

theorem get?_put_self (t : Tree) {p : Place} (hp : p ≠ []) (e : Entry) :
    (t.put p e).get? p = some e := by
  simp [get?_put, hp]

theorem get?_put_of_ne (t : Tree) {p q : Place} (e : Entry) (h : q ≠ p) :
    (t.put p e).get? q = t.get? q := by
  by_cases hq : q = []
  · subst hq
    rfl
  · simp [get?_put, hq, h]

/-- Where nothing is, is not the top. -/
theorem ne_nil_of_absent {t : Tree} {p : Place} (h : t.get? p = none) : p ≠ [] := by
  rintro rfl
  cases h

/-- What is anywhere but at the top has an entry. -/
theorem mem_entries_of_get? {t : Tree} {p : Place} {e : Entry} (h : t.get? p = some e)
    (hp : p ≠ []) : p ∈ t.entries.map (·.1) := by
  have hother : p.isEmpty = false := by simpa using hp
  rw [get?, hother] at h
  obtain ⟨entry, hfind, -⟩ := Option.map_eq_some_iff.mp h
  exact List.mem_map.mpr ⟨entry, List.mem_of_find?_eq_some hfind,
    by simpa using List.find?_some hfind⟩

/-! ### Sound trees -/

/-- Every entry lies in a directory. -/
def Sound (t : Tree) : Prop :=
  ∀ p e, t.get? p = some e → t.get? p.dropLast = some .directory

theorem sound_empty : Tree.empty.Sound := by
  intro p e h
  by_cases hp : p = []
  · subst hp
    rfl
  · simp [get?, empty, hp] at h

/-- Above an entry there are directories only. -/
theorem Sound.above {t : Tree} (sound : t.Sound) {p q : Place} (hpq : p <+: q) (hne : p ≠ q)
    {e : Entry} (hq : t.get? q = some e) : t.get? p = some .directory := by
  obtain ⟨rest, rfl⟩ := hpq
  -- From the entry upwards, one name at a time.
  induction rest using List.reverseRecOn generalizing e with
  | nil => exact absurd (by simp) hne
  | append_singleton rest x ih =>
    have hparent : t.get? (p ++ rest) = some .directory := by
      have := sound _ _ hq
      rwa [← List.append_assoc, List.dropLast_concat] at this
    by_cases hrest : rest = []
    · simpa [hrest] using hparent
    · exact ih (by simpa using hrest) hparent

theorem Sound.absent_below {t : Tree} (sound : t.Sound) {p q : Place} (hp : t.get? p = none)
    (hpq : p <+: q) : t.get? q = none := by
  by_cases hne : p = q
  · exact hne ▸ hp
  · cases hq : t.get? q with
    | none => rfl
    | some e =>
      rw [sound.above hpq hne hq] at hp
      cases hp

theorem Sound.not_below {t : Tree} (sound : t.Sound) {p q : Place} {e : Entry}
    (hp : t.get? p = none) (hq : t.get? q = some e) : ¬ p <+: q := by
  intro hpq
  rw [sound.absent_below hp hpq] at hq
  cases hq

/-- An entry put in place of no directory leaves the directories. -/
theorem directory_put {t : Tree} {p q : Place} (e : Entry) (hp : t.get? p ≠ some .directory)
    (hq : t.get? q = some .directory) : (t.put p e).get? q = some .directory := by
  rw [get?_put_of_ne t e]
  · exact hq
  · rintro rfl
    exact hp hq

/-- A file put in place of no directory leaves just the directories that were there. -/
theorem directory_put_file_iff {t : Tree} {p : Place} (c : Content) (r : Bool)
    (hp : t.get? p ≠ some .directory) (q : Place) :
    (t.put p (.file c r)).get? q = some .directory ↔ t.get? q = some .directory := by
  refine ⟨fun hq => ?_, directory_put _ hp⟩
  rw [get?_put] at hq
  split at hq
  · next htop =>
    subst htop
    rfl
  · split at hq
    · cases hq
    · exact hq

/-- An entry put into a directory, in place of no directory, leaves a tree sound. -/
theorem Sound.put {t : Tree} (sound : t.Sound) {p : Place} {e : Entry}
    (hparent : t.get? p.dropLast = some .directory) (hp : t.get? p ≠ some .directory) :
    (t.put p e).Sound := by
  intro q f hq
  apply directory_put e hp
  by_cases hqp : q = p
  · rwa [hqp]
  · rw [get?_put_of_ne t e hqp] at hq
    exact sound q f hq

/-! ### Trees that have grown -/

/-- Every entry is still there as it was. -/
def Extends (t t' : Tree) : Prop :=
  ∀ q e, t.get? q = some e → t'.get? q = some e

theorem Extends.refl (t : Tree) : t.Extends t := fun _ _ h => h

theorem Extends.trans {t u v : Tree} (h : t.Extends u) (h' : u.Extends v) : t.Extends v :=
  fun q e hq => h' q e (h q e hq)

theorem extends_put {t : Tree} {p : Place} {e : Entry} (hp : t.get? p = none) :
    t.Extends (t.put p e) := by
  intro q f hq
  rw [get?_put_of_ne t e]
  · exact hq
  · rintro rfl
    rw [hp] at hq
    cases hq

/-! ### Trees that differ in places -/

/-- The trees are alike but for some places. -/
def Alike (places : Place → Prop) (t t' : Tree) : Prop :=
  ∀ q, ¬ places q → t'.get? q = t.get? q

theorem Alike.refl (places : Place → Prop) (t : Tree) : t.Alike places t := fun _ _ => rfl

theorem Alike.trans {places : Place → Prop} {t u v : Tree} (h : t.Alike places u)
    (h' : u.Alike places v) : t.Alike places v :=
  fun q hq => (h' q hq).trans (h q hq)

theorem Alike.mono {places more : Place → Prop} (hsub : ∀ q, places q → more q) {t t' : Tree}
    (h : t.Alike places t') : t.Alike more t' :=
  fun q hq => h q fun hp => hq (hsub q hp)

theorem alike_put (t : Tree) (p : Place) (e : Entry) : t.Alike (· = p) (t.put p e) :=
  fun _ hq => get?_put_of_ne t e hq

/-- A tree that differs only where nothing was has grown. -/
theorem Alike.extends {places : Place → Prop} {t t' : Tree} (h : t.Alike places t')
    (hnew : ∀ q, places q → t.get? q = none) : t.Extends t' := by
  intro q e hq
  rw [h q fun hp => by simp [hnew q hp] at hq, hq]

/-! ### Walks -/

/-- A tree with the directories of another one leads to the same places. -/
theorem walk_of_directories {t t' : Tree}
    (keep : ∀ q, t.get? q = some .directory → t'.get? q = some .directory)
    {here p : Place} {steps : List String} (h : t.walk here steps = .ok p) :
    t'.walk here steps = .ok p := by
  induction steps generalizing here with
  | nil => exact h
  | cons step rest ih =>
    simp only [walk] at h ⊢
    cases hdir : t.get? here with
    | none => simp [hdir] at h
    | some e =>
      cases e with
      | file c r => simp [hdir] at h
      | directory =>
        rw [hdir] at h
        rw [keep here hdir]
        simp only at h ⊢
        by_cases hdot : (step == ".") = true
        · rw [if_pos hdot] at h ⊢
          exact ih h
        by_cases hup : (step == "..") = true
        · rw [if_neg hdot, if_pos hup] at h ⊢
          exact ih h
        by_cases hlong : step.utf8ByteSize > maxName
        · rw [if_neg hdot, if_neg hup, if_pos hlong] at h
          cases h
        · rw [if_neg hdot, if_neg hup, if_neg hlong] at h ⊢
          exact ih h

theorem walk_append (t : Tree) (here : Place) (a b : List String) :
    t.walk here (a ++ b) = (t.walk here a).bind fun p => t.walk p b := by
  induction a generalizing here with
  | nil => rfl
  | cons step rest ih =>
    simp only [List.cons_append, walk]
    cases t.get? here with
    | none => rfl
    | some e =>
      cases e with
      | file c r => rfl
      | directory =>
        simp only
        by_cases hdot : (step == ".") = true
        · rw [if_pos hdot, if_pos hdot, ih]
        by_cases hup : (step == "..") = true
        · rw [if_neg hdot, if_neg hdot, if_pos hup, if_pos hup, ih]
        by_cases hlong : step.utf8ByteSize > maxName
        · rw [if_neg hdot, if_neg hdot, if_neg hup, if_neg hup, if_pos hlong, if_pos hlong]
          rfl
        · rw [if_neg hdot, if_neg hdot, if_neg hup, if_neg hup, if_neg hlong, if_neg hlong, ih]

/-- A name that a directory may hold. -/
structure IsName (name : String) : Prop where
  notHere : name ≠ "."
  notUp : name ≠ ".."
  short : name.utf8ByteSize ≤ maxName

theorem walk_name {t : Tree} {here : Place} {name : String} (hn : IsName name)
    (hdir : t.get? here = some .directory) : t.walk here [name] = .ok (here ++ [name]) := by
  have hlong : ¬ name.utf8ByteSize > maxName := Nat.not_lt.mpr hn.short
  simp [walk, hdir, hn.notHere, hn.notUp, hlong]

/-- A walk by a name succeeds from a directory only. -/
theorem walk_name_eq_ok {t : Tree} {here p : Place} {name : String} (hn : IsName name)
    (h : t.walk here [name] = .ok p) : t.get? here = some .directory ∧ p = here ++ [name] := by
  have hdir : t.get? here = some .directory := by
    simp only [walk] at h
    split at h <;> first | assumption | cases h
  rw [walk_name hn hdir] at h
  cases h
  exact ⟨hdir, rfl⟩

/-! ### Paths -/

/-- Where the steps of a path lead, whatever is there. -/
def reach (t : Tree) (cwd : Place) (path : String) : Except OsError Place :=
  t.walk (if Path.isAbsolute path then [] else cwd) (Path.steps path)

theorem reach_of_directories {t t' : Tree}
    (keep : ∀ q, t.get? q = some .directory → t'.get? q = some .directory)
    {cwd p : Place} {path : String} (h : t.reach cwd path = .ok p) : t'.reach cwd path = .ok p :=
  walk_of_directories keep h

theorem reach_join (t : Tree) (cwd : Place) (base : String) {rest : String}
    (hr : Path.isAbsolute rest = false) :
    t.reach cwd (Path.join base rest) =
      (t.reach cwd base).bind fun p => t.walk p (Path.steps rest) := by
  unfold reach
  rw [Path.steps_join hr, Path.isAbsolute_join hr, walk_append]

theorem trace_eq_ok_iff {t : Tree} {cwd p : Place} {path : String} :
    t.trace cwd path = .ok p ↔
      path.toList.contains '\x00' = false ∧ path ≠ "" ∧ path.utf8ByteSize < maxPath ∧
        t.reach cwd path = .ok p := by
  unfold trace
  cases hnul : path.toList.contains '\x00' with
  | true => simp
  | false =>
    by_cases hempty : path = ""
    · simp [hempty]
    have hempty' : path.isEmpty = false := by simpa [String.isEmpty_iff] using hempty
    by_cases hlong : path.utf8ByteSize ≥ maxPath
    · simp [hempty', hlong, Nat.not_lt.mpr hlong]
    have hshort : path.utf8ByteSize < maxPath := Nat.lt_of_not_le hlong
    simp only [Bool.false_eq_true, if_false, hempty', if_neg hlong]
    exact ⟨fun h => ⟨trivial, hempty, hshort, h⟩, fun h => h.2.2.2⟩

/-- Nothing but a file can stand in the way of a path that ends in a slash. -/
theorem locate_eq_ok_iff_trace {t : Tree} {cwd p : Place} {path : String} :
    t.locate cwd path = .ok p ↔ t.trace cwd path = .ok p ∧
      (Path.endsInSlash path = true → ∀ c r, t.get? p ≠ some (.file c r)) := by
  unfold locate
  cases htrace : t.trace cwd path with
  | error e => simp [bind, Except.bind]
  | ok q =>
    simp only [bind, Except.bind]
    split
    · next c r hfile =>
      by_cases hslash : Path.endsInSlash path = true
      · rw [if_pos hslash]
        constructor
        · intro h
          cases h
        · rintro ⟨h, hno⟩
          cases h
          exact absurd hfile (hno hslash c r)
      · rw [if_neg hslash]
        exact ⟨fun h => ⟨h, fun hs => absurd hs hslash⟩, fun h => h.1⟩
    · next hfile =>
      constructor
      · intro h
        cases h
        exact ⟨rfl, fun _ => hfile⟩
      · exact fun h => h.1

theorem locate_eq_ok_iff {t : Tree} {cwd p : Place} {path : String} :
    t.locate cwd path = .ok p ↔
      path.toList.contains '\x00' = false ∧ path ≠ "" ∧ path.utf8ByteSize < maxPath ∧
        t.reach cwd path = .ok p ∧
        (Path.endsInSlash path = true → ∀ c r, t.get? p ≠ some (.file c r)) := by
  rw [locate_eq_ok_iff_trace, trace_eq_ok_iff, and_assoc, and_assoc, and_assoc]

theorem reach_of_locate {t : Tree} {cwd p : Place} {path : String}
    (h : t.locate cwd path = .ok p) : t.reach cwd path = .ok p :=
  (locate_eq_ok_iff.mp h).2.2.2.1

/-- A tree with the directories of another one locates what that one locates. -/
theorem locate_of_directories {t t' : Tree}
    (keep : ∀ q, t.get? q = some .directory → t'.get? q = some .directory)
    {cwd p : Place} {path : String} (h : t.locate cwd path = .ok p)
    (hp : ∀ c r, t'.get? p ≠ some (.file c r)) : t'.locate cwd path = .ok p := by
  obtain ⟨hnul, hne, hshort, hreach, -⟩ := locate_eq_ok_iff.mp h
  exact locate_eq_ok_iff.mpr ⟨hnul, hne, hshort, reach_of_directories keep hreach, fun _ => hp⟩

/-- A path that leads somewhere is refused only for its own sake. -/
theorem trace_ne_notFound {t : Tree} {cwd p : Place} {path : String} {e : OsError}
    (hreach : t.reach cwd path = .ok p) (hne : path ≠ "") (h : t.trace cwd path = .error e) :
    e ≠ .notFound := by
  rintro rfl
  have hempty : path.isEmpty = false := by simpa [String.isEmpty_iff] using hne
  unfold trace at h
  simp only [hempty, Bool.false_eq_true, if_false] at h
  split at h
  · cases h
  split at h
  · cases h
  change t.reach cwd path = _ at h
  rw [hreach] at h
  cases h

/-! ### What a path leads to -/

/-- The entry that a path leads to, if it leads to one. -/
def found? (t : Tree) (cwd : Place) (path : String) : Option Entry :=
  (t.stat cwd path).toOption

theorem stat_eq_ok_iff {t : Tree} {cwd : Place} {path : String} {e : Entry} :
    t.stat cwd path = .ok e ↔ ∃ p, t.locate cwd path = .ok p ∧ t.get? p = some e := by
  unfold stat
  cases hloc : t.locate cwd path with
  | error e' => simp [bind, Except.bind]
  | ok p => cases hp : t.get? p <;> simp [bind, Except.bind, pure, Except.pure, hp]

theorem found?_eq_some_iff {t : Tree} {cwd : Place} {path : String} {e : Entry} :
    t.found? cwd path = some e ↔ ∃ p, t.locate cwd path = .ok p ∧ t.get? p = some e := by
  rw [← stat_eq_ok_iff, found?]
  cases t.stat cwd path <;> simp [Except.toOption]

/-- Nothing is found where nothing can be located or nothing is. -/
theorem found?_eq_none {t : Tree} {cwd : Place} {path : String}
    (habsent : ∀ p, t.locate cwd path = .ok p → t.get? p = none) : t.found? cwd path = none := by
  refine Option.eq_none_iff_forall_ne_some.mpr fun e he => ?_
  obtain ⟨p, hloc, hp⟩ := found?_eq_some_iff.mp he
  rw [habsent p hloc] at hp
  cases hp

theorem exists?_eq (t : Tree) (cwd : Place) (path : String) :
    t.exists? cwd path = (t.found? cwd path).isSome := by
  unfold exists? found?
  cases t.stat cwd path <;> rfl

theorem readText_of_found {t : Tree} {cwd : Place} {path text : String} {r : Bool}
    (h : t.found? cwd path = some (.file (.text text) r)) : t.readText cwd path = .ok text := by
  have hstat := stat_eq_ok_iff.mpr (found?_eq_some_iff.mp h)
  rw [readText, readContent, hstat]
  rfl

theorem readText_of_none {t : Tree} {cwd : Place} {path : String}
    (h : t.found? cwd path = none) : ∃ e, t.readText cwd path = .error e := by
  unfold found? at h
  cases hstat : t.stat cwd path with
  | ok e =>
    rw [hstat] at h
    cases h
  | error e =>
    refine ⟨e, ?_⟩
    rw [readText, readContent, hstat]
    rfl

/-- Trees with the same directories lead a path to the same entry, if the same is there. -/
theorem found?_of_directories {t t' : Tree}
    (same : ∀ q, t'.get? q = some .directory ↔ t.get? q = some .directory) {cwd : Place}
    {path : String} (hplace : ∀ p, t.reach cwd path = .ok p → t'.get? p = t.get? p) :
    t'.found? cwd path = t.found? cwd path := by
  have hreach : ∀ p, t'.reach cwd path = .ok p ↔ t.reach cwd path = .ok p := fun p =>
    ⟨reach_of_directories fun q => (same q).mp, reach_of_directories fun q => (same q).mpr⟩
  ext e
  simp only [found?_eq_some_iff, locate_eq_ok_iff, hreach]
  refine exists_congr fun p => ?_
  by_cases hp : t.reach cwd path = .ok p
  · rw [hplace p hp]
  · simp [hp]

/-! ### Directories made -/

theorem makeDirectory_eq_ok_iff {t t' : Tree} {cwd : Place} {path : String} :
    t.makeDirectory cwd path = .ok t' ↔
      ∃ p, t.locate cwd path = .ok p ∧ t.get? p = none ∧
        t.get? p.dropLast = some .directory ∧ t' = t.put p .directory := by
  have hlocate : ∀ p, t.locate cwd path = .ok p ∧ t.get? p = none ↔
      t.trace cwd path = .ok p ∧ t.get? p = none := fun p => by
    rw [locate_eq_ok_iff_trace, and_assoc]
    refine and_congr_right fun _ => ⟨fun h => h.2, fun h => ⟨fun _ c r => ?_, h⟩⟩
    simp [h]
  simp only [← and_assoc, hlocate]
  unfold makeDirectory
  cases htrace : t.trace cwd path with
  | error e => simp [bind, Except.bind]
  | ok p =>
    simp only [bind, Except.bind, Except.ok.injEq, and_assoc, exists_eq_left']
    cases hp : t.get? p with
    | some e => simp
    | none =>
      cases hparent : t.get? p.dropLast with
      | none => simp
      | some e =>
        cases e with
        | file c r => simp
        | directory => simp [pure, Except.pure, eq_comm]

theorem makeDirectory_extends {t t' : Tree} {cwd : Place} {path : String}
    (h : t.makeDirectory cwd path = .ok t') : t.Extends t' := by
  obtain ⟨p, -, hp, -, rfl⟩ := makeDirectory_eq_ok_iff.mp h
  exact extends_put hp

/-- Making a directory makes no file. -/
theorem file_of_makeDirectory {t t' : Tree} {cwd q : Place} {path : String} {c : Content}
    {r : Bool} (h : t.makeDirectory cwd path = .ok t') (hq : t'.get? q = some (.file c r)) :
    t.get? q = some (.file c r) := by
  obtain ⟨p, -, hp, -, rfl⟩ := makeDirectory_eq_ok_iff.mp h
  by_cases hqp : q = p
  · rw [hqp, get?_put_self t (ne_nil_of_absent hp)] at hq
    cases hq
  · rwa [get?_put_of_ne t _ hqp] at hq

theorem Sound.makeDirectory {t t' : Tree} (sound : t.Sound) {cwd : Place} {path : String}
    (h : t.makeDirectory cwd path = .ok t') : t'.Sound := by
  obtain ⟨p, -, hp, hparent, rfl⟩ := makeDirectory_eq_ok_iff.mp h
  exact sound.put hparent (by simp [hp])

/-- What every directory that is made on the way keeps, the way keeps. -/
theorem makeDirectoriesWithin_induction {R : Tree → Tree → Prop} (refl : ∀ t, R t t)
    (trans : ∀ {t u v}, R t u → R u v → R t v) {cwd : Place}
    (step : ∀ {t t' path}, t.makeDirectory cwd path = .ok t' → R t t') (depth : Nat) :
    ∀ {t t' : Tree} {path : String}, t.makeDirectoriesWithin cwd path depth = .ok t' → R t t' := by
  induction depth with
  | zero =>
    intro t t' path h
    cases h
  | succ depth ih =>
    intro t t' path h
    rw [makeDirectoriesWithin] at h
    split at h
    · cases h
      exact refl t
    · simp only at h
      split at h
      · next hmade =>
        cases h
        exact step hmade
      · split at h
        · next parent _ =>
          -- The parents come first, then the directory itself.
          cases hup : t.makeDirectoriesWithin cwd parent depth with
          | error e =>
            rw [hup] at h
            cases h
          | ok u =>
            rw [hup] at h
            simp only [bind, Except.bind] at h
            refine trans (ih hup) ?_
            split at h
            · next hmade =>
              cases h
              exact step hmade
            · split at h
              · cases h
                exact refl t'
              · cases h
        · cases h
      · split at h
        · cases h
          exact refl t
        · cases h

theorem makeDirectories_extends {t t' : Tree} {cwd : Place} {path : String}
    (h : t.makeDirectories cwd path = .ok t') : t.Extends t' :=
  makeDirectoriesWithin_induction Extends.refl Extends.trans makeDirectory_extends _ h

theorem file_of_makeDirectories {t t' : Tree} {cwd q : Place} {path : String} {c : Content}
    {r : Bool} (h : t.makeDirectories cwd path = .ok t') :
    t'.get? q = some (.file c r) → t.get? q = some (.file c r) :=
  makeDirectoriesWithin_induction
    (R := fun t t' => t'.get? q = some (.file c r) → t.get? q = some (.file c r)) (fun _ hq => hq)
    (fun h h' => h ∘ h') (fun hmade => file_of_makeDirectory hmade) _ h

theorem Sound.makeDirectories {t t' : Tree} (sound : t.Sound) {cwd : Place} {path : String}
    (h : t.makeDirectories cwd path = .ok t') : t'.Sound :=
  makeDirectoriesWithin_induction (R := fun t t' => t.Sound → t'.Sound) (fun _ h => h)
    (fun h h' => h' ∘ h) (fun hmade sound => sound.makeDirectory hmade) _ h sound

/-- A directory that is there already is as good as made. -/
theorem makeDirectories_of_isDirectory {t : Tree} {cwd : Place} {path : String}
    (h : t.isDirectory cwd path = true) : t.makeDirectories cwd path = .ok t := by
  unfold makeDirectories makeDirectoriesWithin
  split
  · rfl
  · have htaken : t.makeDirectory cwd path = .error .taken := by
      unfold isDirectory stat at h
      cases hloc : t.locate cwd path with
      | error e => simp [hloc, bind, Except.bind] at h
      | ok p =>
        simp only [hloc, bind, Except.bind] at h
        simp only [makeDirectory, (locate_eq_ok_iff_trace.mp hloc).1, bind, Except.bind]
        cases hp : t.get? p with
        | none => simp [hp] at h
        | some e => rfl
    simp [htaken]

/-- Where a directory is already, making it with its parents changes nothing. -/
theorem makeDirectories_of_reach {t t' : Tree} {cwd p : Place} {path : String}
    (hreach : t.reach cwd path = .ok p) (hdir : t.get? p = some .directory)
    (h : t.makeDirectories cwd path = .ok t') :
    t' = t ∧ (path = "" ∨ t.locate cwd path = .ok p) := by
  cases htrace : t.trace cwd path with
  | ok q =>
    obtain rfl : q = p := Except.ok.inj ((trace_eq_ok_iff.mp htrace).2.2.2.symm.trans hreach)
    have hloc : t.locate cwd path = .ok q :=
      locate_eq_ok_iff_trace.mpr ⟨htrace, fun _ c r => by simp [hdir]⟩
    have his : t.isDirectory cwd path = true := by
      simp [isDirectory, stat, hloc, bind, Except.bind, hdir, pure, Except.pure]
    rw [makeDirectories_of_isDirectory his] at h
    exact ⟨(Except.ok.inj h).symm, .inr hloc⟩
  | error e =>
    by_cases hempty : path = ""
    · subst hempty
      exact ⟨(Except.ok.inj h).symm, .inl rfl⟩
    · -- The path itself is refused, so it names no directory and none can be made.
      have hmake : t.makeDirectory cwd path = .error e := by
        simp [makeDirectory, htrace, bind, Except.bind]
      have hnot : t.isDirectory cwd path = false := by
        simp [isDirectory, stat, locate, htrace, bind, Except.bind]
      have hrefused : e ≠ .notFound := trace_ne_notFound hreach hempty htrace
      have hempty' : path.isEmpty = false := by simpa [String.isEmpty_iff] using hempty
      simp only [makeDirectories, makeDirectoriesWithin, hempty', hmake, hnot, Bool.false_eq_true,
        if_false] at h
      cases h

/-- A path leads to a directory. -/
def Leads (t : Tree) (cwd : Place) (path : String) : Prop :=
  ∃ p, t.reach cwd path = .ok p ∧ t.get? p = some .directory

theorem leads_of_makeDirectory {t t' : Tree} {cwd : Place} {path : String}
    (h : t.makeDirectory cwd path = .ok t') : t'.Leads cwd path := by
  have hext := makeDirectory_extends h
  obtain ⟨p, hloc, hp, -, rfl⟩ := makeDirectory_eq_ok_iff.mp h
  exact ⟨p, reach_of_directories (fun q => hext q _) (reach_of_locate hloc),
    get?_put_self t (ne_nil_of_absent hp) _⟩

theorem leads_of_isDirectory {t : Tree} {cwd : Place} {path : String}
    (h : t.isDirectory cwd path = true) : t.Leads cwd path := by
  unfold isDirectory stat at h
  cases hloc : t.locate cwd path with
  | error e => simp [hloc, bind, Except.bind] at h
  | ok p =>
    simp only [hloc, bind, Except.bind] at h
    refine ⟨p, reach_of_locate hloc, ?_⟩
    cases hp : t.get? p with
    | none => simp [hp] at h
    | some e =>
      cases e with
      | file c r => simp [hp, pure, Except.pure] at h
      | directory => rfl

/-- A directory made with its parents is there. -/
theorem leads_of_makeDirectories {t t' : Tree} {cwd : Place} {path : String}
    (hcwd : path = "" → t.get? cwd = some .directory) (h : t.makeDirectories cwd path = .ok t') :
    t'.Leads cwd path := by
  unfold makeDirectories makeDirectoriesWithin at h
  split at h
  · next hempty =>
    obtain rfl : path = "" := String.isEmpty_iff.mp hempty
    cases h
    exact ⟨cwd, rfl, hcwd rfl⟩
  · simp only at h
    split at h
    · next hmade =>
      cases h
      exact leads_of_makeDirectory hmade
    · split at h
      · next parent _ =>
        cases hup : t.makeDirectoriesWithin cwd parent ((Path.steps path).length + 1) with
        | error e =>
          rw [hup] at h
          cases h
        | ok u =>
          rw [hup] at h
          simp only [bind, Except.bind] at h
          split at h
          · next hmade =>
            cases h
            exact leads_of_makeDirectory hmade
          · split at h
            · next his =>
              cases h
              exact leads_of_isDirectory his
            · cases h
      · cases h
    · split at h
      · next his =>
        cases h
        exact leads_of_isDirectory his
      · cases h

/-! ### Files written -/

/-- Where a file may be written: in a directory, in place of no directory. -/
structure Open (t : Tree) (p : Place) : Prop where
  parent : t.get? p.dropLast = some .directory
  free : t.get? p ≠ some .directory

/-- A file to be written is there already, or is to be made in a directory. -/
theorem target_found {t : Tree} {cwd p : Place} {path : String} {c : Content} {r : Bool}
    (h : t.target cwd path = .ok (p, c, r)) :
    t.locate cwd path = .ok p ∧
      (t.get? p = some (.file c r) ∨
        (t.get? p = none ∧ c = .empty ∧ r = false) ∧ t.get? p.dropLast = some .directory) := by
  unfold target at h
  cases hloc : t.locate cwd path with
  | error e => simp [hloc, bind, Except.bind] at h
  | ok q =>
    simp only [hloc, bind, Except.bind] at h
    cases hq : t.get? q with
    | some e =>
      cases e with
      | directory => simp [hq] at h
      | file c' r' =>
        simp only [hq, pure, Except.pure, Except.ok.injEq, Prod.mk.injEq] at h
        obtain ⟨rfl, rfl, rfl⟩ := h
        exact ⟨rfl, .inl hq⟩
    | none =>
      simp only [hq] at h
      split at h
      · cases h
      · split at h
        · next hparent =>
          simp only [pure, Except.pure, Except.ok.injEq, Prod.mk.injEq] at h
          obtain ⟨rfl, rfl, rfl⟩ := h
          exact ⟨rfl, .inr ⟨⟨hq, rfl, rfl⟩, hparent⟩⟩
        · cases h

/-- A path that ends in a slash leads to no file. -/
theorem endsInSlash_of_target {t : Tree} {cwd : Place} {path : String}
    {found : Place × Content × Bool} (h : t.target cwd path = .ok found) :
    Path.endsInSlash path = false := by
  rw [Bool.eq_false_iff]
  intro hslash
  unfold target at h
  cases hloc : t.locate cwd path with
  | error e => simp [hloc, bind, Except.bind] at h
  | ok q =>
    have hfile := (locate_eq_ok_iff.mp hloc).2.2.2.2 hslash
    simp only [hloc, bind, Except.bind] at h
    cases hq : t.get? q with
    | none => simp [hq, hslash] at h
    | some e =>
      cases e with
      | directory => simp [hq] at h
      | file c r => exact hfile c r hq

theorem target_eq_ok {t : Tree} (sound : t.Sound) {cwd p : Place} {path : String}
    {c : Content} {r : Bool} (h : t.target cwd path = .ok (p, c, r)) :
    t.locate cwd path = .ok p ∧ t.Open p ∧
      (t.get? p = some (.file c r) ∨ t.get? p = none ∧ c = .empty ∧ r = false) := by
  obtain ⟨hloc, hfile | ⟨hnew, hparent⟩⟩ := target_found h
  · exact ⟨hloc, ⟨sound _ _ hfile, by simp [hfile]⟩, .inl hfile⟩
  · exact ⟨hloc, ⟨hparent, by simp [hnew.1]⟩, .inr hnew⟩

theorem write_of_target {t : Tree} {cwd p : Place} {path : String} {old : Content} {r : Bool}
    (h : t.target cwd path = .ok (p, old, r)) (c : Content) :
    t.write cwd path c = .ok (t.put p (.file c r)) := by
  rw [write, h]
  rfl

theorem target_of_write {t t' : Tree} {cwd : Place} {path : String} {c : Content}
    (h : t.write cwd path c = .ok t') :
    ∃ p old r, t.target cwd path = .ok (p, old, r) ∧ t' = t.put p (.file c r) := by
  cases htarget : t.target cwd path with
  | error e => simp [write, htarget, bind, Except.bind] at h
  | ok found =>
    obtain ⟨p, old, r⟩ := found
    rw [write_of_target htarget] at h
    exact ⟨p, old, r, rfl, (Except.ok.inj h).symm⟩

/-- A file is put where no directory was. -/
theorem write_eq_put {t t' : Tree} {cwd : Place} {path : String} {c : Content}
    (h : t.write cwd path c = .ok t') :
    ∃ p r, t.locate cwd path = .ok p ∧ t.get? p ≠ some .directory ∧ t' = t.put p (.file c r) := by
  obtain ⟨p, old, r, htarget, rfl⟩ := target_of_write h
  obtain ⟨hloc, hfile | ⟨hnew, -⟩⟩ := target_found htarget
  · exact ⟨p, r, hloc, by simp [hfile], rfl⟩
  · exact ⟨p, r, hloc, by simp [hnew.1], rfl⟩

theorem write_eq_ok {t t' : Tree} (sound : t.Sound) {cwd : Place} {path : String} {c : Content}
    (h : t.write cwd path c = .ok t') :
    ∃ p r, t.locate cwd path = .ok p ∧ t.Open p ∧ t' = t.put p (.file c r) := by
  obtain ⟨p, old, r, htarget, rfl⟩ := target_of_write h
  obtain ⟨hloc, hopen, -⟩ := target_eq_ok sound htarget
  exact ⟨p, r, hloc, hopen, rfl⟩

theorem append_of_target {t : Tree} {cwd p : Place} {path : String} {c : Content} {r : Bool}
    (h : t.target cwd path = .ok (p, c, r)) (text : String) :
    t.append cwd path text = .ok (t.put p (.file (c.append text) r)) := by
  rw [append, h]
  rfl

theorem target_of_append {t t' : Tree} {cwd : Place} {path text : String}
    (h : t.append cwd path text = .ok t') :
    ∃ p c r, t.target cwd path = .ok (p, c, r) ∧ t' = t.put p (.file (c.append text) r) := by
  cases htarget : t.target cwd path with
  | error e => simp [append, htarget, bind, Except.bind] at h
  | ok found =>
    obtain ⟨p, c, r⟩ := found
    rw [append_of_target htarget] at h
    exact ⟨p, c, r, rfl, (Except.ok.inj h).symm⟩

theorem append_eq_ok {t t' : Tree} (sound : t.Sound) {cwd : Place} {path text : String}
    (h : t.append cwd path text = .ok t') :
    ∃ p c r, t.locate cwd path = .ok p ∧ t.Open p ∧
      (t.get? p = some (.file c r) ∨ t.get? p = none ∧ c = .empty ∧ r = false) ∧
      t' = t.put p (.file (c.append text) r) := by
  obtain ⟨p, c, r, htarget, rfl⟩ := target_of_append h
  obtain ⟨hloc, hopen, hold⟩ := target_eq_ok sound htarget
  exact ⟨p, c, r, hloc, hopen, hold, rfl⟩

/-- A file can be added to, or made, wherever one may be written. -/
theorem append_of_open {t : Tree} {cwd p : Place} {path : String} (text : String)
    (hloc : t.locate cwd path = .ok p) (hopen : t.Open p) (hslash : Path.endsInSlash path = false) :
    ∃ t', t.append cwd path text = .ok t' := by
  simp only [append, target, hloc, bind, Except.bind]
  cases hp : t.get? p with
  | none => simp [hslash, hopen.parent, pure, Except.pure]
  | some e =>
    cases e with
    | file c r => simp [pure, Except.pure]
    | directory => exact absurd hp hopen.free

/-! ### What a path leads to once a file is written -/

/-- The file that was put at the end of a path is found there. -/
theorem found?_put {t : Tree} {cwd p : Place} {path : String} (c : Content) (r : Bool)
    (hloc : t.locate cwd path = .ok p) (hfree : t.get? p ≠ some .directory)
    (hslash : Path.endsInSlash path = false) :
    (t.put p (.file c r)).found? cwd path = some (.file c r) := by
  obtain ⟨hnul, hne, hshort, hreach, -⟩ := locate_eq_ok_iff.mp hloc
  have hp : p ≠ [] := by
    rintro rfl
    exact hfree rfl
  refine found?_eq_some_iff.mpr ⟨p, ?_, get?_put_self t hp _⟩
  exact locate_eq_ok_iff.mpr ⟨hnul, hne, hshort,
    reach_of_directories (fun q => directory_put _ hfree) hreach, by simp [hslash]⟩

/-- A file put elsewhere changes nothing for a path. -/
theorem found?_put_of_ne {t : Tree} {cwd p : Place} {path : String} (c : Content) (r : Bool)
    (hfree : t.get? p ≠ some .directory) (hne : ∀ q, t.reach cwd path = .ok q → q ≠ p) :
    (t.put p (.file c r)).found? cwd path = t.found? cwd path :=
  found?_of_directories (directory_put_file_iff c r hfree)
    fun q hq => get?_put_of_ne t _ (hne q hq)

/-- What a file to be written holds so far is what its path leads to. -/
theorem found?_of_target {t : Tree} {cwd p : Place} {path : String} {c : Content} {r : Bool}
    (h : t.target cwd path = .ok (p, c, r)) :
    t.get? p ≠ some .directory ∧
      (t.found? cwd path = some (.file c r) ∨ t.found? cwd path = none ∧ c = .empty) ∧
      ∀ c', (t.put p (.file c' r)).found? cwd path = some (.file c' r) := by
  obtain ⟨hloc, hfile | ⟨⟨hnone, hempty, -⟩, -⟩⟩ := target_found h
  · have hfree : t.get? p ≠ some .directory := by simp [hfile]
    exact ⟨hfree, .inl (found?_eq_some_iff.mpr ⟨p, hloc, hfile⟩),
      fun c' => found?_put c' r hloc hfree (endsInSlash_of_target h)⟩
  · have hfree : t.get? p ≠ some .directory := by simp [hnone]
    refine ⟨hfree, .inr ⟨found?_eq_none fun q hq => ?_, hempty⟩,
      fun c' => found?_put c' r hloc hfree (endsInSlash_of_target h)⟩
    rw [hloc] at hq
    cases hq
    exact hnone

theorem found?_of_write {t t' : Tree} {cwd : Place} {path : String} {c : Content}
    (h : t.write cwd path c = .ok t') : ∃ r, t'.found? cwd path = some (.file c r) := by
  obtain ⟨p, old, r, htarget, rfl⟩ := target_of_write h
  exact ⟨r, (found?_of_target htarget).2.2 c⟩

end DeviceLab.Tree
