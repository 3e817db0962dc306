import DeviceLab.Proofs.Tree
import DeviceLab.Proofs.Work
import DeviceLab.Trial.Dirs

/-! Making the directories of a test.

A test's directory is made where nothing was, with nothing in it but its four
parts (`create_eq_ok`). Whether that succeeds or not, whatever was on the host
before is still there (`create_grown`). -/
namespace DeviceLab.TrialDirs

/-! ### One part after another -/

/-- The names of the parts. -/
def partNames : List String := ["results", "profiling", "debug", "tmp"]

/-- Makes parts of a directory. -/
def makeParts (dir : String) : List String → Work Unit
  | [] => pure ()
  | name :: rest => do
    Work.change (·.makeDirectory · (Path.join dir name))
    makeParts dir rest

/-- Makes a directory that is not there yet, with its parts. -/
def make (resultDir dir : String) : Work TrialDirs := do
  Work.change (·.makeDirectories · resultDir)
  Work.change (·.makeDirectory · dir)
  makeParts dir partNames
  return of dir

theorem create_eq (resultDir name : String) (h : Host) :
    create resultDir name h =
      if h.exists? (Path.join resultDir name) then
        (.error (.error ("test directory " ++ Path.join resultDir name ++ " already exists")), h)
      else make resultDir (Path.join resultDir name) h := by
  have hparts : make resultDir (Path.join resultDir name) = (do
      Work.change (·.makeDirectories · resultDir)
      Work.change (·.makeDirectory · (Path.join resultDir name))
      let dirs := of (Path.join resultDir name)
      for part in [dirs.results, dirs.profiling, dirs.debug, dirs.tmp] do
        Work.change (·.makeDirectory · part)
      return dirs) := by
    simp [make, makeParts, partNames, of]
  rw [hparts]
  unfold create
  have hsee : Work.see (·.exists? (Path.join resultDir name)) h =
      (.ok (h.exists? (Path.join resultDir name)), h) := rfl
  rw [Work.bind_of_ok hsee]
  cases h.exists? (Path.join resultDir name) <;> rfl

/-- A name that a path can go on by, and a directory hold. -/
structure Plain (name : String) : Prop extends Tree.IsName name where
  relative : Path.isAbsolute name = false
  step : Path.steps name = [name]

theorem plain_of_mem_partNames {name : String} (h : name ∈ partNames) : Plain name := by
  simp only [partNames, List.mem_cons, List.not_mem_nil, or_false] at h
  rcases h with rfl | rfl | rfl | rfl <;>
    exact ⟨⟨by decide, by decide, by decide⟩, by decide, by decide⟩

/-- The tree with the parts in the directory at the place. -/
def withParts (t : Tree) (p : Place) : List String → Tree
  | [] => t
  | name :: rest => withParts (t.put (p ++ [name]) .directory) p rest

theorem reach_part {t : Tree} {cwd p : Place} {dir name : String} (hn : Plain name)
    (hreach : t.reach cwd dir = .ok p) :
    t.reach cwd (Path.join dir name) = t.walk p [name] := by
  rw [Tree.reach_join t cwd dir hn.relative, hreach, hn.step]
  rfl

theorem reach_part_eq_ok {t : Tree} {cwd p q : Place} {dir name : String} (hn : Plain name)
    (hreach : t.reach cwd dir = .ok p) (h : t.reach cwd (Path.join dir name) = .ok q) :
    t.get? p = some .directory ∧ q = p ++ [name] := by
  rw [reach_part hn hreach] at h
  exact Tree.walk_name_eq_ok hn.toIsName h

theorem makeParts_eq_ok {dir : String} {p : Place} {names : List String}
    (hnames : ∀ name ∈ names, Plain name) {h h' : Host} {u : Unit} (alive : h.alive = true)
    (hreach : h.tree.reach h.cwd dir = .ok p) (hm : makeParts dir names h = (.ok u, h')) :
    h' = { h with tree := withParts h.tree p names } ∧
      ∀ name ∈ names, (Path.join dir name).utf8ByteSize < Tree.maxPath := by
  induction names generalizing h with
  | nil =>
    cases hm
    exact ⟨rfl, by simp⟩
  | cons name rest ih =>
    obtain ⟨_, h₁, hfirst, hrest⟩ := Work.bind_eq_ok hm
    obtain ⟨t, hmade, rfl⟩ := Work.change_eq_ok hfirst
    obtain ⟨q, hloc, -, -, rfl⟩ := Tree.makeDirectory_eq_ok_iff.mp hmade
    have hn := hnames name (List.mem_cons_self ..)
    obtain ⟨-, rfl⟩ := reach_part_eq_ok hn hreach (Tree.reach_of_locate hloc)
    rw [Host.withTree_of_alive alive] at hrest
    have hext := Tree.makeDirectory_extends hmade
    obtain ⟨hafter, hshort⟩ := ih (fun n h => hnames n (List.mem_cons_of_mem _ h))
      (h := { h with tree := h.tree.put (p ++ [name]) .directory }) alive
      (Tree.reach_of_directories (fun q h => hext q _ h) hreach) hrest
    exact ⟨hafter, List.forall_mem_cons.mpr ⟨(Tree.locate_eq_ok_iff.mp hloc).2.2.1, hshort⟩⟩

/-! ### The whole directory -/

/-- The tree with a test's directory made at the place. -/
def laidOut (t : Tree) (p : Place) : Tree :=
  withParts (t.put p .directory) p partNames

/-- What the making of a directory has found and left. -/
structure Made (resultDir dir : String) (h h' : Host) (t : Tree) (p : Place) : Prop where
  alive : h.alive = true
  /-- The tree once the results directory is there. -/
  results : h.tree.makeDirectories h.cwd resultDir = .ok t
  free : h.exists? dir = false
  located : t.locate h.cwd dir = .ok p
  absent : t.get? p = none
  parent : t.get? p.dropLast = some .directory
  after : h' = { h with tree := laidOut t p }
  short : ∀ name ∈ partNames, (Path.join dir name).utf8ByteSize < Tree.maxPath

theorem create_eq_ok {resultDir name : String} {dirs : TrialDirs} {h h' : Host}
    (hc : create resultDir name h = (.ok dirs, h')) :
    dirs = of (Path.join resultDir name) ∧
      ∃ t p, Made resultDir (Path.join resultDir name) h h' t p := by
  rw [create_eq] at hc
  split at hc
  · cases hc
  · next hfree =>
    obtain ⟨_, h₁, hresults, hc⟩ := Work.bind_eq_ok hc
    obtain ⟨_, h₂, hdir, hc⟩ := Work.bind_eq_ok hc
    obtain ⟨_, h₃, hparts, hc⟩ := Work.bind_eq_ok hc
    cases hc
    obtain ⟨t, ht, rfl⟩ := Work.change_eq_ok hresults
    obtain ⟨u, hu, rfl⟩ := Work.change_eq_ok hdir
    refine ⟨rfl, ?_⟩
    cases alive : h.alive with
    | true =>
      simp only [Host.withTree_of_alive alive] at hu
      obtain ⟨p, hloc, habsent, hparent, rfl⟩ := Tree.makeDirectory_eq_ok_iff.mp hu
      rw [Host.withTree_of_alive alive, Host.withTree_of_alive (h := { h with tree := t }) alive]
        at hparts
      have hreach := Tree.reach_of_directories
        (fun q h => Tree.makeDirectory_extends hu q _ h) (Tree.reach_of_locate hloc)
      obtain ⟨hafter, hshort⟩ := makeParts_eq_ok (fun _ => plain_of_mem_partNames)
        (h := { h with tree := t.put p .directory }) alive hreach hparts
      exact ⟨t, p, alive, ht, by simpa using hfree, hloc, habsent, hparent, hafter, hshort⟩
    | false =>
      -- A process that is over makes nothing, so the first part has no directory to be in.
      rw [Host.withTree_of_dead alive] at hu hparts
      rw [Host.withTree_of_dead alive] at hparts
      obtain ⟨p, hloc, habsent, -, -⟩ := Tree.makeDirectory_eq_ok_iff.mp hu
      obtain ⟨_, _, hfirst, -⟩ := Work.bind_eq_ok hparts
      obtain ⟨v, hv, -⟩ := Work.change_eq_ok hfirst
      obtain ⟨q, hq, -⟩ := Tree.makeDirectory_eq_ok_iff.mp hv
      have hplain : Plain "results" := plain_of_mem_partNames (by decide)
      obtain ⟨hdirectory, -⟩ :=
        reach_part_eq_ok hplain (Tree.reach_of_locate hloc) (Tree.reach_of_locate hq)
      rw [habsent] at hdirectory
      cases hdirectory

theorem dir_ne_empty {resultDir name : String} {dirs : TrialDirs} {h h' : Host}
    (hc : create resultDir name h = (.ok dirs, h')) : dirs.dir ≠ "" := by
  obtain ⟨hdirs, t, p, made⟩ := create_eq_ok hc
  have hne : Path.join resultDir name ≠ "" := (Tree.locate_eq_ok_iff.mp made.located).2.1
  rw [hdirs]
  exact hne

/-! ### What the directory changes -/

/-- Below a place, the place itself left out. -/
def Below (p q : Place) : Prop := p <+: q ∧ q ≠ p

theorem below_name (p : Place) (name : String) : Below p (p ++ [name]) :=
  ⟨List.prefix_append .., by simp⟩

theorem withParts_alike (t : Tree) (p : Place) (names : List String) :
    t.Alike (Below p) (withParts t p names) := by
  induction names generalizing t with
  | nil => exact .refl _ t
  | cons name rest ih =>
    refine .trans (.mono ?_ (Tree.alike_put t (p ++ [name]) .directory)) (ih _)
    rintro q rfl
    exact below_name p name

theorem laidOut_alike (t : Tree) (p : Place) : t.Alike (p <+: ·) (laidOut t p) := by
  refine .trans (.mono ?_ (Tree.alike_put t p .directory)) (.mono ?_ (withParts_alike _ p _))
  · rintro q rfl
    exact List.prefix_refl _
  · exact fun q hq => hq.1

theorem laidOut_self (t : Tree) {p : Place} (hp : p ≠ []) :
    (laidOut t p).get? p = some .directory := by
  rw [laidOut, withParts_alike _ p _ p fun h => h.2 rfl, Tree.get?_put_self t hp]

theorem withParts_sound {t : Tree} (sound : t.Sound) {p : Place} (names : List String)
    (hp : t.get? p = some .directory)
    (hnew : ∀ name ∈ names, t.get? (p ++ [name]) ≠ some .directory)
    (hnames : names.Nodup) : (withParts t p names).Sound := by
  induction names generalizing t with
  | nil => exact sound
  | cons name rest ih =>
    obtain ⟨hname, hrest⟩ := List.nodup_cons.mp hnames
    refine ih (sound.put (by simpa using hp) (hnew name (List.mem_cons_self ..))) ?_ ?_ hrest
    · rwa [Tree.get?_put_of_ne t _ (by simp)]
    · intro other hother
      rw [Tree.get?_put_of_ne t]
      · exact hnew other (List.mem_cons_of_mem _ hother)
      · rintro h
        obtain rfl : other = name := by simpa using h
        exact hname hother

/-- Where nothing was, a directory with its parts may be. -/
theorem laidOut_sound {t : Tree} (sound : t.Sound) {p : Place} (hp : t.get? p = none)
    (hparent : t.get? p.dropLast = some .directory) : (laidOut t p).Sound := by
  have hne := Tree.ne_nil_of_absent hp
  refine withParts_sound (sound.put hparent (by simp [hp])) _ (Tree.get?_put_self t hne _) ?_
    (by decide)
  intro name _
  rw [Tree.get?_put_of_ne t _ (by simp), sound.absent_below hp (List.prefix_append ..)]
  simp

/-- In a results directory that is there, nothing else is made. -/
theorem Made.results_eq {resultDir dir : String} {h h' : Host} {t : Tree} {p place : Place}
    (made : Made resultDir dir h h' t p) (hreach : h.tree.reach h.cwd resultDir = .ok place)
    (hdir : h.tree.get? place = some .directory) :
    t = h.tree ∧ (resultDir = "" ∨ h.tree.locate h.cwd resultDir = .ok place) :=
  Tree.makeDirectories_of_reach hreach hdir made.results

section
variable {resultDir dir : String} {h h' : Host} {p : Place}
  (made : Made resultDir dir h h' h.tree p)
include made

theorem Made.alike : h.tree.Alike (p <+: ·) h'.tree := by
  rw [made.after]
  exact laidOut_alike _ _

theorem Made.extends (sound : h.tree.Sound) : h.tree.Extends h'.tree :=
  made.alike.extends fun _ hq => sound.absent_below made.absent hq

theorem Made.sound (sound : h.tree.Sound) : h'.tree.Sound := by
  rw [made.after]
  exact laidOut_sound sound made.absent made.parent

theorem Made.directory : h'.tree.get? p = some .directory := by
  rw [made.after]
  exact laidOut_self _ (Tree.ne_nil_of_absent made.absent)

/-- The directory is found where it was made. -/
theorem Made.located_after (sound : h.tree.Sound) : h'.tree.locate h'.cwd dir = .ok p := by
  have hcwd : h'.cwd = h.cwd := by rw [made.after]
  rw [hcwd]
  refine Tree.locate_of_directories (fun q hq => made.extends sound q _ hq) made.located ?_
  simp [made.directory]

end

/-! ### What is kept in any case -/

/-- Nothing of a host has changed but that there are more directories. -/
structure Grown (h h' : Host) : Prop where
  host : h' = { h with tree := h'.tree }
  tree : h.tree.Extends h'.tree
  files : ∀ q c r, h'.tree.get? q = some (.file c r) → h.tree.get? q = some (.file c r)
  sound : h.tree.Sound → h'.tree.Sound

theorem Grown.refl (h : Host) : Grown h h :=
  ⟨rfl, .refl _, fun _ _ _ hq => hq, id⟩

theorem Grown.trans {h i j : Host} (hi : Grown h i) (hj : Grown i j) : Grown h j := by
  refine ⟨?_, hi.tree.trans hj.tree, fun q c r hq => hi.files q c r (hj.files q c r hq),
    hj.sound ∘ hi.sound⟩
  rw [hj.host, hi.host]

theorem grown_of_makeDirectory {h : Host} {t : Tree} {path : String}
    (ht : h.tree.makeDirectory h.cwd path = .ok t) : Grown h { h with tree := t } :=
  ⟨rfl, Tree.makeDirectory_extends ht, fun _ _ _ => Tree.file_of_makeDirectory ht,
    fun sound => sound.makeDirectory ht⟩

theorem grown_of_makeDirectories {h : Host} {t : Tree} {path : String}
    (ht : h.tree.makeDirectories h.cwd path = .ok t) : Grown h { h with tree := t } :=
  ⟨rfl, Tree.makeDirectories_extends ht, fun _ _ _ => Tree.file_of_makeDirectories ht,
    fun sound => sound.makeDirectories ht⟩

theorem makeParts_grown (dir : String) (names : List String) :
    Work.Keeps Grown (makeParts dir names) := by
  induction names with
  | nil => exact Work.keeps_pure Grown.refl ()
  | cons name rest ih =>
    exact Work.Keeps.bind @Grown.trans
      (Work.keeps_change Grown.refl fun h t ht => grown_of_makeDirectory ht) fun _ => ih

/-- Whether the directory can be made or not, what was there is there. -/
theorem create_grown (resultDir name : String) : Work.Keeps Grown (create resultDir name) := by
  intro h
  rw [create_eq]
  split
  · exact Grown.refl h
  · exact Work.Keeps.bind @Grown.trans
      (Work.keeps_change Grown.refl fun h t ht => grown_of_makeDirectories ht) (fun _ =>
        Work.Keeps.bind @Grown.trans
          (Work.keeps_change Grown.refl fun h t ht => grown_of_makeDirectory ht) fun _ =>
            Work.Keeps.bind @Grown.trans (makeParts_grown _ _) fun _ =>
              Work.keeps_pure Grown.refl _) h

end DeviceLab.TrialDirs
