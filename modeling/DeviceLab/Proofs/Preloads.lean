import DeviceLab.Device.Dlc
import DeviceLab.Proofs.Discharge
import Mathlib.Data.Finset.Basic
import Mathlib.Data.Finset.Lattice.Lemmas

/-! What becomes of the images that came with a device.

An image lies in its place or is moved aside, and a move takes place or changes
nothing. Moving images aside and back leaves them as they were, wherever the first
half was stopped (`images_restored`), if moves back succeed. A move back that fails
does not stop a restoration, and what is still aside then is removed with the
directory it lies in (`images_kept_iff`). -/
namespace DeviceLab.Device.Dlc
open Dialogue

/-! ### The images -/

/-- The images in their place, and those in the directory for images that are moved
aside, if there is one. No image is in both. -/
structure Images where
  inPlace : Finset String
  aside : Option (Finset String)
  apart : Disjoint inPlace (aside.getD ∅)
  deriving DecidableEq

namespace Images
variable (s : Images) (id : String)

/-- The images that are moved aside. -/
def moved : Finset String := s.aside.getD ∅

/-- The images that there are. -/
def all : Finset String := s.inPlace ∪ s.moved

/-- There is a directory for images moved aside. -/
def opened : Images :=
  { s with aside := some s.moved, apart := s.apart }

/-- The directory for images moved aside is removed, with what lies in it. -/
def cleared : Images :=
  ⟨s.inPlace, none, Finset.disjoint_empty_right _⟩

/-- The image is moved aside. -/
def away : Images where
  inPlace := s.inPlace.erase id
  aside := some (insert id s.moved)
  apart := by
    have := s.apart
    rw [Finset.disjoint_left] at this ⊢
    grind [moved]

/-- The image is moved back. -/
def back : Images where
  inPlace := insert id s.inPlace
  aside := some (s.moved.erase id)
  apart := by
    have := s.apart
    rw [Finset.disjoint_left] at this ⊢
    grind [moved]

variable {s id} {i : String}

theorem mem_all : i ∈ s.all ↔ i ∈ s.inPlace ∨ i ∈ s.moved :=
  Finset.mem_union

theorem not_mem_moved (h : i ∈ s.inPlace) : i ∉ s.moved :=
  Finset.disjoint_left.mp s.apart h

/-- The images moved aside are the others. -/
theorem mem_moved_iff : i ∈ s.moved ↔ i ∈ s.all ∧ i ∉ s.inPlace := by
  have := @not_mem_moved s i
  rw [mem_all]
  grind

@[simp] theorem all_cleared : s.cleared.all = s.inPlace :=
  Finset.union_empty _

@[simp] theorem mem_inPlace_away : i ∈ (s.away id).inPlace ↔ i ≠ id ∧ i ∈ s.inPlace :=
  Finset.mem_erase

@[simp] theorem mem_inPlace_back : i ∈ (s.back id).inPlace ↔ i = id ∨ i ∈ s.inPlace :=
  Finset.mem_insert

theorem mem_moved_away : i ∈ (s.away id).moved ↔ i = id ∨ i ∈ s.moved :=
  Finset.mem_insert

theorem mem_moved_back : i ∈ (s.back id).moved ↔ i ≠ id ∧ i ∈ s.moved :=
  Finset.mem_erase

theorem all_away (h : id ∈ s.inPlace) : (s.away id).all = s.all := by
  ext i
  rw [mem_all, mem_all, mem_moved_away, mem_inPlace_away]
  grind

theorem all_back (h : id ∈ s.moved) : (s.back id).all = s.all := by
  ext i
  rw [mem_all, mem_all, mem_moved_back, mem_inPlace_back]
  grind

end Images

/-! ### The commands -/

def makeAside : Command :=
  Command.of ["mkdir", "-p", disabledDir]

def askFor (id : String) : Command :=
  (Command.of ["test", "-d", preloadDir ++ id]).ignoringStatus

def moveAway (id : String) : Command :=
  Command.of ["mv", preloadDir ++ id, disabledDir ++ id]

def moveBack (id : String) : Command :=
  (Command.of ["mv", disabledDir ++ id, preloadDir ++ id]).ignoringStatus

def removeAside : Command :=
  (Command.of ["rm", "-r", disabledDir]).ignoringStatus

/-- The five are told apart by their programs and by whether their status matters. -/
def kind (c : Command) : String × Bool :=
  (c.program, c.ignoreStatus)

section
variable {id i : String}

@[simp] theorem kind_makeAside : kind makeAside = ("mkdir", false) := rfl

@[simp] theorem kind_askFor : kind (askFor id) = ("test", true) := rfl

@[simp] theorem kind_moveAway : kind (moveAway id) = ("mv", false) := rfl

@[simp] theorem kind_moveBack : kind (moveBack id) = ("mv", true) := rfl

@[simp] theorem kind_removeAside : kind removeAside = ("rm", true) := rfl

theorem append_inj {dir : String} (h : dir ++ id = dir ++ i) : id = i := by
  simpa [← String.toList_inj] using h

theorem askFor_inj (h : askFor id = askFor i) : id = i :=
  append_inj (List.cons.inj (List.cons.inj (List.cons.inj (congrArg Command.argv h)).2).2).1

theorem moveAway_inj (h : moveAway id = moveAway i) : id = i :=
  append_inj (List.cons.inj (List.cons.inj (congrArg Command.argv h)).2).1

theorem moveBack_inj (h : moveBack id = moveBack i) : id = i :=
  append_inj (List.cons.inj (List.cons.inj (congrArg Command.argv h)).2).1

variable {c c' : Command} {reply reply' : Except Failure Output}

theorem ne_of_kind (h : kind c ≠ kind c') : c ≠ c' :=
  fun heq => h (congrArg kind heq)

theorem ended_ne_of_kind (h : kind c ≠ kind c') : ended c reply ≠ ended c' reply' :=
  fun heq => ne_of_kind h (ended_inj heq).1

end

/-- The image was moved back. -/
def MovedBack (log : Log) (id : String) : Prop :=
  ∃ out, ended (moveBack id) (.ok out) ∈ log ∧ out.success = true

theorem movedBack_append {log other : Log} {id : String} :
    MovedBack (log ++ other) id ↔ MovedBack log id ∨ MovedBack other id := by
  simp only [MovedBack, List.mem_append, or_and_right, exists_or]

/-- What may change where images are: a directory is made or removed, or a move succeeds. -/
inductive Changes : Exchange Request.Reply → Prop where
  | made (r : Except Failure Output) : Changes (ended makeAside r)
  | movedAway (id : String) (out : Output) : Changes (ended (moveAway id) (.ok out))
  | movedBack (id : String) (out : Output) :
      out.success = true → Changes (ended (moveBack id) (.ok out))
  | removed (out : Output) : Changes (ended removeAside (.ok out))

/-- Where images are before and behind an exchange with the device. -/
structure Reacts (s : Images) (x : Exchange Request.Reply) (s' : Images) : Prop where
  /-- The directory is there if it could be made; it may be there otherwise. -/
  made : ∀ r, x = ended makeAside r → s' = s.opened ∨ (∃ e, r = .error e) ∧ s' = s
  asked : ∀ id out, x = ended (askFor id) (.ok out) → (out.success = true ↔ id ∈ s.inPlace)
  /-- Only an image that is there can be moved. -/
  movedAway : ∀ id out, x = ended (moveAway id) (.ok out) → id ∈ s.inPlace ∧ s' = s.away id
  movedBack : ∀ id out, x = ended (moveBack id) (.ok out) → out.success = true →
    id ∈ s.moved ∧ s' = s.back id
  removed : ∀ out, x = ended removeAside (.ok out) → s' = s.cleared
  /-- What fails changes nothing, nor does anything else. -/
  still : ¬ Changes x → s' = s

/-- On this device moves back succeed whenever the image is there, and the directory can
be removed. -/
structure Yields (s : Images) (x : Exchange Request.Reply) (s' : Images) : Prop
    extends Reacts s x s' where
  moves : ∀ id r, x = ended (moveBack id) r →
    ∃ out, r = .ok out ∧ (id ∈ s.moved → out.success = true)
  removes : ∀ r, x = ended removeAside r → ∃ out, r = .ok out

section
variable {s s' s'' : Images} {log other : Log} {ids : List String} {id : String}
  {reply : Except Failure Output}

/-- To ask for an image changes nothing. -/
theorem not_changes_askFor : ¬ Changes (ended (askFor id) reply) := by
  intro h
  generalize hx : ended (askFor id) reply = x at h
  cases h <;> exact ended_ne_of_kind (by simp) hx

theorem not_changes_error {c : Command} {e : Failure} (hc : c ≠ makeAside) :
    ¬ Changes (ended c (.error e)) := by
  intro h
  generalize hx : ended c (.error e) = x at h
  cases h with
  | made r => exact hc (ended_inj hx).1
  | movedAway _ out | movedBack _ out | removed out => cases (ended_inj hx).2

/-- A move back changes nothing unless it succeeds. -/
theorem not_changes_moveBack (h : ∀ out, reply = .ok out → out.success = false) :
    ¬ Changes (ended (moveBack id) reply) := by
  intro hchange
  generalize hx : ended (moveBack id) reply = x at hchange
  cases hchange with
  | movedBack _ out hout => exact Bool.false_ne_true ((h out (ended_inj hx).2).symm.trans hout)
  | made | movedAway | removed => exact ended_ne_of_kind (by simp) hx

/-! ### One command -/

theorem Reacts.of_askFor (h : Reacts s (ended (askFor id) reply) s') : s' = s :=
  h.still not_changes_askFor

/-- A move away takes place, or it fails and nothing happens. -/
theorem Reacts.of_moveAway (h : Reacts s (ended (moveAway id) reply) s') :
    (∃ out, reply = .ok out ∧ id ∈ s.inPlace ∧ s' = s.away id) ∨
      (∃ e, reply = .error e) ∧ s' = s := by
  cases reply with
  | ok out => exact .inl ⟨out, rfl, h.movedAway id out rfl⟩
  | error e => exact .inr ⟨⟨e, rfl⟩, h.still (not_changes_error (ne_of_kind (by simp)))⟩

/-- A move back takes place, or nothing happens. -/
theorem Reacts.of_moveBack (h : Reacts s (ended (moveBack id) reply) s') :
    (∃ out, reply = .ok out ∧ out.success = true ∧ id ∈ s.moved ∧ s' = s.back id) ∨
      (∀ out, reply = .ok out → out.success = false) ∧ s' = s := by
  by_cases hdone : ∃ out, reply = .ok out ∧ out.success = true
  · obtain ⟨out, rfl, hout⟩ := hdone
    exact .inl ⟨out, rfl, hout, h.movedBack id out rfl hout⟩
  · have hfails : ∀ out, reply = .ok out → out.success = false :=
      fun out hout => Bool.eq_false_iff.mpr fun hsuccess => hdone ⟨out, hout, hsuccess⟩
    exact .inr ⟨hfails, h.still (not_changes_moveBack hfails)⟩

theorem Reacts.of_removeAside (h : Reacts s (ended removeAside reply) s') :
    (∃ out, reply = .ok out) ∧ s' = s.cleared ∨ (∃ e, reply = .error e) ∧ s' = s := by
  cases reply with
  | ok out => exact .inl ⟨⟨out, rfl⟩, h.removed out rfl⟩
  | error e => exact .inr ⟨⟨e, rfl⟩, h.still (not_changes_error (ne_of_kind (by simp)))⟩

/-! ### Moving back -/

/-- What it is to move images back: none is lost, and those that were moved are among
the named ones. -/
structure Backs (ids : List String) (s : Images) (log : Log) (s' : Images) : Prop where
  all_eq : s'.all = s.all
  inPlace_iff : ∀ i, i ∈ s'.inPlace ↔ i ∈ s.inPlace ∨ MovedBack log i
  named : ∀ i, MovedBack log i → i ∈ ids

theorem not_movedBack_nil (i : String) : ¬ MovedBack [] i :=
  fun ⟨_, hmem, _⟩ => List.not_mem_nil hmem

theorem Backs.nil : Backs ids s [] s where
  all_eq := rfl
  inPlace_iff i := by simp [not_movedBack_nil]
  named i h := absurd h (not_movedBack_nil i)

theorem Backs.append (h : Backs ids s log s') (h' : Backs ids s' other s'') :
    Backs ids s (log ++ other) s'' where
  all_eq := h'.all_eq.trans h.all_eq
  inPlace_iff i := by rw [h'.inPlace_iff, h.inPlace_iff, movedBack_append, or_assoc]
  named i hi := (movedBack_append.mp hi).elim (h.named i) (h'.named i)

theorem Reacts.backs (h : Reacts s (ended (moveBack id) reply) s') (hid : id ∈ ids) :
    Backs ids s [ended (moveBack id) reply] s' := by
  have hmoved : ∀ i, MovedBack [ended (moveBack id) reply] i ↔
      i = id ∧ ∃ out, reply = .ok out ∧ out.success = true := by
    intro i
    constructor
    · rintro ⟨out, hmem, hout⟩
      obtain ⟨hc, hreply⟩ := ended_inj (List.mem_singleton.mp hmem)
      exact ⟨moveBack_inj hc, out, hreply.symm, hout⟩
    · rintro ⟨rfl, out, rfl, hout⟩
      exact ⟨out, List.mem_singleton_self _, hout⟩
  rcases h.of_moveBack with ⟨out, rfl, hout, hthere, rfl⟩ | ⟨hfails, rfl⟩
  · refine ⟨Images.all_back hthere, fun i => ?_, fun i hi => ((hmoved i).mp hi).1 ▸ hid⟩
    rw [hmoved, Images.mem_inPlace_back]
    simp [hout, or_comm]
  · have hnone : ∀ i, ¬ MovedBack [ended (moveBack id) reply] i := by
      intro i hi
      obtain ⟨-, out, hreply, hout⟩ := (hmoved i).mp hi
      exact Bool.false_ne_true ((hfails out hreply).symm.trans hout)
    exact ⟨rfl, fun i => by simp [hnone], fun i hi => absurd hi (hnone i)⟩

/-- What is still aside behind moves back was aside before and was not moved. -/
theorem Backs.mem_moved_iff (h : Backs ids s log s') {i : String} :
    i ∈ s'.moved ↔ i ∈ s.moved ∧ ¬ MovedBack log i := by
  rw [Images.mem_moved_iff, Images.mem_moved_iff, h.all_eq, h.inPlace_iff]
  tauto

theorem Backs.mono {named : List String} (h : Backs ids s log s') (hsub : ids ⊆ named) :
    Backs named s log s' :=
  { h with named := fun i hi => hsub (h.named i hi) }

theorem restoreEach_backs {r : Except Failure Unit}
    (h : Course (ExceptT.run (restoreEach ids)) log r) (hs : Moves Reacts s log s') :
    Backs ids s log s' := by
  induction ids generalizing log s with
  | nil =>
    obtain ⟨rfl, -⟩ := course_pure_iff.mp h
    obtain rfl := moves_nil_iff.mp hs
    exact .nil
  | cons id ids ih =>
    obtain ⟨e, -, hone⟩ | ⟨first, _, rest, rfl, hone, hrest⟩ := course_try_iff.mp h
    · obtain ⟨reply, rfl, -⟩ := Session.system_course hone
      exact (moves_singleton_iff.mp hs).backs List.mem_cons_self
    · obtain ⟨s₁, hfirst, hsecond⟩ := moves_append_iff.mp hs
      obtain ⟨reply, rfl, -⟩ := Session.system_course hone
      have hbacks : Backs (id :: ids) s [ended (moveBack id) reply] s₁ :=
        (moves_singleton_iff.mp hfirst).backs List.mem_cons_self
      exact hbacks.append ((ih hrest hsecond).mono (List.subset_cons_self id ids))

/-- Behind the moves the directory is removed, unless a command could not be run. -/
theorem restorePreloaded_cases {r : Except Failure Unit}
    (h : Course (ExceptT.run (restorePreloaded ids)) log r) (hs : Moves Reacts s log s') :
    ((∃ f, r = .error f) ∧ Backs ids s log s') ∨
      r = .ok () ∧ ∃ s₁, Backs ids s log s₁ ∧ s' = s₁.cleared := by
  obtain ⟨e, rfl, heach⟩ | ⟨each, _, last, rfl, heach, hlast⟩ := course_try_iff.mp h
  · exact .inl ⟨⟨e, rfl⟩, restoreEach_backs heach hs⟩
  obtain ⟨s₁, hfirst, hsecond⟩ := moves_append_iff.mp hs
  obtain ⟨reply, rfl, rfl⟩ := Session.system_course hlast
  have hbacks : Backs ids s (each ++ [ended removeAside reply]) s₁ := by
    have hnone : ∀ i, ¬ MovedBack [ended removeAside reply] i := by
      rintro i ⟨out, hmem, -⟩
      exact ended_ne_of_kind (by simp) (List.mem_singleton.mp hmem)
    have hlast : Backs ids s₁ [ended removeAside reply] s₁ :=
      ⟨rfl, fun i => by simp [hnone], fun i hi => absurd hi (hnone i)⟩
    exact (restoreEach_backs heach hfirst).append hlast
  rcases (moves_singleton_iff.mp hsecond).of_removeAside with ⟨⟨out, rfl⟩, rfl⟩ | ⟨⟨e, rfl⟩, rfl⟩
  · exact .inr ⟨rfl, s₁, hbacks, rfl⟩
  · exact .inl ⟨⟨e, rfl⟩, hbacks⟩

/-! ### Moving aside -/

/-- What it is to move images aside: none is lost, and those that are moved are among the
named ones. -/
structure Aways (ids : List String) (s : Images) (r : Except Failure Unit) (s' : Images) :
    Prop where
  all_eq : s'.all = s.all
  left : s'.inPlace ⊆ s.inPlace
  named : ∀ i ∈ s'.moved, i ∈ s.moved ∨ i ∈ ids
  /-- If nothing stopped it, none of the named images is in its place. -/
  gone : r = .ok () → ∀ i ∈ ids, i ∉ s'.inPlace

theorem disableOne_eq (id : String) :
    disableOne id = (Session.run (askFor id) >>= fun present =>
      if present.success then Session.system (moveAway id) else pure ()) := rfl

theorem Aways.of_still {r : Except Failure Unit} (h : r = .ok () → ∀ i ∈ ids, i ∉ s.inPlace) :
    Aways ids s r s :=
  ⟨rfl, subset_rfl, fun _ hi => .inl hi, h⟩

theorem Reacts.aways (h : Reacts s (ended (moveAway id) reply) s') :
    Aways [id] s (reply.map fun _ => ()) s' := by
  rcases h.of_moveAway with ⟨out, rfl, hthere, rfl⟩ | ⟨⟨e, rfl⟩, rfl⟩
  · refine ⟨Images.all_away hthere, Finset.erase_subset _ _, fun i hi => ?_, fun _ i hi => ?_⟩
    · exact (Images.mem_moved_away.mp hi).elim (fun heq => .inr (heq ▸ List.mem_singleton_self _))
        .inl
    · obtain rfl := List.mem_singleton.mp hi
      simp
  · exact .of_still fun hok => nomatch hok

theorem disableOne_aways {r : Except Failure Unit}
    (h : Course (ExceptT.run (disableOne id)) log r) (hs : Moves Reacts s log s') :
    Aways [id] s r s' := by
  rw [disableOne_eq] at h
  obtain ⟨e, rfl, hask⟩ | ⟨ask, present, rest, rfl, hask, hrest⟩ := course_try_iff.mp h
  · obtain rfl := course_question_iff.mp hask
    obtain rfl := (moves_singleton_iff.mp hs).of_askFor
    exact .of_still fun hok => nomatch hok
  obtain rfl := course_question_iff.mp hask
  obtain ⟨s₁, hfirst, hsecond⟩ := moves_append_iff.mp hs
  have hreacts : Reacts s (ended (askFor id) (.ok present)) s₁ := moves_singleton_iff.mp hfirst
  obtain rfl := hreacts.of_askFor
  split at hrest
  case isTrue =>
    obtain ⟨reply, rfl, rfl⟩ := Session.system_course hrest
    exact (moves_singleton_iff.mp hsecond).aways
  case isFalse habsent =>
    obtain ⟨rfl, rfl⟩ := course_pure_iff.mp hrest
    obtain rfl := moves_nil_iff.mp hsecond
    refine .of_still fun _ i hi => ?_
    obtain rfl := List.mem_singleton.mp hi
    exact fun hthere => habsent ((hreacts.asked i present rfl).mpr hthere)

theorem disableEach_aways {r : Except Failure Unit}
    (h : Course (ExceptT.run (disableEach ids)) log r) (hs : Moves Reacts s log s') :
    Aways ids s r s' := by
  induction ids generalizing log s with
  | nil =>
    obtain ⟨rfl, -⟩ := course_pure_iff.mp h
    obtain rfl := moves_nil_iff.mp hs
    exact .of_still (by simp)
  | cons id ids ih =>
    have hid : ∀ i ∈ [id], i ∈ id :: ids := by simp
    obtain ⟨e, rfl, hone⟩ | ⟨first, _, rest, rfl, hone, hrest⟩ := course_try_iff.mp h
    · have haway := disableOne_aways hone hs
      exact ⟨haway.all_eq, haway.left, fun i hi => (haway.named i hi).imp_right (hid i),
        fun hok => nomatch hok⟩
    · obtain ⟨s₁, hfirst, hsecond⟩ := moves_append_iff.mp hs
      have haway := disableOne_aways hone hfirst
      have haways := ih hrest hsecond
      refine ⟨haways.all_eq.trans haway.all_eq, haways.left.trans haway.left, fun i hi => ?_,
        fun hok => List.forall_mem_cons.mpr ⟨fun hthere => ?_, haways.gone hok⟩⟩
      · rcases haways.named i hi with hmoved | hnamed
        · exact (haway.named i hmoved).imp_right (hid i)
        · exact .inr (List.mem_cons_of_mem _ hnamed)
      · exact haway.gone rfl id (List.mem_singleton_self _) (haways.left hthere)

theorem disablePreloaded_aways {r : Except Failure Unit}
    (h : Course (ExceptT.run (disablePreloaded ids)) log r) (hs : Moves Reacts s log s') :
    Aways ids s r s' := by
  have hmade : ∀ {reply : Except Failure Output} {s₁ : Images},
      Reacts s (ended makeAside reply) s₁ → s₁ = s.opened ∨ s₁ = s :=
    fun hreacts => (hreacts.made _ rfl).imp_right And.right
  obtain ⟨e, rfl, hmake⟩ | ⟨make, _, rest, rfl, hmake, heach⟩ := course_try_iff.mp h
  · obtain ⟨reply, rfl, -⟩ := Session.system_course hmake
    rcases hmade (moves_singleton_iff.mp hs) with rfl | rfl
    · exact ⟨rfl, subset_rfl, fun _ hi => .inl hi, fun hok => nomatch hok⟩
    · exact .of_still fun hok => nomatch hok
  · obtain ⟨reply, rfl, -⟩ := Session.system_course hmake
    obtain ⟨s₁, hfirst, hsecond⟩ := moves_append_iff.mp hs
    have haways := disableEach_aways heach hsecond
    rcases hmade (moves_singleton_iff.mp hfirst) with rfl | rfl
    · exact ⟨haways.all_eq, haways.left, haways.named, haways.gone⟩
    · exact haways

end

/-! ### A device -/

/-- A device with its images and, from the next command on, which of its commands are
refused. -/
structure Shelf where
  images : Images
  refusals : List Bool

namespace Shelf

def done : Except Failure Output :=
  .ok ⟨"", some 0, "", ""⟩

def refusal : Output :=
  ⟨"", some 1, "", ""⟩

/-- The name of what lies at the path in the directory. -/
def nameIn (dir path : String) : String :=
  String.ofList (path.toList.drop dir.length)

/-- What becomes of a command, and where images are then. -/
def command (s : Images) (refused : Bool) (c : Command) : Except Failure Output × Images :=
  let asked := nameIn preloadDir (c.argv.getD 2 "")
  let away := nameIn preloadDir (c.argv.getD 1 "")
  let back := nameIn disabledDir (c.argv.getD 1 "")
  if c = askFor asked then (if asked ∈ s.inPlace then done else .ok refusal, s)
  else if c = makeAside then if refused then (.error refusal.failure, s) else (done, s.opened)
  else if c = moveAway away then
    if !refused && away ∈ s.inPlace then (done, s.away away) else (.error refusal.failure, s)
  else if c = moveBack back then
    if !refused && back ∈ s.moved then (done, s.back back) else (.ok refusal, s)
  else if c = removeAside then (done, s.cleared)
  else (.error refusal.failure, s)

/-- How the device answers. -/
def answer : (q : Request) → Shelf → q.Reply × Shelf
  | .run c, w =>
    let (reply, images) := command w.images (w.refusals.headD false) c
    (reply, ⟨images, w.refusals.tail⟩)
  | .now, w => (Nat.zero, w)
  | .pause _, w => ((), w)
  | .jobInstalled _, w | .controllerPresent, w | .batteryPresent, w | .batteryDischarging, w =>
    (false, w)
  | .openBattery, w | .refreshBattery, w | .record _, w => (.ok (), w)

@[simp] theorem nameIn_append (dir id : String) : nameIn dir (dir ++ id) = id := by
  simp [nameIn, ← String.length_toList]

section
variable {s : Images} {id : String} {c : Command} {reply : Except Failure Output}

theorem reacts_still (hchange : ¬ Changes (ended c reply))
    (hasked : ∀ id out, c = askFor id → reply = .ok out → (out.success = true ↔ id ∈ s.inPlace)) :
    Reacts s (ended c reply) s where
  made r hx := absurd (hx ▸ .made r) hchange
  asked id out hx := hasked id out (ended_inj hx).1 (ended_inj hx).2
  movedAway id out hx := absurd (hx ▸ .movedAway id out) hchange
  movedBack id out hx hout := absurd (hx ▸ .movedBack id out hout) hchange
  removed out hx := absurd (hx ▸ .removed out) hchange
  still _ := rfl

theorem reacts_made {s' : Images} (h : s' = s.opened ∨ (∃ e, reply = .error e) ∧ s' = s) :
    Reacts s (ended makeAside reply) s' where
  made r hx := (ended_inj hx).2 ▸ h
  asked _ _ hx := absurd hx (ended_ne_of_kind (by simp))
  movedAway _ _ hx := absurd hx (ended_ne_of_kind (by simp))
  movedBack _ _ hx := absurd hx (ended_ne_of_kind (by simp))
  removed _ hx := absurd hx (ended_ne_of_kind (by simp))
  still hnot := absurd (.made reply) hnot

theorem reacts_away (h : id ∈ s.inPlace) (out : Output) :
    Reacts s (ended (moveAway id) (.ok out)) (s.away id) where
  made _ hx := absurd hx (ended_ne_of_kind (by simp))
  asked _ _ hx := absurd hx (ended_ne_of_kind (by simp))
  movedAway i _ hx := moveAway_inj (ended_inj hx).1 ▸ ⟨h, rfl⟩
  movedBack _ _ hx := absurd hx (ended_ne_of_kind (by simp))
  removed _ hx := absurd hx (ended_ne_of_kind (by simp))
  still hnot := absurd (.movedAway id out) hnot

theorem reacts_back (h : id ∈ s.moved) {out : Output} (hout : out.success = true) :
    Reacts s (ended (moveBack id) (.ok out)) (s.back id) where
  made _ hx := absurd hx (ended_ne_of_kind (by simp))
  asked _ _ hx := absurd hx (ended_ne_of_kind (by simp))
  movedAway _ _ hx := absurd hx (ended_ne_of_kind (by simp))
  movedBack i _ hx _ := moveBack_inj (ended_inj hx).1 ▸ ⟨h, rfl⟩
  removed _ hx := absurd hx (ended_ne_of_kind (by simp))
  still hnot := absurd (.movedBack id out hout) hnot

theorem reacts_cleared (out : Output) : Reacts s (ended removeAside (.ok out)) s.cleared where
  made _ hx := absurd hx (ended_ne_of_kind (by simp))
  asked _ _ hx := absurd hx (ended_ne_of_kind (by simp))
  movedAway _ _ hx := absurd hx (ended_ne_of_kind (by simp))
  movedBack _ _ hx := absurd hx (ended_ne_of_kind (by simp))
  removed _ _ := rfl
  still hnot := absurd (.removed out) hnot

end

section
variable {s : Images} {refused : Bool} {id : String}

theorem command_askFor :
    command s refused (askFor id) = (if id ∈ s.inPlace then done else .ok refusal, s) := by
  have hname : nameIn preloadDir ((askFor id).argv.getD 2 "") = id := nameIn_append _ _
  rw [command, hname, if_pos rfl]

theorem command_makeAside : command s refused makeAside =
    if refused then (.error refusal.failure, s) else (done, s.opened) := by
  rw [command, if_neg (ne_of_kind (by simp)), if_pos rfl]

theorem command_moveAway : command s refused (moveAway id) =
    if !refused && id ∈ s.inPlace then (done, s.away id) else (.error refusal.failure, s) := by
  have hname : nameIn preloadDir ((moveAway id).argv.getD 1 "") = id := nameIn_append _ _
  rw [command, if_neg (ne_of_kind (by simp)), if_neg (ne_of_kind (by simp)), hname, if_pos rfl]

theorem command_moveBack : command s refused (moveBack id) =
    if !refused && id ∈ s.moved then (done, s.back id) else (.ok refusal, s) := by
  have hname : nameIn disabledDir ((moveBack id).argv.getD 1 "") = id := nameIn_append _ _
  rw [command, if_neg (ne_of_kind (by simp)), if_neg (ne_of_kind (by simp)),
    if_neg (ne_of_kind (by simp)), hname, if_pos rfl]

theorem command_removeAside : command s refused removeAside = (done, s.cleared) := by
  rw [command, if_neg (ne_of_kind (by simp)), if_neg (ne_of_kind (by simp)),
    if_neg (ne_of_kind (by simp)), if_neg (ne_of_kind (by simp)), if_pos rfl]

theorem command_other {c : Command} (hask : ∀ i, c ≠ askFor i) (hmake : c ≠ makeAside)
    (haway : ∀ i, c ≠ moveAway i) (hback : ∀ i, c ≠ moveBack i) (hremove : c ≠ removeAside) :
    command s refused c = (.error refusal.failure, s) := by
  rw [command, if_neg (hask _), if_neg hmake, if_neg (haway _), if_neg (hback _), if_neg hremove]

end

/-- The device reacts as devices do, whatever it refuses. -/
theorem reacts_command (s : Images) (refused : Bool) (c : Command) :
    Reacts s (ended c (command s refused c).1) (command s refused c).2 := by
  by_cases hask : ∃ i, c = askFor i
  · obtain ⟨id, rfl⟩ := hask
    rw [command_askFor]
    refine reacts_still not_changes_askFor fun i out hc hout => ?_
    obtain rfl := askFor_inj hc
    by_cases hthere : id ∈ s.inPlace
    · rw [if_pos hthere] at hout
      exact iff_of_true (Except.ok.inj hout ▸ rfl) hthere
    · rw [if_neg hthere] at hout
      exact iff_of_false (Except.ok.inj hout ▸ Bool.false_ne_true) hthere
  by_cases hmake : c = makeAside
  · rw [hmake, command_makeAside]
    cases refused with
    | true => exact reacts_made (.inr ⟨⟨_, rfl⟩, rfl⟩)
    | false => exact reacts_made (.inl rfl)
  by_cases haway : ∃ i, c = moveAway i
  · obtain ⟨id, rfl⟩ := haway
    rw [command_moveAway]
    split
    case isTrue h => exact reacts_away (by simpa using (Bool.and_eq_true_iff.mp h).2) _
    case isFalse =>
      exact reacts_still (not_changes_error hmake) fun i _ hc => absurd ⟨i, hc⟩ hask
  by_cases hback : ∃ i, c = moveBack i
  · obtain ⟨id, rfl⟩ := hback
    rw [command_moveBack]
    split
    case isTrue h => exact reacts_back (by simpa using (Bool.and_eq_true_iff.mp h).2) rfl
    case isFalse =>
      have hrefused : ¬ Changes (ended (moveBack id) (.ok refusal)) :=
        not_changes_moveBack fun out hout => Except.ok.inj hout ▸ rfl
      exact reacts_still hrefused fun i _ hc => absurd ⟨i, hc⟩ hask
  by_cases hremove : c = removeAside
  · rw [hremove, command_removeAside]
    exact reacts_cleared _
  · rw [command_other (not_exists.mp hask) hmake (not_exists.mp haway) (not_exists.mp hback)
      hremove]
    exact reacts_still (not_changes_error hmake) fun i _ hc => absurd ⟨i, hc⟩ hask

/-- If it refuses nothing, moves back succeed. -/
theorem yields_command (s : Images) (c : Command) :
    Yields s (ended c (command s false c).1) (command s false c).2 where
  toReacts := reacts_command s false c
  moves id r hx := by
    obtain ⟨rfl, rfl⟩ := ended_inj hx
    rw [command_moveBack]
    by_cases hthere : id ∈ s.moved
    · exact ⟨⟨"", some 0, "", ""⟩, by simp [hthere, done], fun _ => rfl⟩
    · exact ⟨refusal, by simp [hthere], fun h => absurd h hthere⟩
  removes r hx := by
    obtain ⟨rfl, rfl⟩ := ended_inj hx
    rw [command_removeAside]
    exact ⟨_, rfl⟩

/-- What is no command changes nothing. -/
theorem yields_other {s : Images} {x : Exchange Request.Reply} (h : ∀ c, x.1 ≠ Request.run c) :
    Yields s x s := by
  have hne : ∀ c r, x ≠ ended c r := fun c r hx => h c (congrArg Sigma.fst hx)
  exact {
    made := fun _ hx => absurd hx (hne _ _)
    asked := fun _ _ hx => absurd hx (hne _ _)
    movedAway := fun _ _ hx => absurd hx (hne _ _)
    movedBack := fun _ _ hx => absurd hx (hne _ _)
    removed := fun _ hx => absurd hx (hne _ _)
    still := fun _ => rfl
    moves := fun _ _ hx => absurd hx (hne _ _)
    removes := fun _ hx => absurd hx (hne _ _) }

theorem reacts_answer (q : Request) (w : Shelf) :
    Reacts w.images ⟨q, (answer q w).1⟩ (answer q w).2.images := by
  cases q with
  | run c => exact reacts_command _ _ c
  | _ => exact (yields_other (by simp)).toReacts

theorem yields_answer (q : Request) {w : Shelf} (h : w.refusals = []) :
    Yields w.images ⟨q, (answer q w).1⟩ (answer q w).2.images := by
  obtain ⟨images, refusals⟩ := w
  subst h
  cases q with
  | run c => exact yields_command _ c
  | _ => exact yields_other (by simp)

theorem refusals_answer (q : Request) {w : Shelf} (h : w.refusals = []) :
    (answer q w).2.refusals = [] := by
  cases q with
  | run c => exact congrArg List.tail h
  | _ => exact h

section
variable {α : Type} (d : Talk α)

theorem moves_reacts (w : Shelf) :
    Moves Reacts w.images (d.exchanges answer w) (d.run answer w).2.images :=
  moves_run (fun _ _ (h : True) => h) (fun q w _ => reacts_answer q w) d trivial

theorem moves_yields {w : Shelf} (h : w.refusals = []) :
    Moves Yields w.images (d.exchanges answer w) (d.run answer w).2.images :=
  moves_run (fun q _ h => refusals_answer q h) (fun q _ h => yields_answer q h) d h

end

end Shelf

section
variable {s s' : Images} {log : Log} {ids : List String} {id : String}

/-! ### What is kept -/

/-- **A restoration keeps the images if and only if each that lay aside was moved back,
or a command could not be run**, in which case the directory is not removed. What is lost
is what lay aside and was not moved back, be it that its move failed or that it was not
named. -/
theorem images_kept_iff {r : Except Failure Unit}
    (h : Course (ExceptT.run (restorePreloaded ids)) log r) (hs : Moves Reacts s log s') :
    (s.all ⊆ s'.all ↔ (r = .ok () → ∀ i ∈ s.moved, MovedBack log i)) ∧
      (∀ i ∈ s.all, i ∉ s'.all ↔ r = .ok () ∧ i ∈ s.moved ∧ ¬ MovedBack log i) ∧
      ∀ i, MovedBack log i → i ∈ ids := by
  have hlost : ∀ i ∈ s.all, i ∉ s'.all ↔ r = .ok () ∧ i ∈ s.moved ∧ ¬ MovedBack log i := by
    intro i hi
    rcases restorePreloaded_cases h hs with ⟨⟨f, rfl⟩, hbacks⟩ | ⟨rfl, s₁, hbacks, rfl⟩
    · simp [hbacks.all_eq, hi]
    · rw [Images.all_cleared, hbacks.inPlace_iff, Images.mem_moved_iff]
      simp [hi]
  have hnamed : ∀ i, MovedBack log i → i ∈ ids := by
    rcases restorePreloaded_cases h hs with ⟨-, hbacks⟩ | ⟨-, s₁, hbacks, -⟩
    · exact hbacks.named
    · exact hbacks.named
  refine ⟨⟨fun hkept hok i hi => ?_, fun hback i hi => ?_⟩, hlost, hnamed⟩
  · have hall : i ∈ s.all := Images.mem_all.mpr (.inr hi)
    by_contra hnot
    exact (hlost i hall).mpr ⟨hok, hi, hnot⟩ (hkept hall)
  · by_contra hgone
    obtain ⟨hok, hmoved, hnot⟩ := (hlost i hi).mp hgone
    exact hnot (hback hok i hmoved)

/-- The image whose move back is refused is lost, and so is the one that is not named. -/
theorem images_kept_iff_refused :
    let w : Shelf := ⟨⟨{"base"}, some {"other-dlc", "sample-dlc"}, by simp⟩, [true]⟩
    let restore := ExceptT.run (restorePreloaded ["sample-dlc"])
    let log : Log := restore.exchanges Shelf.answer w
    let left : Images := ⟨{"base"}, none, by simp⟩
    Course restore log (.ok ()) ∧ Moves Reacts w.images log left ∧
      "sample-dlc" ∉ left.all ∧ ¬ MovedBack log "sample-dlc" ∧
      "other-dlc" ∉ left.all ∧ ¬ MovedBack log "other-dlc" := by
  intro w restore log left
  have hresult : (restore.run Shelf.answer w).1 = .ok () := by decide +kernel
  have hcourse : Course restore log (.ok ()) := hresult ▸ course_run Shelf.answer restore w
  have hleft : (restore.run Shelf.answer w).2.images = left := by decide +kernel
  have hmoves : Moves Reacts w.images log left :=
    hleft ▸ Shelf.moves_reacts restore w
  obtain ⟨-, hlost, -⟩ := images_kept_iff hcourse hmoves
  have hsample : "sample-dlc" ∉ left.all := by decide +kernel
  have hother : "other-dlc" ∉ left.all := by decide +kernel
  exact ⟨hcourse, hmoves, hsample, ((hlost _ (by decide +kernel)).mp hsample).2.2, hother,
    ((hlost _ (by decide +kernel)).mp hother).2.2⟩

/-! ### Aside and back -/

/-- Where moves back succeed, none of the named images is left aside. -/
theorem restoreEach_yields {r : Except Failure Unit}
    (h : Course (ExceptT.run (restoreEach ids)) log r) (hs : Moves Yields s log s') :
    r = .ok () ∧ ∀ i ∈ ids, i ∉ s'.moved := by
  induction ids generalizing log s with
  | nil =>
    obtain ⟨-, rfl⟩ := course_pure_iff.mp h
    exact ⟨rfl, by simp⟩
  | cons id ids ih =>
    obtain ⟨e, rfl, hone⟩ | ⟨first, _, rest, rfl, hone, hrest⟩ := course_try_iff.mp h
    · obtain ⟨reply, rfl, hreply⟩ := Session.system_course hone
      obtain ⟨out, rfl, -⟩ := (moves_singleton_iff.mp hs).moves id reply rfl
      cases hreply
    · obtain ⟨s₁, hfirst, hsecond⟩ := moves_append_iff.mp hs
      obtain ⟨reply, rfl, -⟩ := Session.system_course hone
      have hyields := moves_singleton_iff.mp hfirst
      obtain ⟨out, rfl, hmoves⟩ := hyields.moves id reply rfl
      have hback : id ∉ s₁.moved := by
        rcases hyields.toReacts.of_moveBack with ⟨-, -, -, -, rfl⟩ | ⟨hfails, rfl⟩
        · exact fun hmem => (Images.mem_moved_back.mp hmem).1 rfl
        · exact fun hmem => Bool.false_ne_true ((hfails out rfl).symm.trans (hmoves hmem))
      obtain ⟨hok, hothers⟩ := ih hrest hsecond
      have hbacks := restoreEach_backs hrest (hsecond.mono Yields.toReacts)
      exact ⟨hok, List.forall_mem_cons.mpr
        ⟨fun hmem => hback (hbacks.mem_moved_iff.mp hmem).1, hothers⟩⟩

/-- **Images that are moved aside come back**, wherever the first half was stopped: if
there were none aside before and moves back succeed, all are in their place in the end, and
there is no directory for others. In between none of the named images is in its place,
unless something stopped the first half. -/
theorem images_restored {s₁ s₂ : Images} {log₁ log₂ : Log} {r₁ r₂ : Except Failure Unit}
    (hnone : s.moved = ∅) (hdisable : Course (ExceptT.run (disablePreloaded ids)) log₁ r₁)
    (hs₁ : Moves Reacts s log₁ s₁)
    (hrestore : Course (ExceptT.run (restorePreloaded ids)) log₂ r₂)
    (hs₂ : Moves Yields s₁ log₂ s₂) :
    (r₁ = .ok () → ∀ id ∈ ids, id ∉ s₁.inPlace) ∧
      r₂ = .ok () ∧ s₂.inPlace = s.inPlace ∧ s₂.aside = none := by
  have haways := disablePreloaded_aways hdisable hs₁
  refine ⟨haways.gone, ?_⟩
  obtain ⟨e, rfl, heach⟩ | ⟨each, _, last, rfl, heach, hlast⟩ := course_try_iff.mp hrestore
  · cases (restoreEach_yields heach hs₂).1
  obtain ⟨s₃, hfirst, hsecond⟩ := moves_append_iff.mp hs₂
  obtain ⟨reply, rfl, rfl⟩ := Session.system_course hlast
  have hyields := moves_singleton_iff.mp hsecond
  obtain ⟨out, rfl⟩ := hyields.removes reply rfl
  obtain rfl := hyields.removed out rfl
  have hbacks := restoreEach_backs heach (hfirst.mono Yields.toReacts)
  have hempty : ∀ i, i ∉ s₃.moved := by
    intro i hi
    rcases haways.named i (hbacks.mem_moved_iff.mp hi).1 with hbefore | hnamed
    · simp [hnone] at hbefore
    · exact (restoreEach_yields heach hfirst).2 i hnamed hi
  have hall : ∀ i, i ∈ s₃.inPlace ↔ i ∈ s.inPlace := by
    intro i
    calc i ∈ s₃.inPlace ↔ i ∈ s₃.all := by rw [Images.mem_all, or_iff_left (hempty i)]
      _ ↔ i ∈ s.all := by rw [hbacks.all_eq, haways.all_eq]
      _ ↔ i ∈ s.inPlace := by simp [Images.mem_all, hnone]
  exact ⟨rfl, Finset.ext hall, rfl⟩

/-- A list that names an image twice and one that is not there, stopped at its last move. -/
theorem images_restored_behind_refusal :
    let w : Shelf := ⟨⟨{"a", "base", "sample-dlc"}, none, by simp⟩,
      [false, false, false, false, false, false, true]⟩
    let ids := ["sample-dlc", "ghost", "sample-dlc", "a"]
    let between : Images := ⟨{"a", "base"}, some {"sample-dlc"}, by simp⟩
    ∃ log₁ log₂ s₂,
      Course (ExceptT.run (disablePreloaded ids)) log₁ (.error Shelf.refusal.failure) ∧
      Moves Reacts w.images log₁ between ∧
      Course (ExceptT.run (restorePreloaded ids)) log₂ (.ok ()) ∧ Moves Yields between log₂ s₂ ∧
      s₂.inPlace = {"a", "base", "sample-dlc"} ∧ s₂.aside = none := by
  intro w ids between
  let disable : Talk (Except Failure Unit) := ExceptT.run (disablePreloaded ids)
  let restore : Talk (Except Failure Unit) := ExceptT.run (restorePreloaded ids)
  have hresult : (disable.run Shelf.answer w).1 = .error Shelf.refusal.failure := by
    decide +kernel
  have hbetween : (disable.run Shelf.answer w).2.images = between := by decide +kernel
  have hdisable : Course disable _ (.error Shelf.refusal.failure) :=
    hresult ▸ course_run Shelf.answer disable w
  have haside : Moves Reacts w.images _ between := hbetween ▸ Shelf.moves_reacts disable w
  have hrestore := course_run Shelf.answer restore ⟨between, []⟩
  have hback := Shelf.moves_yields restore (w := ⟨between, []⟩) rfl
  obtain ⟨-, hok, hplace⟩ := images_restored rfl hdisable haside hrestore hback
  exact ⟨_, _, _, hdisable, haside, hok ▸ hrestore, hback, hplace⟩

end
end DeviceLab.Device.Dlc
