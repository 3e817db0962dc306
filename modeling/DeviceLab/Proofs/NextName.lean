import DeviceLab.Proofs.Placement
import Mathlib.Data.List.Nodup
import Mathlib.Data.List.Perm.Subperm

/-! The number of the next directory.

Numbers from the second on lead a base to places that are all different, and no more
of them can be taken than the tree has entries. So the search for a number that is
free ends (`exists_free`), and it ends with the least one (`nextNumber_least`). -/
namespace DeviceLab

namespace Job
variable {σ : Type}

/-! ### Names with a number -/

/-- What a number puts behind its base. -/
def dotted (n : Nat) : String := "." ++ toString n

theorem toList_dotted (n : Nat) : (dotted n).toList = '.' :: Nat.toDigits 10 n := by
  simp [dotted]

theorem dotted_ne_empty (n : Nat) : dotted n ≠ "" := by
  intro h
  have := congrArg String.toList h
  simp [toList_dotted] at this

theorem not_slash_dotted (n : Nat) : '/' ∉ (dotted n).toList := by
  simp [toList_dotted, Text.not_mem_toDigits (by decide : '/'.isDigit = false)]

theorem dotted_inj {m n : Nat} (h : dotted m = dotted n) : m = n := by
  have hlists := congrArg String.toList h
  rw [toList_dotted, toList_dotted] at hlists
  exact Text.toDigits_inj (List.cons.inj hlists).2

theorem numbered_eq (base : String) {n : Nat} (hn : 2 ≤ n) :
    numbered base n = base ++ dotted n := by
  have hother : (n == 1) = false := beq_eq_false_iff_ne.mpr (by omega)
  rw [numbered, hother, dotted, String.append_assoc]
  rfl

/-- A step with a number behind it has a digit, so it is a name. -/
theorem dotted_step (last : String) (n : Nat) :
    last ++ dotted n ≠ "." ∧ last ++ dotted n ≠ ".." := by
  obtain ⟨d, hd⟩ := List.exists_mem_of_ne_nil _ (Nat.toDigits_ne_nil (n := n) (b := 10))
  have hdigit : d.isDigit = true := Nat.isDigit_of_mem_toDigits (by decide) (by decide) hd
  have hmem : d ∈ (last ++ dotted n).toList := by
    simp [String.toList_append, toList_dotted, hd]
  have hone : ".".toList = ['.'] := by decide
  have htwo : "..".toList = ['.', '.'] := by decide
  have hdot : d ≠ '.' := by
    rintro rfl
    cases hdigit
  constructor <;> intro h <;> rw [h] at hmem
  · simp [hone, hdot] at hmem
  · simp [htwo, hdot] at hmem

/-- The numbers of a base lead into one directory, and to names of their own there. -/
theorem aim_numbered (place : Place) (base : String) :
    ∃ above last, ∀ n, 2 ≤ n → Path.aim place (numbered base n) = above ++ [last ++ dotted n] := by
  obtain ⟨front, last, hsteps⟩ := Path.steps_append base
  refine ⟨Place.along (if Path.isAbsolute base then [] else place) front, last, fun n hn => ?_⟩
  obtain ⟨hhere, hup⟩ := dotted_step last n
  rw [Path.aim, numbered_eq base hn, Path.isAbsolute_append base (not_slash_dotted n),
    hsteps _ (dotted_ne_empty n) (not_slash_dotted n), Place.along_append]
  simp [Place.along, hhere, hup]

/-! ### The search for a number -/

/-- A search that tries a number that is free ends with the least one. -/
theorem firstFree_least {taken : Nat → Bool} {n k tries : Nat} (hk : k < tries)
    (hfree : taken (n + k) = false) :
    n ≤ firstFree taken n tries ∧ taken (firstFree taken n tries) = false ∧
      ∀ m, n ≤ m → taken m = false → firstFree taken n tries ≤ m := by
  induction tries generalizing n k with
  | zero => exact absurd hk (Nat.not_lt_zero k)
  | succ tries ih =>
    rw [firstFree]
    cases hn : taken n with
    | false => exact ⟨Nat.le_refl n, hn, fun m hm _ => hm⟩
    | true =>
      have hpassed : ∀ m, taken m = false → m ≠ n := by
        rintro m hm rfl
        cases hn.symm.trans hm
      have hk0 := hpassed _ hfree
      have hnext : taken (n + 1 + (k - 1)) = false := by
        rwa [show n + 1 + (k - 1) = n + k by omega]
      obtain ⟨hle, hfound, hleast⟩ := ih (by omega) hnext
      refine ⟨Nat.le_of_succ_le hle, hfound, fun m hm hfree => ?_⟩
      have := hpassed m hfree
      exact hleast m (by omega) hfree

/-- Is there something already where the number leads the base? -/
def taken (job : Job σ) (h : Host) (base : String) (n : Nat) : Bool :=
  h.exists? (Path.join job.resultDir (numbered base n))

section
variable {job : Job σ} {h : Host} {base : String}

theorem entry_of_taken {n : Nat} (htaken : job.taken h base n = true) :
    ∃ e, h.tree.get? (Path.aim (Path.aim h.cwd job.resultDir) (numbered base n)) = some e := by
  rw [taken, Host.exists?, Tree.exists?_eq] at htaken
  obtain ⟨e, he⟩ := Option.isSome_iff_exists.mp htaken
  obtain ⟨p, hloc, hp⟩ := Tree.found?_eq_some_iff.mp he
  rw [Tree.aim_of_reach (Tree.reach_of_locate hloc), Path.aim_join] at hp
  exact ⟨e, hp⟩

/-- Of more numbers than there are entries, the first number left aside, one is free. -/
theorem exists_free {start : Nat} (hstart : 1 ≤ start) :
    ∃ k < h.tree.entries.length + 2, job.taken h base (start + k) = false := by
  by_contra hnone
  have htaken : ∀ n, start ≤ n → n < start + (h.tree.entries.length + 2) →
      job.taken h base n = true := by
    intro n hn hlt
    by_contra hfree
    refine hnone ⟨n - start, by omega, ?_⟩
    rw [Nat.add_sub_cancel' hn]
    exact Bool.eq_false_iff.mpr hfree
  obtain ⟨above, last, haim⟩ := aim_numbered (Path.aim h.cwd job.resultDir) base
  let numbers := List.range' (max start 2) (h.tree.entries.length + 1)
  let places := numbers.map fun n => above ++ [last ++ dotted n]
  have hdifferent : places.Nodup := by
    refine List.Nodup.map (fun m n heq => ?_) List.nodup_range'
    have hsteps : last ++ dotted m = last ++ dotted n :=
      List.singleton_inj.mp (List.append_cancel_left heq)
    exact dotted_inj ((String.append_right_inj _).mp hsteps)
  have hentries : places ⊆ h.tree.entries.map (·.1) := by
    intro p hp
    obtain ⟨n, hn, rfl⟩ := List.mem_map.mp hp
    rw [List.mem_range'_1] at hn
    obtain ⟨e, he⟩ := entry_of_taken (htaken n (by omega) (by omega))
    rw [haim n (by omega)] at he
    exact Tree.mem_entries_of_get? he (by simp)
  have hlength := (hdifferent.subperm hentries).length_le
  simp only [places, numbers, List.length_map, List.length_range'] at hlength
  omega

end

/-- **The search for a number ends with the least one** that is free and has not been used
up. It has not ended for want of tries: more of them would not change it. -/
theorem nextNumber_least (job : Job σ) (h : Host) (base : String) :
    job.usedUp base < job.nextNumber h base ∧
      job.taken h base (job.nextNumber h base) = false ∧
      (∀ m, job.usedUp base < m → job.taken h base m = false → job.nextNumber h base ≤ m) ∧
      ∀ tries, h.tree.entries.length + 2 ≤ tries →
        firstFree (job.taken h base) (job.usedUp base + 1) tries = job.nextNumber h base := by
  obtain ⟨k, hk, hfree⟩ : ∃ k < h.tree.entries.length + 2,
      job.taken h base (job.usedUp base + 1 + k) = false := exists_free (by omega)
  have hsearch : ∀ tries, h.tree.entries.length + 2 ≤ tries → _ := fun tries htries =>
    firstFree_least (Nat.lt_of_lt_of_le hk htries) hfree
  obtain ⟨habove, hfound, hleast⟩ := hsearch _ (Nat.le_refl _)
  refine ⟨habove, hfound, hleast, fun tries htries => ?_⟩
  obtain ⟨habove', hfound', hleast'⟩ := hsearch tries htries
  exact Nat.le_antisymm (hleast' _ habove hfound) (hleast _ habove' hfound')

end Job
end DeviceLab
