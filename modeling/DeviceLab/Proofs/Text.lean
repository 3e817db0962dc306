import DeviceLab.Decimal.Reading
import DeviceLab.Text.Blank
import DeviceLab.Text.Cut
import Mathlib.Data.List.DropRight

/-! Facts about cutting, joining, trimming and reading text. -/
namespace DeviceLab.Text

/-! ### Pieces between separators -/

theorem cutAll_ne_nil (p : Char → Bool) (cs : List Char) : cutAll p cs ≠ [] := by
  cases cs with
  | nil => simp [cutAll]
  | cons c cs =>
    simp only [cutAll]
    split
    · simp
    · split <;> simp

theorem cutAll_append_cons {p : Char → Bool} {sep : Char} (h : p sep = true) (cs ds : List Char) :
    cutAll p (cs ++ sep :: ds) = cutAll p cs ++ cutAll p ds := by
  induction cs with
  | nil => simp [cutAll, h]
  | cons c cs ih =>
    by_cases hc : p c = true
    · simp [cutAll, hc, ih]
    · simp only [List.cons_append, cutAll, hc, ih]
      cases hcut : cutAll p cs with
      | nil => exact absurd hcut (cutAll_ne_nil p cs)
      | cons piece pieces => rfl

/-- A text without separators is one piece. -/
theorem cutAll_of_none {p : Char → Bool} {cs : List Char} (h : ∀ c ∈ cs, p c = false) :
    cutAll p cs = [cs] := by
  induction cs with
  | nil => rfl
  | cons c cs ih =>
    have hc := h c (List.mem_cons_self ..)
    have := ih fun d hd => h d (List.mem_cons_of_mem c hd)
    simp [cutAll, hc, this]

/-- What holds no separator goes to the last piece. -/
theorem cutAll_append_of_none (p : Char → Bool) (cs : List Char) :
    ∃ front last, ∀ ds : List Char, (∀ c ∈ ds, p c = false) →
      cutAll p (cs ++ ds) = front ++ [last ++ ds] := by
  induction cs with
  | nil => exact ⟨[], [], fun ds h => cutAll_of_none h⟩
  | cons c cs ih =>
    obtain ⟨front, last, hcut⟩ := ih
    cases hc : p c with
    | true =>
      refine ⟨[] :: front, last, fun ds h => ?_⟩
      rw [List.cons_append, cutAll, if_pos hc, hcut ds h]
      rfl
    | false =>
      cases front with
      | nil =>
        refine ⟨[], c :: last, fun ds h => ?_⟩
        rw [List.cons_append, cutAll, if_neg (by simp [hc]), hcut ds h]
        rfl
      | cons piece pieces =>
        refine ⟨(c :: piece) :: pieces, last, fun ds h => ?_⟩
        rw [List.cons_append, cutAll, if_neg (by simp [hc]), hcut ds h]
        rfl

theorem length_cutAll (p : Char → Bool) (cs : List Char) :
    (cutAll p cs).length = cs.countP p + 1 := by
  induction cs with
  | nil => rfl
  | cons c cs ih =>
    cases hc : p c with
    | true => rw [cutAll, if_pos hc, List.length_cons, ih, List.countP_cons_of_pos hc]
    | false =>
      rw [List.countP_cons_of_neg (by simp [hc]), ← ih, cutAll, if_neg (by simp [hc])]
      cases hcut : cutAll p cs with
      | nil => exact absurd hcut (cutAll_ne_nil p cs)
      | cons piece pieces => rfl

theorem mem_of_mem_cutAll {p : Char → Bool} {cs piece : List Char} (h : piece ∈ cutAll p cs) :
    ∀ c ∈ piece, c ∈ cs := by
  induction cs generalizing piece with
  | nil =>
    obtain rfl := List.mem_singleton.mp h
    simp
  | cons c cs ih =>
    simp only [cutAll] at h
    split at h
    · rcases List.mem_cons.mp h with rfl | h
      · simp
      · exact fun d hd => List.mem_cons_of_mem _ (ih h d hd)
    · split at h
      · next hcut => exact absurd hcut (cutAll_ne_nil p cs)
      · next front pieces hcut =>
        have hcs (q : List Char) (hq : q ∈ front :: pieces) : ∀ d ∈ q, d ∈ cs := ih (hcut ▸ hq)
        rcases List.mem_cons.mp h with rfl | h
        · exact fun d hd => List.mem_cons.mpr ((List.mem_cons.mp hd).imp_right
            (hcs front List.mem_cons_self d))
        · exact fun d hd => List.mem_cons_of_mem _ (hcs piece (List.mem_cons_of_mem _ h) d hd)

theorem not_sep_of_mem_cutAll {p : Char → Bool} {cs piece : List Char} (h : piece ∈ cutAll p cs) :
    ∀ c ∈ piece, p c = false := by
  induction cs generalizing piece with
  | nil =>
    simp only [cutAll, List.mem_singleton] at h
    subst h
    simp
  | cons c cs ih =>
    simp only [cutAll] at h
    split at h
    · rcases List.mem_cons.mp h with rfl | h
      · simp
      · exact ih h
    · next hc =>
      split at h
      · next hcut => exact absurd hcut (cutAll_ne_nil p cs)
      · next front pieces hcut =>
        rcases List.mem_cons.mp h with rfl | h
        · intro d hd
          rcases List.mem_cons.mp hd with rfl | hd
          · simpa using hc
          · exact ih (hcut ▸ List.mem_cons_self ..) d hd
        · exact ih (hcut ▸ List.mem_cons_of_mem _ h)

/-! ### One separator -/

theorem cutOnce_eq_some_iff {sep : Char} {cs front back : List Char} :
    cutOnce sep cs = some (front, back) ↔ cs = front ++ sep :: back ∧ sep ∉ front := by
  induction cs generalizing front with
  | nil => simp [cutOnce]
  | cons c cs ih =>
    by_cases hc : c = sep
    · subst hc
      simp only [cutOnce, if_true, Option.some.injEq, Prod.mk.injEq]
      constructor
      · rintro ⟨rfl, rfl⟩
        simp
      · rintro ⟨h, hfront⟩
        cases front with
        | nil =>
          rw [List.nil_append, List.cons.injEq] at h
          exact ⟨rfl, h.2⟩
        | cons d front =>
          rw [List.cons_append, List.cons.injEq] at h
          exact absurd (h.1 ▸ List.mem_cons_self ..) hfront
    · simp only [cutOnce, if_neg hc, Option.map_eq_some_iff, Prod.exists, Prod.mk.injEq]
      constructor
      · rintro ⟨a, b, hcut, rfl, rfl⟩
        obtain ⟨rfl, ha⟩ := ih.mp hcut
        exact ⟨rfl, by simpa using ⟨Ne.symm hc, ha⟩⟩
      · rintro ⟨h, hfront⟩
        cases front with
        | nil =>
          rw [List.nil_append, List.cons.injEq] at h
          exact absurd h.1 hc
        | cons d front =>
          rw [List.cons_append, List.cons.injEq] at h
          obtain ⟨rfl, rfl⟩ := h
          exact ⟨front, back, ih.mpr ⟨rfl, fun hm => hfront (List.mem_cons_of_mem _ hm)⟩, rfl, rfl⟩

theorem cutOnce_eq_none_iff {sep : Char} {cs : List Char} :
    cutOnce sep cs = none ↔ sep ∉ cs := by
  induction cs with
  | nil => simp [cutOnce]
  | cons c cs ih =>
    by_cases hc : c = sep
    · simp [cutOnce, hc]
    · simp [cutOnce, hc, Ne.symm hc, ih]

/-- What is cut stays where it is if there is no separator behind it. -/
theorem cutOnce_append {sep : Char} {ds : List Char} (h : sep ∉ ds) (cs : List Char) :
    cutOnce sep (cs ++ ds) = (cutOnce sep cs).map fun (front, back) => (front, back ++ ds) := by
  induction cs with
  | nil =>
    cases hcut : cutOnce sep ds with
    | none => exact hcut
    | some cut =>
      obtain ⟨rfl, -⟩ := cutOnce_eq_some_iff.mp hcut
      exact absurd (List.mem_append_right _ List.mem_cons_self) h
  | cons c cs ih =>
    by_cases hc : c = sep
    · simp [cutOnce, hc]
    · simp [cutOnce, hc, ih, Function.comp_def]

theorem splitOnce_eq_some_iff {sep : Char} {s front back : String} :
    splitOnce sep s = some (front, back) ↔
      s.toList = front.toList ++ sep :: back.toList ∧ sep ∉ front.toList := by
  rw [← cutOnce_eq_some_iff]
  simp only [splitOnce, Option.map_eq_some_iff, Prod.exists, Prod.mk.injEq]
  constructor
  · rintro ⟨a, b, hcut, rfl, rfl⟩
    simpa using hcut
  · intro hcut
    exact ⟨_, _, hcut, by simp, by simp⟩

/-! ### Searches -/

theorem afterStart_eq_some_iff {lead cs rest : List Char} :
    afterStart lead cs = some rest ↔ cs = lead ++ rest := by
  induction lead generalizing cs with
  | nil => simp [afterStart]
  | cons l lead ih =>
    cases cs with
    | nil => simp [afterStart]
    | cons c cs =>
      by_cases hc : l = c
      · subst hc
        simpa [afterStart] using ih
      · simp [afterStart, hc, Ne.symm hc]

theorem isSome_afterStart_iff {lead cs : List Char} :
    (afterStart lead cs).isSome = true ↔ lead <+: cs := by
  rw [Option.isSome_iff_exists]
  exact exists_congr fun rest => afterStart_eq_some_iff.trans eq_comm

theorem isSome_afterFirst_iff {needle cs : List Char} :
    (afterFirst needle cs).isSome = true ↔ needle <:+: cs := by
  induction cs with
  | nil => rw [afterFirst, isSome_afterStart_iff, List.prefix_nil, List.infix_nil]
  | cons c cs ih =>
    rw [afterFirst, List.infix_cons_iff, ← isSome_afterStart_iff, ← ih]
    cases afterStart needle (c :: cs) <;> simp

/-- What follows the first occurrence: no other one begins in front of it. -/
theorem afterFirst_eq_some_iff {needle cs rest : List Char} :
    afterFirst needle cs = some rest ↔
      ∃ front, cs = front ++ needle ++ rest ∧
        ∀ earlier, earlier ++ needle <+: cs → front.length ≤ earlier.length := by
  induction cs with
  | nil =>
    rw [afterFirst, afterStart_eq_some_iff]
    constructor
    · exact fun h => ⟨[], h, fun _ _ => Nat.zero_le _⟩
    · rintro ⟨front, h, -⟩
      obtain ⟨rfl, rfl, rfl⟩ : front = [] ∧ needle = [] ∧ rest = [] := by simpa using h.symm
      rfl
  | cons c cs ih =>
    rw [afterFirst]
    cases hstart : afterStart needle (c :: cs) with
    | some tail =>
      have hcs := afterStart_eq_some_iff.mp hstart
      rw [Option.orElse_some, Option.some.injEq]
      constructor
      · rintro rfl
        exact ⟨[], hcs, fun _ _ => Nat.zero_le _⟩
      · rintro ⟨front, h, hfirst⟩
        obtain rfl : front = [] :=
          List.eq_nil_of_length_eq_zero (Nat.le_zero.mp (hfirst [] ⟨tail, hcs.symm⟩))
        exact List.append_cancel_left (hcs.symm.trans h)
    | none =>
      have hnot : ¬ needle <+: c :: cs := by
        rw [← isSome_afterStart_iff, hstart]
        exact Bool.false_ne_true
      rw [Option.orElse_none, ih]
      constructor
      · rintro ⟨front, rfl, hfirst⟩
        refine ⟨c :: front, rfl, fun earlier h => ?_⟩
        cases earlier with
        | nil => exact absurd h hnot
        | cons d earlier => exact Nat.succ_le_succ (hfirst earlier (List.cons_prefix_cons.mp h).2)
      · rintro ⟨front, h, hfirst⟩
        cases front with
        | nil => exact absurd ⟨rest, h.symm⟩ hnot
        | cons d front =>
          obtain ⟨rfl, rfl⟩ := List.cons.inj h
          exact ⟨front, rfl, fun earlier he =>
            Nat.le_of_succ_le_succ (hfirst (c :: earlier) (List.cons_prefix_cons.mpr ⟨rfl, he⟩))⟩

/-- More text at the end does not change where the first occurrence is. -/
theorem afterFirst_append {needle cs rest : List Char} (h : afterFirst needle cs = some rest)
    (ds : List Char) : afterFirst needle (cs ++ ds) = some (rest ++ ds) := by
  obtain ⟨front, rfl, hfirst⟩ := afterFirst_eq_some_iff.mp h
  refine afterFirst_eq_some_iff.mpr ⟨front, by simp, fun earlier he => ?_⟩
  by_contra hless
  have hshort : (earlier ++ needle).length ≤ (front ++ needle ++ rest).length := by
    simp only [List.length_append]
    omega
  exact hless (hfirst earlier (List.prefix_of_prefix_length_le he (List.prefix_append _ _) hshort))

/-- What follows an occurrence that was not there before is part of what was put at the end. -/
theorem suffix_of_afterFirst_append {needle cs ds rest : List Char}
    (hnone : afterFirst needle cs = none) (h : afterFirst needle (cs ++ ds) = some rest) :
    rest <:+ ds := by
  obtain ⟨front, hsplit, -⟩ := afterFirst_eq_some_iff.mp h
  have hrest : rest <:+ cs ++ ds := ⟨front ++ needle, hsplit.symm⟩
  refine (List.suffix_or_suffix_of_suffix hrest (List.suffix_append cs ds)).resolve_right ?_
  rintro ⟨middle, rfl⟩
  rw [← List.append_assoc] at hsplit
  have hcs : cs = front ++ needle ++ middle := List.append_cancel_right hsplit
  have hsome := isSome_afterFirst_iff.mpr (⟨front, middle, hcs.symm⟩ : needle <:+: cs)
  rw [hnone] at hsome
  cases hsome

theorem afterFirst_dropWhile {p : Char → Bool} {c : Char} (hc : p c = false)
    (needle cs : List Char) :
    afterFirst (c :: needle) (cs.dropWhile p) = afterFirst (c :: needle) cs := by
  induction cs with
  | nil => rfl
  | cons d cs ih =>
    cases hd : p d with
    | false => rw [List.dropWhile_cons_of_neg (by simp [hd])]
    | true =>
      have hne : c ≠ d := by
        rintro rfl
        cases hc.symm.trans hd
      rw [List.dropWhile_cons_of_pos hd, ih, afterFirst, afterStart, if_neg hne]
      rfl

theorem contains_iff {needle s : String} :
    contains needle s = true ↔ needle.toList <:+: s.toList :=
  isSome_afterFirst_iff

/-- What is dropped in front holds no part of a needle without such characters. -/
theorem infix_dropWhile_iff {p : Char → Bool} {needle cs : List Char}
    (h : ∀ c ∈ needle, p c = false) : needle <:+: cs.dropWhile p ↔ needle <:+: cs := by
  induction cs with
  | nil => rfl
  | cons c cs ih =>
    cases hc : p c with
    | false => rw [List.dropWhile_cons_of_neg (by simp [hc])]
    | true =>
      rw [List.dropWhile_cons_of_pos hc, ih, List.infix_cons_iff]
      refine ⟨.inr, fun hor => hor.elim (fun hprefix => ?_) id⟩
      cases needle with
      | nil => exact List.nil_infix
      | cons d needle =>
        obtain rfl : d = c := (List.cons_prefix_cons.mp hprefix).1
        cases hc.symm.trans (h d List.mem_cons_self)

/-- Trimming takes nothing from a search for a text without blanks. -/
theorem contains_trim {needle : String} (hblank : needle.toList.any isBlank = false)
    (s : String) : contains needle (trim s) = contains needle s := by
  have h : ∀ c ∈ needle.toList, isBlank c = false := by simpa using hblank
  rw [Bool.eq_iff_iff, contains_iff, contains_iff, trim, String.toList_ofList, dropBlankEnd,
    ← List.reverse_infix, List.reverse_reverse,
    infix_dropWhile_iff fun c hc => h c (List.mem_reverse.mp hc), List.reverse_infix, dropBlank,
    infix_dropWhile_iff h]

/-! ### Trimming -/

section
variable {cs ds : List Char}

theorem dropBlankEnd_eq_nil_iff : dropBlankEnd cs = [] ↔ ∀ c ∈ cs, isBlank c = true := by
  simp [dropBlankEnd, List.dropWhile_eq_nil_iff]

theorem dropBlankEnd_append_blank (h : ∀ c ∈ ds, isBlank c = true) :
    dropBlankEnd (cs ++ ds) = dropBlankEnd cs := by
  have hnone : ds.reverse.dropWhile isBlank = [] :=
    List.dropWhile_eq_nil_iff.mpr fun c hc => h c (List.mem_reverse.mp hc)
  rw [dropBlankEnd, List.reverse_append, List.dropWhile_append, hnone]
  rfl

theorem dropBlankEnd_append (h : dropBlankEnd ds ≠ []) :
    dropBlankEnd (cs ++ ds) = cs ++ dropBlankEnd ds := by
  have hsome : (ds.reverse.dropWhile isBlank).isEmpty = false := by
    simpa [dropBlankEnd] using h
  rw [dropBlankEnd, List.reverse_append, List.dropWhile_append, hsome]
  simp [dropBlankEnd]

/-- Only blank characters are taken from the end. -/
theorem dropBlankEnd_spec (cs : List Char) :
    ∃ blanks, cs = dropBlankEnd cs ++ blanks ∧ ∀ c ∈ blanks, isBlank c = true := by
  refine ⟨(cs.reverse.takeWhile isBlank).reverse, ?_, fun c hc => ?_⟩
  · rw [dropBlankEnd, ← List.reverse_append, List.takeWhile_append_dropWhile, List.reverse_reverse]
  · exact List.mem_takeWhile_imp (List.mem_reverse.mp hc)

/-- What is trimmed at both ends may be trimmed at its end before. -/
theorem trim_trimEnd (s : String) : trim (trimEnd s) = trim s := by
  obtain ⟨blanks, hs, hblanks⟩ := dropBlankEnd_spec s.toList
  unfold trim trimEnd
  rw [String.toList_ofList]
  congr 1
  conv_rhs => rw [hs]
  generalize dropBlankEnd s.toList = front
  unfold dropBlank
  rw [List.dropWhile_append]
  cases hfront : front.dropWhile isBlank with
  | nil =>
    have hnone : blanks.dropWhile isBlank = [] := List.dropWhile_eq_nil_iff.mpr hblanks
    rw [hnone]
    rfl
  | cons c rest =>
    rw [← hfront]
    simp only [hfront, List.isEmpty_cons, Bool.false_eq_true, if_false]
    exact (dropBlankEnd_append_blank hblanks).symm

theorem dropBlankEnd_dropBlankEnd (cs : List Char) :
    dropBlankEnd (dropBlankEnd cs) = dropBlankEnd cs :=
  List.rdropWhile_idempotent isBlank cs

/-- What is left at the end begins with no blank if there was none in front before. -/
theorem dropBlank_dropBlankEnd_dropBlank (cs : List Char) :
    dropBlank (dropBlankEnd (dropBlank cs)) = dropBlankEnd (dropBlank cs) := by
  obtain ⟨blanks, hfront, -⟩ := dropBlankEnd_spec (dropBlank cs)
  cases hleft : dropBlankEnd (dropBlank cs) with
  | nil => rfl
  | cons c rest =>
    rw [hleft, List.cons_append] at hfront
    have hc : isBlank ((dropBlank cs).head (by simp [hfront])) = false :=
      List.head_dropWhile_not isBlank _
    simp only [hfront, List.head_cons] at hc
    rw [dropBlank, List.dropWhile_cons_of_neg (by simp [hc])]

theorem trim_trim (s : String) : trim (trim s) = trim s := by
  rw [trim, trim, String.toList_ofList, dropBlank_dropBlankEnd_dropBlank,
    dropBlankEnd_dropBlankEnd]

theorem dropBlank_eq_self_iff : dropBlank cs = cs ↔ ∀ c ∈ cs.head?, isBlank c = false := by
  cases cs with
  | nil => simp [dropBlank]
  | cons c cs =>
    cases hc : isBlank c with
    | false => simp [dropBlank, hc]
    | true =>
      have hshort : dropBlank (c :: cs) ≠ c :: cs := fun h => by
        have hlength := congrArg List.length h
        rw [dropBlank, List.dropWhile_cons_of_pos hc, List.length_cons] at hlength
        have := List.length_dropWhile_le isBlank cs
        omega
      simp [hshort, hc]

theorem dropBlankEnd_eq_self_iff :
    dropBlankEnd cs = cs ↔ ∀ c ∈ cs.getLast?, isBlank c = false := by
  rw [← List.head?_reverse, ← dropBlank_eq_self_iff, dropBlankEnd, List.reverse_eq_iff]
  rfl

/-- Nothing is trimmed from a text just if it has no blank at either end. -/
theorem trim_eq_self_iff {s : String} :
    trim s = s ↔ (∀ c ∈ s.toList.head?, isBlank c = false) ∧
      ∀ c ∈ s.toList.getLast?, isBlank c = false := by
  rw [← dropBlank_eq_self_iff, ← dropBlankEnd_eq_self_iff, ← String.toList_inj, trim,
    String.toList_ofList]
  constructor
  · intro h
    have hfront := dropBlank_dropBlankEnd_dropBlank s.toList
    rw [h] at hfront
    rw [hfront] at h
    exact ⟨hfront, h⟩
  · rintro ⟨hfront, hback⟩
    rw [hfront, hback]

theorem trim_eq_empty_iff {s : String} : trim s = "" ↔ ∀ c ∈ s.toList, isBlank c = true := by
  rw [← String.toList_inj, trim, String.toList_ofList, String.toList_empty,
    dropBlankEnd_eq_nil_iff]
  constructor
  · intro h
    have hnone : dropBlank s.toList = [] := by
      by_contra hne
      have hhead : isBlank ((dropBlank s.toList).head hne) = false :=
        List.head_dropWhile_not isBlank hne
      cases hhead.symm.trans (h _ (List.head_mem hne))
    exact List.dropWhile_eq_nil_iff.mp hnone
  · exact fun h c hc => h c (List.dropWhile_subset _ hc)

theorem trim_append_front {blanks : String} (h : ∀ c ∈ blanks.toList, isBlank c = true)
    (s : String) : trim (blanks ++ s) = trim s := by
  rw [trim, trim, String.toList_append, dropBlank, List.dropWhile_append_of_pos h]
  rfl

theorem trim_append_back {blanks : String} (h : ∀ c ∈ blanks.toList, isBlank c = true)
    (s : String) : trim (s ++ blanks) = trim s := by
  rw [← trim_trimEnd, trimEnd, String.toList_append, dropBlankEnd_append_blank h]
  exact trim_trimEnd s

/-- Blank characters that end no line. -/
def Padding (s : String) : Prop :=
  ∀ c ∈ s.toList, isBlank c = true ∧ c ≠ '\n'

instance (s : String) : Decidable (Padding s) :=
  List.decidableBAll (fun c => isBlank c = true ∧ c ≠ '\n') s.toList

section
variable {pad : String}

theorem Padding.not_mem (h : Padding pad) {c : Char} (hc : isBlank c = false) : c ∉ pad.toList :=
  fun hmem => Bool.eq_false_iff.mp hc (h c hmem).1

theorem Padding.newline (h : Padding pad) : '\n' ∉ pad.toList :=
  fun hmem => (h _ hmem).2 rfl

end

theorem trim_padded {front back : String} (hfront : Padding front) (hback : Padding back)
    (s : String) : trim (front ++ s ++ back) = trim s := by
  rw [trim_append_back fun c hc => (hback c hc).1, trim_append_front fun c hc => (hfront c hc).1]

theorem trim_dropReturn (cs : List Char) :
    trim (String.ofList (dropReturn cs)) = trim (String.ofList cs) := by
  unfold dropReturn
  split
  · next h =>
    obtain ⟨front, rfl⟩ := List.getLast?_eq_some_iff.mp h
    rw [List.dropLast_concat, String.ofList_append, trim_append_back (by simp [isBlank])]
  · rfl

theorem count_dropBlank {c : Char} (h : isBlank c = false) (cs : List Char) :
    (dropBlank cs).count c = cs.count c := by
  conv_rhs => rw [← List.takeWhile_append_dropWhile (p := isBlank) (l := cs), List.count_append]
  have hnone : c ∉ cs.takeWhile isBlank := fun hc => by
    cases h.symm.trans (List.mem_takeWhile_imp hc)
  rw [List.count_eq_zero.mpr hnone, Nat.zero_add, dropBlank]

/-- Trimming takes no character that is not blank. -/
theorem count_trim {c : Char} (h : isBlank c = false) (s : String) :
    (trim s).toList.count c = s.toList.count c := by
  rw [trim, String.toList_ofList, dropBlankEnd, List.count_reverse]
  change (dropBlank (dropBlank s.toList).reverse).count c = _
  rw [count_dropBlank h, List.count_reverse, count_dropBlank h]

theorem mem_trim_iff {c : Char} (h : isBlank c = false) (s : String) :
    c ∈ (trim s).toList ↔ c ∈ s.toList := by
  rw [← List.count_pos_iff, count_trim h, List.count_pos_iff]

theorem mem_of_mem_trimBoth {p : Char → Bool} {s : String} {c : Char}
    (h : c ∈ (trimBoth p s).toList) : c ∈ s.toList := by
  rw [trimBoth, String.toList_ofList, List.mem_reverse] at h
  exact List.dropWhile_subset _ (List.mem_reverse.mp (List.dropWhile_subset _ h))

theorem mem_of_mem_trim {s : String} {c : Char} (h : c ∈ (trim s).toList) : c ∈ s.toList :=
  mem_of_mem_trimBoth h

theorem isBlank_of_isDigit {c : Char} (h : c.isDigit = true) : isBlank c = false := by
  obtain ⟨hlo, hhi⟩ : 48 ≤ c.toNat ∧ c.toNat ≤ 57 := by
    simp only [Char.isDigit, Bool.and_eq_true, decide_eq_true_eq] at h
    exact h
  simp only [isBlank]
  simp
  omega

/-- What stands between characters of `p` is left if it has none at its ends. -/
theorem trimBoth_eq {p : Char → Bool} {front back s : String}
    (hfront : ∀ c ∈ front.toList, p c = true) (hback : ∀ c ∈ back.toList, p c = true)
    (hhead : ∀ c ∈ s.toList.head?, p c = false) (hlast : ∀ c ∈ s.toList.getLast?, p c = false) :
    trimBoth p (front ++ s ++ back) = s := by
  have hkept {cs ds : List Char} (hne : cs ≠ []) (h : ∀ c ∈ cs.head?, p c = false) :
      (cs ++ ds).dropWhile p = cs ++ ds := by
    cases cs with
    | nil => exact absurd rfl hne
    | cons c cs => exact List.dropWhile_cons_of_neg (by simp [h c rfl])
  by_cases hs : s.toList = []
  · have hall : ∀ c ∈ front.toList ++ back.toList, p c = true := fun c hc =>
      (List.mem_append.mp hc).elim (hfront c) (hback c)
    have hnone := List.dropWhile_eq_nil_iff.mpr hall
    rw [trimBoth, String.toList_append, String.toList_append, hs, List.append_nil, hnone]
    exact (String.toList_eq_nil_iff.mp hs).symm
  · rw [trimBoth, String.toList_append, String.toList_append, List.append_assoc,
      List.dropWhile_append_of_pos hfront, hkept hs hhead, List.reverse_append,
      List.dropWhile_append_of_pos (by simpa using hback), ← List.append_nil s.toList.reverse,
      hkept (by simpa using hs) (by simpa using hlast)]
    simp

end

/-! ### Digits -/

theorem not_mem_toDigits {c : Char} (h : c.isDigit = false) (n : Nat) : c ∉ Nat.toDigits 10 n := by
  intro hc
  rw [Nat.isDigit_of_mem_toDigits (by decide) (by decide) hc] at h
  cases h

theorem toDigits_inj {m n : Nat} (h : Nat.toDigits 10 m = Nat.toDigits 10 n) : m = n :=
  calc
    m = Nat.ofDigitChars 10 (Nat.toDigits 10 m) 0 :=
      (Nat.ofDigitChars_toDigits (by decide) (by decide)).symm
    _ = Nat.ofDigitChars 10 (Nat.toDigits 10 n) 0 := by rw [h]
    _ = n := Nat.ofDigitChars_toDigits (by decide) (by decide)

/-! ### Lines -/

theorem mem_of_mem_dropReturn {line : List Char} {c : Char} (h : c ∈ dropReturn line) :
    c ∈ line := by
  unfold dropReturn at h
  split at h
  · exact List.dropLast_subset _ h
  · exact h

theorem not_newline_of_mem_linesOf {acc cs line : List Char} (hacc : '\n' ∉ acc)
    (h : line ∈ linesOf acc cs) : '\n' ∉ line := by
  induction cs generalizing acc with
  | nil =>
    unfold linesOf at h
    split at h
    · simp at h
    · obtain rfl := List.mem_singleton.mp h
      simpa using hacc
  | cons c cs ih =>
    unfold linesOf at h
    split at h
    · rcases List.mem_cons.mp h with rfl | h
      · exact fun hm => hacc (by simpa using mem_of_mem_dropReturn hm)
      · exact ih (by simp) h
    · next hc => exact ih (by simpa using ⟨Ne.symm hc, hacc⟩) h

/-- Lines hold no newline. -/
theorem not_newline_of_mem_lines {s line : String} (h : line ∈ lines s) : '\n' ∉ line.toList := by
  obtain ⟨cs, hcs, rfl⟩ := List.mem_map.mp h
  simpa using not_newline_of_mem_linesOf (by simp) hcs

theorem toList_join_empty (pieces : List String) :
    (join "" pieces).toList = pieces.flatMap String.toList := by
  induction pieces with
  | nil => rfl
  | cons piece rest ih =>
    cases rest with
    | nil => simp [join]
    | cons next more => simp [join, ih]

/-- The text of lines that each end with a newline. -/
def unlines (lines : List String) : String :=
  join "" (lines.map (· ++ "\n"))

theorem toList_unlines (ls : List String) :
    (unlines ls).toList = ls.flatMap fun line => line.toList ++ ['\n'] := by
  rw [unlines, toList_join_empty, List.flatMap_map]
  simp only [String.toList_append]
  rfl

theorem linesOf_append_newline {line : List Char} (h : '\n' ∉ line) (front rest : List Char) :
    linesOf front (line ++ '\n' :: rest) =
      dropReturn (front.reverse ++ line) :: linesOf [] rest := by
  induction line generalizing front with
  | nil => simp [linesOf]
  | cons c line ih =>
    obtain ⟨hc, hline⟩ := not_or.mp (List.mem_cons.not.mp h)
    rw [List.cons_append, linesOf, if_neg (Ne.symm hc), ih hline]
    simp

/-- Lines that were each ended are read again, without the carriage returns at their ends,
and in front of whatever follows. -/
theorem lines_unlines_append {ls : List String} (h : ∀ line ∈ ls, '\n' ∉ line.toList)
    (s : String) :
    lines (unlines ls ++ s) =
      ls.map (fun line => String.ofList (dropReturn line.toList)) ++ lines s := by
  rw [lines, String.toList_append, toList_unlines]
  induction ls with
  | nil => rfl
  | cons line ls ih =>
    obtain ⟨hline, hls⟩ := List.forall_mem_cons.mp h
    rw [List.flatMap_cons, List.append_assoc, List.append_assoc, List.singleton_append,
      linesOf_append_newline hline, List.map_cons, ih hls]
    rfl

theorem unlines_append (ls more : List String) :
    unlines (ls ++ more) = unlines ls ++ unlines more := by
  rw [← String.toList_inj, String.toList_append, toList_unlines, toList_unlines, toList_unlines,
    List.flatMap_append]

/-- The text consists of these lines; the last one need not be ended. -/
def HasLines (s : String) (ls : List String) : Prop :=
  s = unlines ls ∨ s ++ "\n" = unlines ls

/-- Newlines within the lines make more lines of them. -/
theorem length_lines_unlines (ls : List String) :
    (lines (unlines ls)).length = ls.length + (ls.flatMap String.toList).count '\n' := by
  have hline (front line rest : List Char) :
      (linesOf front (line ++ '\n' :: rest)).length =
        line.count '\n' + 1 + (linesOf [] rest).length := by
    induction line generalizing front with
    | nil => simp [linesOf, Nat.add_comm]
    | cons c line ih =>
      rw [List.cons_append, linesOf, List.count_cons]
      split
      · next hc =>
        subst hc
        simp only [List.length_cons, ih, beq_self_eq_true, if_true]
        omega
      · next hc => simp [ih, hc]
  rw [lines, List.length_map, toList_unlines]
  induction ls with
  | nil => rfl
  | cons line ls ih =>
    rw [List.flatMap_cons, List.append_assoc, List.singleton_append, hline, ih, List.flatMap_cons,
      List.count_append, List.length_cons]
    omega

theorem not_mem_join {c : Char} {sep : String} (hsep : c ∉ sep.toList) {pieces : List String}
    (h : ∀ piece ∈ pieces, c ∉ piece.toList) : c ∉ (join sep pieces).toList := by
  induction pieces with
  | nil => simp [join]
  | cons piece rest ih =>
    have hfirst := h piece (List.mem_cons_self ..)
    have hrest := ih fun p hp => h p (List.mem_cons_of_mem _ hp)
    cases rest with
    | nil => simpa [join] using hfirst
    | cons next more => simp [join, String.toList_append, hfirst, hsep, hrest]

end DeviceLab.Text

namespace DeviceLab.Reading

/-! ### Reading digits -/

theorem digit?_of_isDigit {c : Char} (h : c.isDigit = true) :
    digit? c = some (c.toNat - '0'.toNat) := by
  obtain ⟨hlo, hhi⟩ : '0' ≤ c ∧ c ≤ '9' := by
    simp only [Char.isDigit, Bool.and_eq_true, decide_eq_true_eq] at h
    exact h
  simp [digit?, hlo, hhi]

/-- Digits are read as the number they are the digits of. -/
theorem digitsFrom?_of_isDigit {cs : List Char} (h : ∀ c ∈ cs, c.isDigit = true) (n : Nat) :
    digitsFrom? n cs = some (Nat.ofDigitChars 10 cs n) := by
  induction cs generalizing n with
  | nil => simp [digitsFrom?]
  | cons c cs ih =>
    obtain ⟨hc, hcs⟩ := List.forall_mem_cons.mp h
    rw [digitsFrom?, digit?_of_isDigit hc, Option.bind_some, ih hcs, Nat.ofDigitChars_cons]

theorem digits?_of_isDigit {cs : List Char} (hne : cs ≠ []) (h : ∀ c ∈ cs, c.isDigit = true) :
    digits? cs = some (Nat.ofDigitChars 10 cs 0) := by
  cases cs with
  | nil => exact absurd rfl hne
  | cons c cs => exact digitsFrom?_of_isDigit h 0

/-- What holds a character that is no digit is no number. -/
theorem digits?_of_mem {c : Char} (h : isDigit c = false) {cs : List Char} (hc : c ∈ cs) :
    digits? cs = none := by
  have hnone : digit? c = none := by simpa [isDigit] using h
  have hfrom {cs : List Char} (hc : c ∈ cs) (n : Nat) : digitsFrom? n cs = none := by
    induction cs generalizing n with
    | nil => cases hc
    | cons d cs ih =>
      rcases List.mem_cons.mp hc with rfl | hc
      · rw [digitsFrom?, hnone, Option.bind_none]
      · rw [digitsFrom?]
        cases digit? d with
        | none => rfl
        | some m => exact ih hc _
  cases cs with
  | nil => cases hc
  | cons d cs => exact hfrom hc 0

end DeviceLab.Reading
