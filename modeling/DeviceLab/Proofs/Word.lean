import DeviceLab.Proofs.Utf8
import DeviceLab.Text.Blank
import DeviceLab.Unicode.Property

/-! Characters of words, and blank characters.

No character is both (`isWord_of_isBlank`). The tables of letters, marks and digits hold no
range that overlaps one of the few ranges of blank characters. -/
namespace DeviceLab.Unicode

/-! ### Ranges without common members -/

namespace Ranges

/-- No range of the one overlaps a range of the other. -/
def apart (rs others : Ranges) : Bool :=
  rs.all fun r => others.all fun o => Nat.blt r.2 o.1 || Nat.blt o.2 r.1

theorem holds_append (rs more : Ranges) (n : Nat) :
    Ranges.holds (rs ++ more) n = (rs.holds n || more.holds n) :=
  List.any_append

theorem apart_append (rs more others : Ranges) :
    Ranges.apart (rs ++ more) others = (rs.apart others && more.apart others) :=
  List.all_append

theorem not_holds_of_apart {rs others : Ranges} (h : rs.apart others = true) {n : Nat}
    (hn : others.holds n = true) : rs.holds n = false := by
  simp only [apart, List.all_eq_true, Bool.or_eq_true, Nat.blt_eq] at h
  simp only [holds, List.any_eq_true, Bool.and_eq_true, decide_eq_true_eq] at hn
  obtain ⟨o, ho, hlo, hhi⟩ := hn
  refine List.any_eq_false.mpr fun r hr => ?_
  have := h r hr o ho
  simp only [Bool.and_eq_true, decide_eq_true_eq]
  omega

/-- A table is read as the characters that it is written with. -/
theorem ofTable_ofList (cs : List Char) :
    ofTable (String.ofList cs) = scan ⟨none, none⟩ cs := by
  rw [ofTable, String.toList_ofList]

end Ranges

/-! ### Tables of letters, marks and digits -/

def blanks : Ranges :=
  [(9, 13), (0x20, 0x20), (0x85, 0x85), (0xA0, 0xA0), (0x1680, 0x1680), (0x2000, 0x200A),
    (0x2028, 0x2029), (0x202F, 0x202F), (0x205F, 0x205F), (0x3000, 0x3000)]

theorem blanks_holds {c : Char} (h : Text.isBlank c = true) : blanks.holds c.toNat = true := by
  simp only [Text.isBlank, Bool.or_eq_true, Bool.and_eq_true, decide_eq_true_eq, beq_iff_eq] at h
  simp only [blanks, Ranges.holds, List.any_cons, List.any_nil, Bool.or_eq_true, Bool.and_eq_true,
    decide_eq_true_eq, Bool.false_eq_true]
  omega

/-- The categories of the characters of words, but for a few of them. -/
def wordCategories : List Category :=
  [.uppercaseLetter, .lowercaseLetter, .titlecaseLetter, .modifierLetter, .otherLetter,
    .letterNumber, .nonspacingMark, .spacingMark, .enclosingMark, .decimalNumber,
    .connectorPunctuation]

theorem isWord_of_category {k : Category} (hk : k ∈ wordCategories) {c : Char}
    (hlarge : 128 ≤ c.toNat) (h : k.ranges.holds c.toNat = true) : isWord c = true := by
  rw [isWord, if_neg (Nat.not_lt.mpr hlarge)]
  simp only [wordCharacters, letters, marks, Ranges.holds_append, Bool.or_eq_true]
  simp only [wordCategories, List.mem_cons, List.not_mem_nil, or_false] at hk
  rcases hk with rfl | rfl | rfl | rfl | rfl | rfl | rfl | rfl | rfl | rfl | rfl <;>
    simp only [h, true_or, or_true]

/-- The tables of the categories are read once each, next to the few ranges of blanks. -/
theorem category_apart {k : Category} (hk : k ∈ wordCategories) :
    k.ranges.apart blanks = true := by
  simp only [wordCategories, List.mem_cons, List.not_mem_nil, or_false] at hk
  rcases hk with rfl | rfl | rfl | rfl | rfl | rfl | rfl | rfl | rfl | rfl | rfl
  all_goals
    unfold Category.ranges
    dsimp only [Category.table]
    rw [Ranges.ofTable_ofList]
    decide +kernel

theorem wordCharacters_apart : wordCharacters.apart blanks = true := by
  have hall : ∀ k ∈ wordCategories, k.ranges.apart blanks = true := fun _ => category_apart
  have henclosed : enclosedLetters.apart blanks = true := by decide +kernel
  simp only [wordCategories, List.forall_mem_cons] at hall
  simp only [wordCharacters, letters, marks, Ranges.apart_append, hall, henclosed, Bool.true_and]
  decide

/-- **Characters of words are not blank.** -/
theorem isWord_of_isBlank {c : Char} (h : Text.isBlank c = true) : isWord c = false := by
  unfold isWord
  split
  · next hascii =>
    have hall : ∀ n < 128, Text.isBlank (Char.ofNat n) = true →
        isAsciiWord (Char.ofNat n) = false := by
      decide +kernel
    exact Utf8.of_ascii (p := fun c => Text.isBlank c = true → isAsciiWord c = false) hall hascii h
  · exact Ranges.not_holds_of_apart wordCharacters_apart (blanks_holds h)

end DeviceLab.Unicode
