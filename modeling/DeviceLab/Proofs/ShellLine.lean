import DeviceLab.Command
import DeviceLab.Proofs.Text

/-! Commands as they are typed into a shell.

A line is read from left to right: separators end a word, what stands in single quotes is
taken as it is, and outside of them a backslash lets the quote behind it stand for itself
(`words`). Whatever the arguments of a command hold, they are the words of its line, so
commands with different arguments have different lines (`line_faithful`). -/
namespace DeviceLab.Command

/-! ### Reading a line -/

/-- Where the reader of a line stands, with what it has of the word it is in. -/
inductive Scan where
  | between
  | word (front : List Char)
  | quote (front : List Char)

def Scan.front : Scan → List Char
  | .between => []
  | .word front | .quote front => front

section
variable (separates : Char → Bool)

/-- The words from there on; there are none if a quote is left open. -/
def scan : Scan → List Char → Option (List String)
  | .quote _, [] => none
  | .quote front, c :: cs =>
    if c = '\'' then scan (.word front) cs else scan (.quote (front ++ [c])) cs
  | .between, [] => some []
  | .word front, [] => some [String.ofList front]
  | s, '\\' :: '\'' :: cs => scan (.word (s.front ++ ['\''])) cs
  | s, '\'' :: cs => scan (.quote s.front) cs
  | .between, c :: cs => if separates c then scan .between cs else scan (.word [c]) cs
  | .word front, c :: cs =>
    if separates c then (scan .between cs).map (String.ofList front :: ·)
    else scan (.word (front ++ [c])) cs

/-- The words of a line. -/
def words (line : String) : Option (List String) :=
  scan separates .between line.toList

variable {separates}

theorem scan_bare {c : Char} (hquote : c ≠ '\'') (hsep : separates c = false) {cs : List Char}
    (hescape : c = '\\' → cs.head? ≠ some '\'') (front : List Char) :
    scan separates (.word front) (c :: cs) = scan separates (.word (front ++ [c])) cs := by
  rw [scan]
  · simp [hsep]
  · rintro cs' rfl rfl
    exact hescape rfl rfl
  · exact hquote

/-- A word begins with a character that does not separate. -/
theorem scan_between {c : Char} (hsep : separates c = false) (cs : List Char) :
    scan separates .between (c :: cs) = scan separates (.word []) (c :: cs) := by
  by_cases hquote : c = '\''
  · subst hquote
    rfl
  · unfold scan
    split <;> simp_all [Scan.front]

end

/-! ### Arguments in a line -/

section
variable {separates : Char → Bool}

/-- A quoted argument ends where its quote does. -/
theorem scan_quoted (front arg rest : List Char) :
    scan separates (.quote front) (quoted arg ++ rest) =
      scan separates (.word (front ++ arg)) rest := by
  induction arg generalizing front with
  | nil => simp [quoted, scan]
  | cons c arg ih =>
    by_cases hc : c = '\''
    · subst hc
      simp [quoted, scan, Scan.front, ih]
    · simp [quoted, scan, hc, ih]

theorem isBlank_quote : Text.isBlank '\'' = false := by decide

variable (blank : ∀ c, separates c = true → Text.isBlank c = true)
include blank

theorem not_separates {c : Char} (h : Text.isBlank c = false) : separates c = false :=
  Bool.eq_false_iff.mpr fun hsep => Bool.eq_false_iff.mp h (blank c hsep)

theorem not_separates_of_not_awkward {c : Char} (h : awkward c = false) :
    separates c = false ∧ c ≠ '\'' := by
  simp only [awkward, Bool.or_eq_false_iff, beq_eq_false_iff_ne] at h
  exact ⟨not_separates blank h.1.1, h.2⟩

/-- An argument that needs no quotes is read as it stands. -/
theorem scan_plain {arg : List Char} (h : ∀ c ∈ arg, awkward c = false) {rest : List Char}
    (hrest : rest.head? ≠ some '\'') (front : List Char) :
    scan separates (.word front) (arg ++ rest) = scan separates (.word (front ++ arg)) rest := by
  induction arg generalizing front with
  | nil => simp
  | cons c arg ih =>
    obtain ⟨hc, harg⟩ := List.forall_mem_cons.mp h
    obtain ⟨hsep, hquote⟩ := not_separates_of_not_awkward blank hc
    -- No backslash is in front of a quote: there is none in the argument, nor right behind it.
    have hnext : (arg ++ rest).head? ≠ some '\'' := by
      cases arg with
      | nil => exact hrest
      | cons d arg =>
        exact fun heq => (not_separates_of_not_awkward blank (harg d List.mem_cons_self)).2
          (Option.some.inj heq)
    rw [List.cons_append, scan_bare hquote hsep (fun _ => hnext), ih harg]
    simp

/-- An argument is one word, whatever it holds. -/
theorem scan_shellArg (arg : String) (rest : List Char) (hrest : rest.head? ≠ some '\'') :
    scan separates .between ((shellArg arg).toList ++ rest) =
      scan separates (.word arg.toList) rest := by
  unfold shellArg
  split
  · rw [String.toList_ofList, List.cons_append,
      scan_between (not_separates blank isBlank_quote)]
    exact scan_quoted [] arg.toList rest
  · next hplain =>
    obtain ⟨hne, hnone⟩ : arg.toList ≠ [] ∧ ∀ c ∈ arg.toList, awkward c = false := by
      simpa [needsQuotes] using hplain
    obtain ⟨c, cs, hcs⟩ := List.exists_cons_of_ne_nil hne
    have hc := not_separates_of_not_awkward blank (hnone c (by simp [hcs]))
    have hword := scan_plain blank hnone hrest []
    rw [hcs, List.cons_append] at hword ⊢
    rw [scan_between hc.1, hword]
    rfl

/-- The words of a line are the arguments it was made of. -/
theorem words_shellLine (space : separates ' ' = true) (c : Command) :
    words separates c.shellLine = some c.argv := by
  rw [words, shellLine]
  induction c.argv with
  | nil => rfl
  | cons arg args ih =>
    cases args with
    | nil =>
      have hlast := scan_shellArg blank arg [] (by simp)
      rw [List.append_nil] at hlast
      rw [List.map_cons, List.map_nil, Text.join, hlast, scan, String.ofList_toList]
    | cons next more =>
      have hline : (Text.join " " ((arg :: next :: more).map shellArg)).toList =
          (shellArg arg).toList ++ ' ' :: (Text.join " " ((next :: more).map shellArg)).toList := by
        simp [Text.join, String.toList_append]
      rw [hline, scan_shellArg blank arg _ (by simp), scan]
      · rw [if_pos space, ih, Option.map_some, String.ofList_toList]
      all_goals simp

end

/-- **The arguments of a command can be read from its line.** They are its words, whatever
class of blank characters separates words, as long as a space does; so two commands with
the same line have the same arguments, each of them and in the same order. -/
theorem line_faithful {separates : Char → Bool} (space : separates ' ' = true)
    (blank : ∀ c, separates c = true → Text.isBlank c = true) (c : Command) :
    words separates c.shellLine = some c.argv ∧
      ∀ d : Command, c.shellLine = d.shellLine ↔ c.argv = d.argv := by
  have hwords := words_shellLine blank space
  refine ⟨hwords c, fun d => ⟨fun hline => ?_, fun hargv => by rw [shellLine, shellLine, hargv]⟩⟩
  exact Option.some.inj ((hwords c).symm.trans (hline ▸ hwords d))

/-- Arguments that look like marks of the line, next to each other. -/
theorem line_faithful_marks :
    let c := Command.of ["vpd", "", "\\", "'", "\\'", "a b\n", "''", "\"", "\\\\"]
    let tabs : Char → Bool := fun c => c == ' ' || c == '\t'
    c.shellLine = "vpd '' \\ ''\\''' '\\'\\''' 'a b\n' ''\\'''\\''' '\"' \\\\" ∧
      words tabs c.shellLine = some c.argv := by
  intro c tabs
  have blank : ∀ d, tabs d = true → Text.isBlank d = true := fun d hd => by
    simp only [tabs, Bool.or_eq_true, beq_iff_eq] at hd
    rcases hd with rfl | rfl <;> decide
  exact ⟨by decide, (line_faithful (by decide) blank c).1⟩

end DeviceLab.Command
