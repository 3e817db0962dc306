import DeviceLab.Device.Tpm
import DeviceLab.Proofs.Dict
import DeviceLab.Proofs.Text

/-! What reports on dictionary attacks say.

A report is printed as a header, a line for each attribute and a closing brace. Lines on
which no attribute stands may come between: those without a colon, and those with more
than one. Every attribute is read out of the report again, as a flag, a count or a text,
whatever it looks like (`report_decodes`). -/
namespace DeviceLab.Device.Tpm

/-! ### How reports are printed -/

/-- How a value is written on its line. -/
inductive Spelling where
  | flag (b : Bool)
  /-- The number may stand there a second time, as a remark with other digits. -/
  | count (n : Nat) (hex : Option String)
  | quoted (s : String)
  /-- The digits of a number that is too large to be a count. -/
  | digits (s : String)

namespace Spelling

def value : Spelling → Attribute
  | .flag b => .flag b
  | .count n _ => .count n
  | .quoted s | .digits s => .text s

def text : Spelling → String
  | .flag b => if b then "true" else "false"
  | .count n none => toString n
  | .count n (some hex) => toString n ++ " (0x" ++ hex ++ ")"
  | .quoted s => "\"" ++ s ++ "\""
  | .digits s => s

end Spelling

inductive Line where
  | entry (indent : Nat) (key : String) (spelling : Spelling)
  | other (text : String)

namespace Line

def text : Line → String
  | .entry indent key spelling =>
    String.ofList (List.replicate indent ' ') ++ (key ++ ": " ++ spelling.text)
  | .other text => text

def entry? : Line → Option (String × Attribute)
  | .entry _ key spelling => some (key, spelling.value)
  | .other _ => none

end Line

def printed (header : String) (lines : List Line) : String :=
  Text.unlines (header :: lines.map Line.text) ++ "\x7d"

/-! ### What may stand on a line -/

/-- The text stays on one side of the colon of its line. -/
structure Inline (s : String) : Prop where
  colon : ':' ∉ s.toList
  newline : '\n' ∉ s.toList

structure IsKey (key : String) : Prop extends Inline key where
  trimmed : Text.trim key = key

/-- What is taken away around a text. -/
def padding (c : Char) : Bool := c == ' ' || c == '"'

structure Quotable (s : String) : Prop extends Inline s where
  front : ∀ c ∈ s.toList.head?, padding c = false
  back : ∀ c ∈ s.toList.getLast?, padding c = false

def Spelling.Fits : Spelling → Prop
  | .flag _ => True
  | .count n hex => n ≤ Reading.maxWord64 ∧ ∀ digits ∈ hex, Inline digits
  | .quoted s => Quotable s
  | .digits s => s.toList ≠ [] ∧ (∀ c ∈ s.toList, c.isDigit = true) ∧
      Reading.maxWord64 < Nat.ofDigitChars 10 s.toList 0

def Line.Fits : Line → Prop
  | .entry _ key spelling => IsKey key ∧ spelling.Fits
  | .other text => '\n' ∉ text.toList ∧ text.toList.count ':' ≠ 1

section
variable (s : String)

instance : Decidable (Inline s) :=
  decidable_of_iff (':' ∉ s.toList ∧ '\n' ∉ s.toList) ⟨fun h => ⟨h.1, h.2⟩, fun h => ⟨h.1, h.2⟩⟩

instance : Decidable (IsKey s) :=
  decidable_of_iff (Inline s ∧ Text.trim s = s) ⟨fun h => ⟨h.1, h.2⟩, fun h => ⟨h.1, h.2⟩⟩

instance : Decidable (Quotable s) :=
  decidable_of_iff
    (Inline s ∧ s.toList.head?.all (!padding ·) = true ∧ s.toList.getLast?.all (!padding ·) = true)
    (by
      simp only [Option.all_eq_true, Bool.not_eq_true']
      exact ⟨fun h => ⟨h.1, h.2.1, h.2.2⟩, fun h => ⟨h.1, h.2, h.3⟩⟩)

instance : DecidablePred Spelling.Fits
  | .flag _ => inferInstanceAs (Decidable True)
  | .count _ _ => inferInstanceAs (Decidable (_ ∧ ∀ _ ∈ _, _))
  | .quoted s => inferInstanceAs (Decidable (Quotable s))
  | .digits s =>
    decidable_of_iff (s.toList ≠ [] ∧ s.toList.all Char.isDigit = true ∧
      Reading.maxWord64 < Nat.ofDigitChars 10 s.toList 0) (by rw [List.all_eq_true, Spelling.Fits])

instance : DecidablePred Line.Fits
  | .entry _ _ _ => inferInstanceAs (Decidable (_ ∧ _))
  | .other _ => inferInstanceAs (Decidable (_ ∧ _))

end

/-! ### Values -/

section
variable {raw number : String} {c : Char}

/-- The number in front of a remark, if there is one. -/
def numberOf (raw : String) : List Char :=
  Text.dropBlankEnd (Text.dropBlank (raw.toList.takeWhile (· != '(')))

/-- A text that has a character of neither of the words is no flag. -/
theorem attributeOf_of_mem (hmem : c ∈ raw.toList) (hblank : Text.isBlank c = false)
    (hno : c ∉ "false".toList ∧ c ∉ "true".toList) :
    attributeOf raw =
      match (Reading.digits? (numberOf raw)).filter (· ≤ Reading.maxWord64) with
      | some n => .count n
      | none => .text (Text.trimBoth padding raw) := by
  have hword := (Text.mem_trim_iff hblank raw).mpr hmem
  have hfalse : Text.trim raw ≠ "false" := fun h => hno.1 (h ▸ hword)
  have htrue : Text.trim raw ≠ "true" := fun h => hno.2 (h ▸ hword)
  rw [attributeOf]
  simp only [beq_eq_false_iff_ne.mpr hfalse, beq_eq_false_iff_ne.mpr htrue]
  rfl

/-- A remark in parentheses is no part of the number. -/
theorem numberOf_eq {digits remark : List Char} (hne : digits ≠ [])
    (hdigits : ∀ c ∈ digits, c.isDigit = true)
    (hremark : remark = [] ∨ ∃ rest, remark = ' ' :: '(' :: rest)
    (hraw : raw.toList = ' ' :: (digits ++ remark)) : numberOf raw = digits := by
  obtain ⟨blanks, htake, hblanks⟩ :
      ∃ blanks, remark.takeWhile (· != '(') = blanks ∧ ∀ c ∈ blanks, Text.isBlank c = true := by
    rcases hremark with rfl | ⟨rest, rfl⟩
    · exact ⟨[], rfl, by simp⟩
    · exact ⟨[' '], by simp, List.forall_mem_singleton.mpr (by decide)⟩
  have hparen : ∀ c ∈ ' ' :: digits, (c != '(') = true := by
    refine List.forall_mem_cons.mpr ⟨by decide, fun c hc => bne_iff_ne.mpr ?_⟩
    rintro rfl
    exact absurd (hdigits _ hc) (by decide)
  have hkept : ∀ c ∈ digits, Text.isBlank c = false := fun c hc =>
    Text.isBlank_of_isDigit (hdigits c hc)
  obtain ⟨c, rest, rfl⟩ := List.exists_cons_of_ne_nil hne
  rw [numberOf, hraw, ← List.cons_append, List.takeWhile_append_of_pos hparen, htake,
    List.cons_append, Text.dropBlank, List.dropWhile_cons_of_pos (by decide), List.cons_append,
    List.dropWhile_cons_of_neg (by simp [hkept c List.mem_cons_self]), ← List.cons_append,
    Text.dropBlankEnd_append_blank hblanks, Text.dropBlankEnd_eq_self_iff]
  exact fun d hd => hkept d (List.mem_of_getLast? hd)

theorem not_mem_words {c : Char} (h : c.isDigit = true) :
    c ∉ "false".toList ∧ c ∉ "true".toList := by
  constructor <;>
  · intro hc
    simp at hc
    rcases hc with rfl | rfl | rfl | rfl | rfl <;> cases h

end

/-- A run of digits, a remark behind it or not, is a count if the number fits. -/
theorem attributeOf_digits {raw : String} {digits remark : List Char} (hne : digits ≠ [])
    (hdigits : ∀ c ∈ digits, c.isDigit = true)
    (hremark : remark = [] ∨ ∃ rest, remark = ' ' :: '(' :: rest)
    (hraw : raw.toList = ' ' :: (digits ++ remark)) :
    attributeOf raw =
      if Nat.ofDigitChars 10 digits 0 ≤ Reading.maxWord64 then
        .count (Nat.ofDigitChars 10 digits 0)
      else .text (Text.trimBoth padding raw) := by
  obtain ⟨c, rest, rfl⟩ := List.exists_cons_of_ne_nil hne
  have hc := hdigits c List.mem_cons_self
  rw [attributeOf_of_mem (c := c) (by simp [hraw]) (Text.isBlank_of_isDigit hc) (not_mem_words hc),
    numberOf_eq hne hdigits hremark hraw, Reading.digits?_of_isDigit hne hdigits,
    Option.filter_some]
  simp only [decide_eq_true_eq]
  split <;> split <;> simp_all

theorem attributeOf_count {n : Nat} (h : n ≤ Reading.maxWord64) {raw : String} {remark : List Char}
    (hremark : remark = [] ∨ ∃ rest, remark = ' ' :: '(' :: rest)
    (hraw : raw.toList = ' ' :: (Nat.toDigits 10 n ++ remark)) : attributeOf raw = .count n := by
  have hvalue : Nat.ofDigitChars 10 (Nat.toDigits 10 n) 0 = n :=
    Nat.ofDigitChars_toDigits (by decide) (by decide)
  rw [attributeOf_digits Nat.toDigits_ne_nil
      (fun _ hc => Nat.isDigit_of_mem_toDigits (by decide) (by decide) hc) hremark hraw,
    hvalue, if_pos h]

/-- A value is read as what it was spelled from. -/
theorem attributeOf_spelling {spelling : Spelling} (h : spelling.Fits) :
    attributeOf (" " ++ spelling.text) = spelling.value := by
  cases spelling with
  | flag b => cases b <;> decide
  | count n hex =>
    cases hex with
    | none => exact attributeOf_count h.1 (.inl rfl) (by simp [Spelling.text])
    | some hex =>
      refine attributeOf_count h.1 (.inr ⟨"0x".toList ++ hex.toList ++ [')'], rfl⟩) ?_
      simp [Spelling.text, String.toList_append]
  | quoted s =>
    have hraw : " " ++ Spelling.text (.quoted s) = " \"" ++ s ++ "\"" := by
      simp [← String.toList_inj, Spelling.text, String.toList_append]
    have hquote : '"' ∈ numberOf (" \"" ++ s ++ "\"") := by
      have hmem := (Text.mem_trim_iff (c := '"') (by decide)
        (String.ofList ((" \"" ++ s ++ "\"").toList.takeWhile (· != '(')))).mpr
        (by simp [String.toList_append])
      simpa only [numberOf, Text.trim, String.toList_ofList] using hmem
    rw [hraw,
      attributeOf_of_mem (c := '"') (by simp [String.toList_append]) (by decide) (by decide),
      Reading.digits?_of_mem (by decide) hquote,
      Text.trimBoth_eq (by simp [padding]) (by simp [padding]) h.front h.back]
    rfl
  | digits s =>
    obtain ⟨hne, hdigits, hlarge⟩ := h
    have hpadding : ∀ c ∈ s.toList, padding c = false := by
      intro c hc
      have hdigit := hdigits c hc
      rw [padding, Bool.or_eq_false_iff, beq_eq_false_iff_ne, beq_eq_false_iff_ne]
      constructor <;>
      · rintro rfl
        cases hdigit
    rw [attributeOf_digits hne hdigits (.inl rfl) (by simp [Spelling.text, String.toList_append]),
      if_neg (Nat.not_le.mpr hlarge), Spelling.text, ← String.append_empty (s := " " ++ s),
      Text.trimBoth_eq (by simp [padding]) (by simp)
        (fun c hc => hpadding c (List.mem_of_head? hc))
        fun c hc => hpadding c (List.mem_of_getLast? hc)]
    rfl

/-! ### Lines -/

/-- Nothing is taken from the end of a value. -/
theorem last_spelling {spelling : Spelling} (h : spelling.Fits) :
    ∃ front c, spelling.text.toList = front ++ [c] ∧ Text.isBlank c = false := by
  have hdigits {digits : List Char} (hne : digits ≠ []) (h : ∀ c ∈ digits, c.isDigit = true) :
      ∃ front c, digits = front ++ [c] ∧ Text.isBlank c = false :=
    ⟨_, _, (List.dropLast_concat_getLast hne).symm,
      Text.isBlank_of_isDigit (h _ (List.getLast_mem hne))⟩
  cases spelling with
  | flag b =>
    cases b
    · exact ⟨"fals".toList, 'e', by decide, by decide⟩
    · exact ⟨"tru".toList, 'e', by decide, by decide⟩
  | count n hex =>
    cases hex with
    | none =>
      have htext : (Spelling.count n none).text.toList = Nat.toDigits 10 n := by
        simp [Spelling.text]
      rw [htext]
      exact hdigits Nat.toDigits_ne_nil fun _ hc =>
        Nat.isDigit_of_mem_toDigits (by decide) (by decide) hc
    | some hex =>
      exact ⟨_, ')', String.toList_append, by decide⟩
  | quoted s => exact ⟨_, '"', String.toList_append, by decide⟩
  | digits s => exact hdigits h.1 h.2.1

theorem inline_spelling {spelling : Spelling} (h : spelling.Fits) : Inline spelling.text := by
  have hdigits (digits : List Char) (h : ∀ c ∈ digits, c.isDigit = true) :
      ':' ∉ digits ∧ '\n' ∉ digits :=
    ⟨fun hc => absurd (h _ hc) (by decide), fun hc => absurd (h _ hc) (by decide)⟩
  have hnumber (n : Nat) := hdigits (Nat.toDigits 10 n)
    fun _ hc => Nat.isDigit_of_mem_toDigits (by decide) (by decide) hc
  cases spelling with
  | flag b => cases b <;> exact ⟨by decide, by decide⟩
  | count n hex =>
    cases hex with
    | none =>
      exact ⟨by simpa [Spelling.text] using (hnumber n).1,
        by simpa [Spelling.text] using (hnumber n).2⟩
    | some hex =>
      obtain ⟨hcolon, hnewline⟩ := h.2 hex rfl
      constructor <;> simp [Spelling.text, String.toList_append, hnumber, hcolon, hnewline]
  | quoted s =>
    constructor <;> simp [Spelling.text, String.toList_append, h.colon, h.newline]
  | digits s =>
    obtain ⟨hcolon, hnewline⟩ := hdigits s.toList h.2.1
    exact ⟨hcolon, hnewline⟩

/-- The attribute of a line is found on it. -/
theorem entryOf_entry {indent : Nat} {key : String} {spelling : Spelling} (hkey : IsKey key)
    (h : spelling.Fits) :
    entryOf (Line.entry indent key spelling).text = some (key, spelling.value) := by
  obtain ⟨front, c, hlast, hc⟩ := last_spelling h
  have hlist : (key ++ ": " ++ spelling.text).toList =
      key.toList ++ ':' :: (" " ++ spelling.text).toList := by
    simp [String.toList_append]
  have htrim : Text.trim (Line.entry indent key spelling).text = key ++ ": " ++ spelling.text := by
    have hblank : ∀ d ∈ (String.ofList (List.replicate indent ' ')).toList,
        Text.isBlank d = true := fun d hd => by
      rw [String.toList_ofList] at hd
      rw [List.eq_of_mem_replicate hd]
      decide
    rw [Line.text, Text.trim_append_front hblank, Text.trim_eq_self_iff, hlist]
    constructor
    · cases hchars : key.toList with
      | nil =>
        rintro d ⟨⟩
        decide
      | cons e rest =>
        have hfront := (Text.trim_eq_self_iff.mp hkey.trimmed).1
        rw [hchars] at hfront
        exact hfront
    · have hend : key.toList ++ ':' :: (" " ++ spelling.text).toList =
          (key.toList ++ ':' :: ' ' :: front) ++ [c] := by
        simp [String.toList_append, hlast]
      rw [hend, List.getLast?_concat]
      rintro d ⟨⟩
      exact hc
  have hcolon : ':' ∉ (" " ++ spelling.text).toList := by
    simpa [String.toList_append] using (inline_spelling h).colon
  have hpieces : Text.pieces ':' (key ++ ": " ++ spelling.text) = [key, " " ++ spelling.text] := by
    have hnone {s : String} (h : ':' ∉ s.toList) :
        Text.cutAll (· == ':') s.toList = [s.toList] :=
      Text.cutAll_of_none fun d hd => beq_eq_false_iff_ne.mpr fun heq => h (heq ▸ hd)
    rw [Text.pieces, hlist, Text.cutAll_append_cons (by decide), hnone hkey.colon, hnone hcolon]
    simp
  rw [entryOf, htrim, hpieces]
  simp only [hkey.trimmed, attributeOf_spelling h]

/-- A line without a colon, or with several, has no attribute. -/
theorem entryOf_other {line : String} (h : line.toList.count ':' ≠ 1) : entryOf line = none := by
  have hlength : (Text.pieces ':' (Text.trim line)).length = line.toList.count ':' + 1 := by
    rw [Text.pieces, List.length_map, Text.length_cutAll, ← Text.count_trim (by decide)]
    rfl
  unfold entryOf
  split
  · next heq =>
    rw [heq] at hlength
    exact absurd (Nat.succ.inj hlength).symm h
  · rfl

theorem entryOf_line {line : Line} (h : line.Fits) : entryOf line.text = line.entry? := by
  cases line with
  | entry indent key spelling => exact entryOf_entry h.1 h.2
  | other text => exact entryOf_other h.2

theorem not_newline_line {line : Line} (h : line.Fits) : '\n' ∉ line.text.toList := by
  cases line with
  | entry indent key spelling =>
    simp [Line.text, String.toList_append, h.1.newline, (inline_spelling h.2).newline]
  | other text => exact h.1

/-- A carriage return at the end of a line does not matter. -/
theorem entryOf_dropReturn (line : String) :
    entryOf (String.ofList (Text.dropReturn line.toList)) = entryOf line := by
  rw [entryOf, entryOf, Text.trim_dropReturn, String.ofList_toList]

/-! ### Newlines -/

theorem not_newline_shown {raw : String} (h : '\n' ∉ raw.toList) :
    '\n' ∉ (attributeOf raw).shown.toList := by
  unfold attributeOf
  dsimp only
  split
  · decide
  split
  · decide
  split
  · rw [Attribute.shown, Nat.toString_eq_repr, Nat.toList_repr]
    exact Text.not_mem_toDigits (by decide) _
  · exact fun hc => h (Text.mem_of_mem_trimBoth hc)

/-- What is read from a line holds no newline, as the line holds none. -/
theorem not_newline_entryOf {line key : String} {value : Attribute} (h : '\n' ∉ line.toList)
    (hentry : entryOf line = some (key, value)) :
    '\n' ∉ key.toList ∧ '\n' ∉ value.shown.toList := by
  have hpiece {piece : String} (hp : piece ∈ Text.pieces ':' (Text.trim line)) :
      '\n' ∉ piece.toList := by
    obtain ⟨cs, hcs, rfl⟩ := List.mem_map.mp hp
    rw [String.toList_ofList]
    exact fun hc => h (Text.mem_of_mem_trim (Text.mem_of_mem_cutAll hcs _ hc))
  unfold entryOf at hentry
  split at hentry
  · next name raw heq =>
    obtain ⟨rfl, rfl⟩ := Prod.mk.inj (Option.some.inj hentry)
    rw [heq] at hpiece
    exact ⟨fun hc => hpiece (List.mem_cons_self ..) (Text.mem_of_mem_trim hc),
      not_newline_shown (hpiece (List.mem_cons_of_mem _ (List.mem_cons_self ..)))⟩
  · cases hentry

theorem not_newline_reportOf {out key : String} {value : Attribute}
    (h : (key, value) ∈ (reportOf out).entries) :
    '\n' ∉ key.toList ∧ '\n' ∉ value.shown.toList := by
  rw [Dict.mem_entries_iff, reportOf, Dict.get?_ofList] at h
  obtain ⟨line, hline, hentry⟩ :=
    List.mem_filterMap.mp (List.mem_reverse.mp (Dict.mem_of_find h))
  exact not_newline_entryOf
    (Text.not_newline_of_mem_lines (List.mem_of_mem_tail (List.dropLast_subset _ hline))) hentry

/-! ### Reports -/

/-- The lines of a report are read one by one. -/
theorem reportOf_printed {header : String} {lines : List Line} (hheader : '\n' ∉ header.toList)
    (hlines : ∀ line ∈ lines, line.Fits) {ending : String} (hending : ending = "" ∨ ending = "\n") :
    reportOf (printed header lines ++ ending) = Dict.ofList (lines.filterMap Line.entry?) := by
  have hall : ∀ line ∈ header :: lines.map Line.text, '\n' ∉ line.toList := by
    refine List.forall_mem_cons.mpr ⟨hheader, fun line hline => ?_⟩
    obtain ⟨l, hl, rfl⟩ := List.mem_map.mp hline
    exact not_newline_line (hlines l hl)
  have hclosing : Text.lines ("\x7d" ++ ending) = ["\x7d"] := by
    rcases hending with rfl | rfl <;> decide
  have htext : Text.lines (printed header lines ++ ending) =
      String.ofList (Text.dropReturn header.toList) ::
        (lines.map fun line => String.ofList (Text.dropReturn line.text.toList)) ++ ["\x7d"] := by
    rw [printed, String.append_assoc, Text.lines_unlines_append hall, hclosing, List.map_cons,
      List.map_map]
    rfl
  have hread : ∀ line ∈ lines,
      (entryOf ∘ fun line : Line => String.ofList (Text.dropReturn line.text.toList)) line =
        line.entry? := fun line hline => by
    rw [Function.comp_apply, entryOf_dropReturn, entryOf_line (hlines line hline)]
  rw [reportOf, htext, List.cons_append, List.tail_cons, List.dropLast_concat, List.filterMap_map,
    List.filterMap_congr hread]

/-- The value can be spelled. -/
def Attribute.Fits : Attribute → Prop
  | .flag _ => True
  | .count n => n ≤ Reading.maxWord64
  | .text s => Quotable s

/-- How the tools of the module write a value. -/
def Attribute.spelling : Attribute → Spelling
  | .flag b => .flag b
  | .count n => .count n none
  | .text s => .quoted s

theorem Attribute.value_spelling (value : Attribute) : value.spelling.value = value := by
  cases value <;> rfl

theorem Attribute.fits_spelling {value : Attribute} (h : value.Fits) : value.spelling.Fits := by
  cases value with
  | flag b => trivial
  | count n => exact ⟨h, by simp⟩
  | text s => exact h

/-- **A report decodes to what it was printed from.** The lines of its attributes may stand
in any order, with any number of lines without an attribute between them, counts with a
remark behind them or without, and the last line ended or not; a number that is too large
for a count is the text of its digits. Every collection of attributes that fits on lines
can be printed so. -/
theorem report_decodes (attributes : Report) :
    (∀ (header : String) (lines : List Line) (ending : String), '\n' ∉ header.toList →
      (∀ line ∈ lines, line.Fits) → (ending = "" ∨ ending = "\n") →
      (lines.filterMap Line.entry?).Perm attributes.entries →
      reportOf (printed header lines ++ ending) = attributes) ∧
    ((∀ key value, attributes.get? key = some value → IsKey key ∧ value.Fits) →
      ∃ lines : List Line, (∀ line ∈ lines, line.Fits) ∧
        lines.filterMap Line.entry? = attributes.entries) := by
  refine ⟨fun header lines ending hheader hlines hending hperm => ?_, fun hfits => ?_⟩
  · rw [reportOf_printed hheader hlines hending, Dict.ofList_of_perm hperm]
  · refine ⟨attributes.entries.map fun p => .entry 2 p.1 p.2.spelling, ?_, ?_⟩
    · intro line hline
      obtain ⟨⟨key, value⟩, hp, rfl⟩ := List.mem_map.mp hline
      obtain ⟨hkey, hvalue⟩ := hfits key value ((Dict.mem_entries_iff attributes key value).mp hp)
      exact ⟨hkey, Attribute.fits_spelling hvalue⟩
    · have hentry : ∀ p ∈ attributes.entries,
          (Line.entry? ∘ fun p => .entry 2 p.1 p.2.spelling) p = some p := fun p _ => by
        rw [Function.comp_apply, Line.entry?, Attribute.value_spelling]
      rw [List.filterMap_map, List.filterMap_congr hentry, List.filterMap_some]

/-- Every kind of value, most of them like one of another kind, between lines without one. -/
def lookalikes : List Line :=
  [.entry 2 "word" (.quoted "true"), .entry 4 "count" (.count Reading.maxWord64 (some "ffff")),
    .other "  updated_at: 12:30:05", .entry 2 "in effect" (.flag true),
    .entry 2 "digits" (.quoted "12"), .other "\x7d", .entry 2 "nothing" (.quoted ""),
    .entry 0 "large" (.digits "18446744073709551616"), .entry 2 "remark" (.quoted "12 (0xc")]

theorem report_decodes_lookalikes :
    (∀ line ∈ lookalikes, line.Fits) ∧
      reportOf (printed "DA info" lookalikes ++ "\n") =
        Dict.ofList [("count", .count 18446744073709551615), ("digits", .text "12"),
          ("in effect", .flag true), ("large", .text "18446744073709551616"),
          ("nothing", .text ""), ("remark", .text "12 (0xc"), ("word", .text "true")] := by
  have hfits : ∀ line ∈ lookalikes, line.Fits := by decide
  exact ⟨hfits, (report_decodes _).1 _ _ _ (by decide) hfits (.inr rfl) (by decide)⟩

end DeviceLab.Device.Tpm
