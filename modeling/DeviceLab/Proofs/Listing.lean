import DeviceLab.Device.Vpd
import DeviceLab.Proofs.LineFormat

/-! What listings of vital product data say.

A pair is printed on a line, both parts in quotes. A key holds no quote, so there is one
way to cut its line, whatever the value holds. Blanks may stand around a pair, and lines
that are no pair anywhere between. The pairs are read out of the listing again, and what
is read out of any text can be printed and read again (`listing_decodes`). -/
namespace DeviceLab.Device.Vpd

/-! ### Pairs -/

/-- How a pair is printed. -/
def pairText (key value : String) : String :=
  "\"" ++ key ++ "\"=\"" ++ value ++ "\""

theorem toList_pairText (key value : String) :
    (pairText key value).toList =
      '"' :: (key.toList ++ '"' :: '=' :: '"' :: (value.toList ++ ['"'])) := by
  simp [pairText, String.toList_append]

theorem valueOf_eq_some_iff {cs value : List Char} :
    valueOf cs = some value ↔ cs = value ++ ['"'] := by
  unfold valueOf
  split
  · next hlast =>
    obtain ⟨front, rfl⟩ := List.getLast?_eq_some_iff.mp hlast
    simp
  · next hlast =>
    refine iff_of_false (fun h => nomatch h) ?_
    rintro rfl
    exact hlast List.getLast?_concat

/-- A line is a pair in one way at most. -/
theorem pairOf_eq_some_iff {line : List Char} {key value : String} :
    pairOf line = some (key, value) ↔
      line = (pairText key value).toList ∧ '"' ∉ key.toList := by
  simp only [pairOf, Option.bind_eq_bind, Option.bind_eq_some_iff, Text.afterStart_eq_some_iff,
    Prod.exists, Text.cutOnce_eq_some_iff, valueOf_eq_some_iff, Option.pure_def, Option.some.injEq,
    Prod.mk.injEq, toList_pairText]
  constructor
  · rintro ⟨_, rfl, front, _, ⟨rfl, hkey⟩, _, rfl, value, rfl, rfl, rfl⟩
    simpa using hkey
  · rintro ⟨rfl, hkey⟩
    exact ⟨_, rfl, key.toList, _, ⟨rfl, hkey⟩, _, rfl, value.toList, rfl, by simp, by simp⟩

/-- A key without quotes, and a value, that fit on one line. -/
structure Printable (key value : String) : Prop where
  quote : '"' ∉ key.toList
  key : '\n' ∉ key.toList
  value : '\n' ∉ value.toList

theorem Printable.not_newline {key value : String} (h : Printable key value) :
    '\n' ∉ (pairText key value).toList := by
  simp [toList_pairText, h.key, h.value]

theorem trim_pairText (key value : String) :
    Text.trim (pairText key value) = pairText key value := by
  have hend : (pairText key value).toList =
      ('"' :: (key.toList ++ '"' :: '=' :: '"' :: value.toList)) ++ ['"'] := by
    simp [toList_pairText]
  rw [Text.trim_eq_self_iff]
  constructor
  · rw [toList_pairText]
    rintro c ⟨⟩
    decide
  · rw [hend, List.getLast?_concat]
    rintro c ⟨⟩
    decide

/-! ### Lines -/

/-- The pair on a line, blanks around it or not. -/
def pairOn (line : String) : Option (String × String) :=
  pairOf (Text.trim line).toList

inductive Line where
  | pair (front key value back : String)
  | other (text : String)

namespace Line

def text : Line → String
  | .pair front key value back => front ++ pairText key value ++ back
  | .other text => text

def entry? : Line → Option (String × String)
  | .pair _ key value _ => some (key, value)
  | .other _ => none

/-- What stands on other lines is no pair, blanks around it or not. -/
def Fits : Line → Prop
  | .pair front key value back =>
    Text.Padding front ∧ Text.Padding back ∧ Printable key value
  | .other text =>
    '\n' ∉ text.toList ∧
      ∀ key value, Text.trim text = pairText key value → '"' ∈ key.toList

end Line

theorem pairOn_pairText {front back : String} (hfront : Text.Padding front)
    (hback : Text.Padding back) {key : String} (hkey : '"' ∉ key.toList) (value : String) :
    pairOn (front ++ pairText key value ++ back) = some (key, value) := by
  rw [pairOn, Text.trim_padded hfront hback, trim_pairText, pairOf_eq_some_iff]
  exact ⟨rfl, hkey⟩

theorem pairOn_eq_none_iff {line : String} :
    pairOn line = none ↔
      ∀ key value, Text.trim line = pairText key value → '"' ∈ key.toList := by
  simp only [Option.eq_none_iff_forall_ne_some, Prod.forall, pairOn, Ne, pairOf_eq_some_iff,
    String.toList_inj, not_and, not_not]

instance : DecidablePred Line.Fits
  | .pair front key value back =>
    decidable_of_iff (Text.Padding front ∧ Text.Padding back ∧
        '"' ∉ key.toList ∧ '\n' ∉ key.toList ∧ '\n' ∉ value.toList)
      ⟨fun h => ⟨h.1, h.2.1, h.2.2.1, h.2.2.2.1, h.2.2.2.2⟩,
        fun h => ⟨h.1, h.2.1, h.2.2.quote, h.2.2.key, h.2.2.value⟩⟩
  | .other text =>
    decidable_of_iff ('\n' ∉ text.toList ∧ pairOn text = none)
      (and_congr_right' pairOn_eq_none_iff)

theorem pairOn_line {line : Line} (h : line.Fits) : pairOn line.text = line.entry? := by
  cases line with
  | pair front key value back => exact pairOn_pairText h.1 h.2.1 h.2.2.quote value
  | other text => exact pairOn_eq_none_iff.mpr h.2

theorem not_newline_line {line : Line} (h : line.Fits) : '\n' ∉ line.text.toList := by
  cases line with
  | pair front key value back =>
    simp [Line.text, String.toList_append, h.1.newline, h.2.1.newline, h.2.2.not_newline]
  | other text => exact h.1

/-! ### Listings -/

def format : LineFormat Line String where
  text := Line.text
  entry? := Line.entry?
  Fits := Line.Fits
  read := pairOn
  read_text := pairOn_line
  not_newline := not_newline_line
  read_empty := rfl
  read_dropReturn := fun cs => by rw [pairOn, pairOn, Text.trim_dropReturn]

theorem listingOf_eq (out : String) : listingOf out = format.table out := by
  have hread : pairOn = fun line =>
      pairOf (Text.dropBlankEnd (Text.dropBlank line.toList)) :=
    funext fun line => by rw [pairOn, Text.trim, String.toList_ofList]
  rw [listingOf, ← hread]
  rfl

/-- What is read out of a text can be printed. -/
theorem printable_of_listingOf {out key value : String}
    (h : (listingOf out).get? key = some value) : Printable key value := by
  rw [listingOf_eq] at h
  obtain ⟨line, hline, hpair⟩ := format.read_of_table h
  obtain ⟨htext, hquote⟩ := pairOf_eq_some_iff.mp hpair
  have hnewline : '\n' ∉ (pairText key value).toList := by
    rw [← htext]
    exact fun hmem => Text.not_newline_of_mem_lines hline (Text.mem_of_mem_trim hmem)
  simp only [toList_pairText, List.mem_cons, List.mem_append, not_or] at hnewline
  exact ⟨hquote, hnewline.2.1, hnewline.2.2.2.2.2.1⟩

/-- The line of a pair, without blanks around it. -/
def Line.plain (pair : String × String) : Line :=
  .pair "" pair.1 pair.2 ""

theorem Line.text_plain (pair : String × String) :
    (Line.plain pair).text = pairText pair.1 pair.2 := by
  simp [Line.plain, Line.text]

theorem Line.fits_plain {pair : String × String} (h : Printable pair.1 pair.2) :
    (Line.plain pair).Fits :=
  ⟨by decide, by decide, h⟩

/-- The listing of pairs alone. -/
def printed (pairs : Dict String) : String :=
  Text.unlines (pairs.entries.map fun pair => pairText pair.1 pair.2)

theorem listingOf_printed {pairs : Dict String}
    (h : ∀ key value, pairs.get? key = some value → Printable key value) :
    listingOf (printed pairs) = pairs := by
  simp only [listingOf_eq, printed, ← Line.text_plain]
  exact format.table_printed Line.plain (fun _ => rfl) fun pair hpair =>
    Line.fits_plain (h _ _ ((Dict.mem_entries_iff pairs pair.1 pair.2).mp hpair))

/-- **A listing decodes to the pairs it was printed from.** They may stand in any order,
with any number of lines that are no pair between them, and the last line ended or not; a
value may look like the marks around it. Under a key that is printed more than once stands
the value of the last of its lines. What is read out of any text is read again when it is
printed. -/
theorem listing_decodes (out : String) :
    (∀ lines : List Line, (∀ line ∈ lines, line.Fits) →
      Text.HasLines out (lines.map Line.text) →
      (∀ pairs : Dict String, (lines.filterMap Line.entry?).Perm pairs.entries →
        listingOf out = pairs) ∧
      ∀ key value, (listingOf out).get? key = some value ↔
        ∃ front back, lines.filterMap Line.entry? = front ++ (key, value) :: back ∧
          key ∉ back.map (·.1)) ∧
    listingOf (printed (listingOf out)) = listingOf out := by
  refine ⟨fun lines hlines hout => ?_, listingOf_printed fun _ _ => printable_of_listingOf⟩
  rw [listingOf_eq]
  exact format.table_decodes hlines hout

/-- Pairs that hold marks of their line, and lines that are almost pairs. -/
def marked : List Line :=
  [.pair "" "serial_number" "" "", .other "WARNING: \"a\"=\"b\"", .other "\"region\"=us",
    .pair "  " "mo=del#" " \"=\" #\r " "\t", .other "\"", .pair "" "" "\"" "\r"]

/-- They are read as they are; a serial number that is printed again, on a line that is not
ended, takes the place of the first one. -/
theorem listing_decodes_marked :
    let more := marked ++ [Line.pair "" "serial_number" "again" ""]
    let out := Text.unlines (marked.map Line.text) ++ "\"serial_number\"=\"again\""
    (∀ line ∈ more, line.Fits) ∧
      listingOf (Text.unlines (marked.map Line.text)) =
        Dict.ofList [("", "\""), ("mo=del#", " \"=\" #\r "), ("serial_number", "")] ∧
      Text.HasLines out (more.map Line.text) ∧
      (listingOf out).get? "serial_number" = some "again" := by
  intro more out
  have hfits : ∀ line ∈ more, line.Fits := by decide
  have hout : Text.HasLines out (more.map Line.text) := .inr (by decide)
  refine ⟨hfits, ?_, hout, ?_⟩
  · exact ((listing_decodes _).1 marked (fun line hline => hfits line (by simp [more, hline]))
      (.inl rfl)).1 _ (by decide)
  · exact (((listing_decodes out).1 more hfits hout).2 _ _).mpr
      ⟨marked.filterMap Line.entry?, [], by decide, by decide⟩

end DeviceLab.Device.Vpd
