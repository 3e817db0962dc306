import DeviceLab.Device.Vpd
import DeviceLab.Proofs.LineFormat

/-! What reports of system properties say.

A property is printed on a line, its name and its value with an equals sign between them,
blanks around each of the two, and a comment behind or none. A comment may hold any of
these marks, and a value more equals signs. Lines without a property may come between. The
properties are read out of the report again, and what is read out of any text can be
printed, in whatever layout, and read again (`properties_decode`). -/
namespace DeviceLab.Device.Crossystem

/-! ### What is read from a line -/

/-- What stands in front of the comment. -/
def lead (line : String) : List Char :=
  line.toList.takeWhile (· != '#')

/-- The property with these parts on the sides of its equals sign; its name must not be blank. -/
def propertyAt (sides : List Char × List Char) : Option (String × String) :=
  if Text.trim (String.ofList sides.1) = "" then none
  else some (Text.trim (String.ofList sides.1), Text.trim (String.ofList sides.2))

theorem propertyOf_eq (line : String) :
    propertyOf line = (Text.cutOnce '=' (lead line)).bind propertyAt := by
  refine congrArg (Option.bind _) (funext fun sides => ?_)
  simp [propertyAt, Text.trim]

theorem propertyOf_eq_some_iff {line name value : String} :
    propertyOf line = some (name, value) ↔
      ∃ front back, lead line = front ++ '=' :: back ∧ '=' ∉ front ∧
        Text.trim (String.ofList front) = name ∧ Text.trim (String.ofList back) = value ∧
        name ≠ "" := by
  simp only [propertyOf_eq, Option.bind_eq_some_iff, Prod.exists, Text.cutOnce_eq_some_iff,
    propertyAt]
  constructor
  · rintro ⟨front, back, ⟨hlead, hfront⟩, hproperty⟩
    split at hproperty
    · cases hproperty
    · next hne =>
      obtain ⟨rfl, rfl⟩ := Prod.mk.inj (Option.some.inj hproperty)
      exact ⟨front, back, hlead, hfront, rfl, rfl, hne⟩
  · rintro ⟨front, back, hlead, hfront, rfl, rfl, hne⟩
    exact ⟨front, back, ⟨hlead, hfront⟩, if_neg hne⟩

/-- No equals sign is in front of the comment, or no name in front of the sign. -/
def Idle (line : String) : Prop :=
  '=' ∉ lead line ∨
    ∃ blanks rest, lead line = blanks ++ '=' :: rest ∧ ∀ c ∈ blanks, Text.isBlank c = true

theorem propertyOf_eq_none_iff {line : String} : propertyOf line = none ↔ Idle line := by
  rw [propertyOf_eq]
  cases hcut : Text.cutOnce '=' (lead line) with
  | none => exact iff_of_true rfl (.inl (Text.cutOnce_eq_none_iff.mp hcut))
  | some sides =>
    obtain ⟨front, back⟩ := sides
    obtain ⟨hlead, hfront⟩ := Text.cutOnce_eq_some_iff.mp hcut
    have hblank : propertyAt (front, back) = none ↔ ∀ c ∈ front, Text.isBlank c = true := by
      rw [propertyAt, ite_eq_left_iff, ← String.toList_ofList (l := front),
        ← Text.trim_eq_empty_iff]
      simp
    rw [Option.bind_some, hblank]
    constructor
    · exact fun h => .inr ⟨front, back, hlead, h⟩
    · rintro (hnone | ⟨blanks, rest, hsplit, hall⟩)
      · exact absurd (hlead ▸ List.mem_append_right _ List.mem_cons_self) hnone
      · have hother : Text.cutOnce '=' (lead line) = some (blanks, rest) :=
          Text.cutOnce_eq_some_iff.mpr ⟨hsplit, fun hmem => by cases hall _ hmem⟩
        obtain ⟨rfl, -⟩ := Prod.mk.inj (Option.some.inj (hcut.symm.trans hother))
        exact hall

theorem propertyAt_append_return (front back : List Char) :
    propertyAt (front, back ++ ['\r']) = propertyAt (front, back) := by
  have hback : Text.trim (String.ofList (back ++ ['\r'])) = Text.trim (String.ofList back) := by
    rw [String.ofList_append, Text.trim_append_back (by simp [Text.isBlank])]
  rw [propertyAt, propertyAt, hback]

theorem lead_append_return (front : List Char) :
    lead (String.ofList (front ++ ['\r'])) = lead (String.ofList front) ∨
      lead (String.ofList (front ++ ['\r'])) = lead (String.ofList front) ++ ['\r'] := by
  simp only [lead, String.toList_ofList, List.takeWhile_append]
  split
  · next hall =>
    rw [(List.takeWhile_prefix (· != '#')).eq_of_length hall]
    exact .inr rfl
  · exact .inl rfl

/-- A carriage return at the end of a line does not matter. -/
theorem propertyOf_dropReturn (cs : List Char) :
    propertyOf (String.ofList (Text.dropReturn cs)) = propertyOf (String.ofList cs) := by
  unfold Text.dropReturn
  split
  · next hlast =>
    obtain ⟨front, rfl⟩ := List.getLast?_eq_some_iff.mp hlast
    rw [List.dropLast_concat, propertyOf_eq, propertyOf_eq]
    rcases lead_append_return front with hlead | hlead
    · rw [hlead]
    · rw [hlead, Text.cutOnce_append (by decide), Option.bind_map]
      refine congrArg (Option.bind _) (funext fun sides => ?_)
      rw [Function.comp_apply, propertyAt_append_return]
  · rfl

/-! ### Lines that are printed -/

structure IsName (name : String) : Prop where
  nonempty : name ≠ ""
  trimmed : Text.trim name = name
  equals : '=' ∉ name.toList
  hash : '#' ∉ name.toList
  newline : '\n' ∉ name.toList

structure IsValue (value : String) : Prop where
  trimmed : Text.trim value = value
  hash : '#' ∉ value.toList
  newline : '\n' ∉ value.toList

/-- The blanks around a name and around its value, and the comment behind the two. -/
structure Layout where
  front : String
  left : String
  right : String
  back : String
  comment : Option String

namespace Layout

/-- The text of a property. -/
def text (l : Layout) (name value : String) : String :=
  l.front ++ name ++ l.left ++ "=" ++ (l.right ++ value ++ l.back) ++
    l.comment.elim "" ("#" ++ ·)

structure Fits (l : Layout) : Prop where
  front : Text.Padding l.front
  left : Text.Padding l.left
  right : Text.Padding l.right
  back : Text.Padding l.back
  comment : ∀ comment ∈ l.comment, '\n' ∉ comment.toList

end Layout

inductive Line where
  | property (layout : Layout) (name value : String)
  | other (text : String)

namespace Line

def text : Line → String
  | .property layout name value => layout.text name value
  | .other text => text

def entry? : Line → Option (String × String)
  | .property _ name value => some (name, value)
  | .other _ => none

def Fits : Line → Prop
  | .property layout name value => layout.Fits ∧ IsName name ∧ IsValue value
  | .other text =>
    '\n' ∉ text.toList ∧ Idle text

end Line

section
variable (name value : String) (l : Layout)

instance : Decidable (IsName name) :=
  decidable_of_iff (name ≠ "" ∧ Text.trim name = name ∧
      '=' ∉ name.toList ∧ '#' ∉ name.toList ∧ '\n' ∉ name.toList)
    ⟨fun h => ⟨h.1, h.2.1, h.2.2.1, h.2.2.2.1, h.2.2.2.2⟩, fun h => ⟨h.1, h.2, h.3, h.4, h.5⟩⟩

instance : Decidable (IsValue value) :=
  decidable_of_iff (Text.trim value = value ∧ '#' ∉ value.toList ∧ '\n' ∉ value.toList)
    ⟨fun h => ⟨h.1, h.2.1, h.2.2⟩, fun h => ⟨h.1, h.2, h.3⟩⟩

instance : Decidable l.Fits :=
  decidable_of_iff (Text.Padding l.front ∧ Text.Padding l.left ∧ Text.Padding l.right ∧
      Text.Padding l.back ∧ ∀ comment ∈ l.comment, '\n' ∉ comment.toList)
    ⟨fun h => ⟨h.1, h.2.1, h.2.2.1, h.2.2.2.1, h.2.2.2.2⟩, fun h => ⟨h.1, h.2, h.3, h.4, h.5⟩⟩

instance : DecidablePred Line.Fits
  | .property _ _ _ => inferInstanceAs (Decidable (_ ∧ _ ∧ _))
  | .other text =>
    decidable_of_iff ('\n' ∉ text.toList ∧ propertyOf text = none)
      (and_congr_right' propertyOf_eq_none_iff)

end

/-! ### Reading what is printed -/

section
variable {layout : Layout} {name value : String}

theorem lead_property (h : layout.Fits) (hname : IsName name) (hvalue : IsValue value) :
    lead (layout.text name value) =
      (layout.front ++ name ++ layout.left).toList ++
        '=' :: (layout.right ++ value ++ layout.back).toList := by
  have hhash {pad : String} (hpad : Text.Padding pad) : '#' ∉ pad.toList :=
    hpad.not_mem (by decide)
  have hnone : ∀ c ∈ (layout.front ++ name ++ layout.left).toList ++
      '=' :: (layout.right ++ value ++ layout.back).toList, (c != '#') = true := by
    intro c hc
    rw [bne_iff_ne]
    rintro rfl
    simp [String.toList_append, hhash h.front, hhash h.left, hhash h.right, hhash h.back,
      hname.hash, hvalue.hash] at hc
  have hcomment : (layout.comment.elim "" ("#" ++ ·)).toList.takeWhile (· != '#') = [] := by
    cases layout.comment with
    | none => rfl
    | some comment => simp [String.toList_append]
  have htext : (layout.text name value).toList =
      ((layout.front ++ name ++ layout.left).toList ++
        '=' :: (layout.right ++ value ++ layout.back).toList) ++
        (layout.comment.elim "" ("#" ++ ·)).toList := by
    simp [Layout.text, String.toList_append]
  rw [lead, htext, List.takeWhile_append_of_pos hnone, hcomment, List.append_nil]

theorem propertyOf_text (h : layout.Fits) (hname : IsName name) (hvalue : IsValue value) :
    propertyOf (layout.text name value) = some (name, value) := by
  rw [propertyOf_eq_some_iff]
  refine ⟨_, _, lead_property h hname hvalue, ?_, ?_, ?_, hname.nonempty⟩
  · simp [String.toList_append, h.front.not_mem (c := '=') (by decide), hname.equals,
      h.left.not_mem (c := '=') (by decide)]
  · rw [String.ofList_toList, Text.trim_padded h.front h.left, hname.trimmed]
  · rw [String.ofList_toList, Text.trim_padded h.right h.back, hvalue.trimmed]

theorem not_newline_text (h : layout.Fits) (hname : IsName name) (hvalue : IsValue value) :
    '\n' ∉ (layout.text name value).toList := by
  have hcomment : '\n' ∉ (layout.comment.elim "" ("#" ++ ·)).toList := by
    cases hsome : layout.comment with
    | none => simp
    | some comment => simp [String.toList_append, h.comment comment hsome]
  simp [Layout.text, String.toList_append, h.front.newline, h.left.newline, h.right.newline,
    h.back.newline, hname.newline, hvalue.newline, hcomment]

end

theorem propertyOf_line {line : Line} (h : line.Fits) : propertyOf line.text = line.entry? := by
  cases line with
  | property layout name value => exact propertyOf_text h.1 h.2.1 h.2.2
  | other text => exact propertyOf_eq_none_iff.mpr h.2

theorem not_newline_line {line : Line} (h : line.Fits) : '\n' ∉ line.text.toList := by
  cases line with
  | property layout name value => exact not_newline_text h.1 h.2.1 h.2.2
  | other text => exact h.1

/-! ### Reports -/

def format : LineFormat Line String where
  text := Line.text
  entry? := Line.entry?
  Fits := Line.Fits
  read := propertyOf
  read_text := propertyOf_line
  not_newline := not_newline_line
  read_empty := rfl
  read_dropReturn := propertyOf_dropReturn

theorem reportOf_eq (out : String) : reportOf out = format.table out := rfl

/-- What is read out of a text can be printed. -/
theorem fits_of_reportOf {out name value : String}
    (h : (reportOf out).get? name = some value) : IsName name ∧ IsValue value := by
  rw [reportOf_eq] at h
  obtain ⟨line, hline, hproperty⟩ := format.read_of_table h
  obtain ⟨front, back, hlead, hfront, rfl, rfl, hne⟩ := propertyOf_eq_some_iff.mp hproperty
  have hside {c : Char} (hc : c ∈ front ∨ c ∈ back) : c ≠ '\n' ∧ c ≠ '#' := by
    have hmem : c ∈ lead line := by
      rw [hlead, List.mem_append, List.mem_cons]
      exact hc.imp_right .inr
    refine ⟨?_, bne_iff_ne.mp (List.mem_takeWhile_imp (p := (· != '#')) hmem)⟩
    rintro rfl
    exact Text.not_newline_of_mem_lines hline (List.takeWhile_subset _ hmem)
  have hkept {side : List Char} {c : Char}
      (hc : c ∈ (Text.trim (String.ofList side)).toList) : c ∈ side := by
    simpa using Text.mem_of_mem_trim hc
  exact
    ⟨{ nonempty := hne
       trimmed := Text.trim_trim _
       equals := fun hc => hfront (hkept hc)
       hash := fun hc => (hside (.inl (hkept hc))).2 rfl
       newline := fun hc => (hside (.inl (hkept hc))).1 rfl },
     { trimmed := Text.trim_trim _
       hash := fun hc => (hside (.inr (hkept hc))).2 rfl
       newline := fun hc => (hside (.inr (hkept hc))).1 rfl }⟩

/-- The report of properties alone, each laid out in its own way. -/
def printed (layout : String → Layout) (properties : Dict String) : String :=
  Text.unlines (properties.entries.map fun p => (layout p.1).text p.1 p.2)

theorem reportOf_printed {layout : String → Layout} (hlayout : ∀ name, (layout name).Fits)
    {properties : Dict String}
    (h : ∀ name value, properties.get? name = some value → IsName name ∧ IsValue value) :
    reportOf (printed layout properties) = properties := by
  rw [reportOf_eq]
  exact format.table_printed (fun p => .property (layout p.1) p.1 p.2) (fun _ => rfl) fun p hp =>
    ⟨hlayout p.1, h _ _ ((Dict.mem_entries_iff properties p.1 p.2).mp hp)⟩

/-- **A report decodes to the properties it was printed from.** They may stand in any order
and in any layout, with any number of lines without a property between them, and the last
line ended or not. Under a name that is printed more than once stands the value of the last
of its lines. What is read out of any text is read again when it is printed, in whatever
layout. -/
theorem properties_decode (out : String) :
    (∀ lines : List Line, (∀ line ∈ lines, line.Fits) →
      Text.HasLines out (lines.map Line.text) →
      (∀ properties : Dict String, (lines.filterMap Line.entry?).Perm properties.entries →
        reportOf out = properties) ∧
      ∀ name value, (reportOf out).get? name = some value ↔
        ∃ front back, lines.filterMap Line.entry? = front ++ (name, value) :: back ∧
          name ∉ back.map (·.1)) ∧
    ∀ layout : String → Layout, (∀ name, (layout name).Fits) →
      reportOf (printed layout (reportOf out)) = reportOf out := by
  refine ⟨fun lines hlines hout => ?_, fun layout hlayout => ?_⟩
  · rw [reportOf_eq]
    exact format.table_decodes hlines hout
  · exact reportOf_printed hlayout fun _ _ => fits_of_reportOf

/-- Marks in values and in comments, and lines that are almost properties. -/
def marked : List Line :=
  [.property ⟨"", "  ", " ", "  ", some " [RO/str] a = b # c"⟩ "kernel_cmdline" "console= quiet",
    .other "# fwid = 1", .property ⟨"\t", "", "", "", none⟩ "dev boot" "", .other "  = nameless",
    .other "arch", .property ⟨"", " ", " ", "\r", some "\r"⟩ "a" "=="]

/-- They are read as they are; a property that is printed again, on a line that is not ended,
takes the place of the first one, and it does not matter how the report is laid out. -/
theorem properties_decode_marked :
    let plain : Layout := ⟨"", " ", " ", "", none⟩
    let more := marked ++ [Line.property plain "a" "last"]
    let out := Text.unlines (marked.map Line.text) ++ "a = last"
    let properties :=
      Dict.ofList [("a", "=="), ("dev boot", ""), ("kernel_cmdline", "console= quiet")]
    (∀ line ∈ more, line.Fits) ∧ plain.Fits ∧
      reportOf (Text.unlines (marked.map Line.text)) = properties ∧
      Text.HasLines out (more.map Line.text) ∧ (reportOf out).get? "a" = some "last" ∧
      reportOf (printed (fun _ => plain) (reportOf out)) = reportOf out := by
  intro plain more out properties
  have hfits : ∀ line ∈ more, line.Fits := by decide
  have hplain : plain.Fits := by decide
  have hout : Text.HasLines out (more.map Line.text) := .inr (by decide)
  refine ⟨hfits, hplain, ?_, hout, ?_, (properties_decode out).2 _ fun _ => hplain⟩
  · exact ((properties_decode _).1 marked (fun line hline => hfits line (by simp [more, hline]))
      (.inl rfl)).1 _ (by decide)
  · exact (((properties_decode out).1 more hfits hout).2 _ _).mpr
      ⟨marked.filterMap Line.entry?, [], by decide, by decide⟩

end DeviceLab.Device.Crossystem
