import DeviceLab.Proofs.Dict
import DeviceLab.Proofs.Text

/-! Formats with an entry on a line.

A text in such a format is a table: its lines are read one by one, those without an entry
are passed over, and of the entries with one key the last stays. A format owes that a line
is read as what it was written from, whatever its lines are. So any text of such lines is
read as the table of their entries (`LineFormat.table_decodes`), and a table whose entries
fit on lines can be printed (`LineFormat.table_printed`). -/
namespace DeviceLab

/-- The lines of a format, each with an entry or without, and how they are read. -/
structure LineFormat (Line α : Type) where
  text : Line → String
  entry? : Line → Option (String × α)
  /-- What may stand on the line. -/
  Fits : Line → Prop
  read : String → Option (String × α)
  read_text {line : Line} : Fits line → read (text line) = entry? line
  not_newline {line : Line} : Fits line → '\n' ∉ (text line).toList
  read_empty : read "" = none
  read_dropReturn (cs : List Char) :
    read (String.ofList (Text.dropReturn cs)) = read (String.ofList cs)

namespace LineFormat
variable {Line α : Type} (f : LineFormat Line α)

/-- The entries of a text. -/
def table (out : String) : Dict α :=
  Dict.ofList ((Text.lines out).filterMap f.read)

/-- Whether the last line is ended does not matter. -/
theorem filterMap_lines_append_newline (s : String) :
    (Text.lines (s ++ "\n")).filterMap f.read = (Text.lines s).filterMap f.read := by
  have hlines (front cs : List Char) :
      ((Text.linesOf front (cs ++ ['\n'])).map String.ofList).filterMap f.read =
        ((Text.linesOf front cs).map String.ofList).filterMap f.read := by
    induction cs generalizing front with
    | nil =>
      cases front with
      | nil => simp [Text.linesOf, Text.dropReturn, f.read_empty]
      | cons c front => simp [Text.linesOf, f.read_dropReturn, List.filterMap_cons]
    | cons c cs ih =>
      simp only [List.cons_append, Text.linesOf]
      split
      · simp only [List.map_cons, List.filterMap_cons, ih]
      · exact ih _
  rw [Text.lines, String.toList_append]
  exact hlines [] s.toList

/-- Carriage returns at the ends of lines do not matter. -/
theorem filterMap_lines_unlines {ls : List String} (h : ∀ line ∈ ls, '\n' ∉ line.toList) :
    (Text.lines (Text.unlines ls)).filterMap f.read = ls.filterMap f.read := by
  have hlist := Text.lines_unlines_append h ""
  rw [String.append_empty] at hlist
  have hread : f.read ∘ (fun line => String.ofList (Text.dropReturn line.toList)) = f.read :=
    funext fun line => by rw [Function.comp_apply, f.read_dropReturn, String.ofList_toList]
  rw [hlist, List.filterMap_append, List.filterMap_map, hread]
  simp [Text.lines, Text.linesOf]

theorem table_lines {lines : List Line} (h : ∀ line ∈ lines, f.Fits line) {out : String}
    (hout : Text.HasLines out (lines.map f.text)) :
    f.table out = Dict.ofList (lines.filterMap f.entry?) := by
  have hnewline : ∀ text ∈ lines.map f.text, '\n' ∉ text.toList :=
    List.forall_mem_map.mpr fun line hline => f.not_newline (h line hline)
  have hread : ∀ line ∈ lines, (f.read ∘ f.text) line = f.entry? line := fun line hline =>
    f.read_text (h line hline)
  have hended : (Text.lines out).filterMap f.read = (lines.map f.text).filterMap f.read := by
    rcases hout with rfl | hout
    · exact f.filterMap_lines_unlines hnewline
    · rw [← f.filterMap_lines_append_newline, hout, f.filterMap_lines_unlines hnewline]
  rw [table, hended, List.filterMap_map, List.filterMap_congr hread]

/-- A text is read as the table of its entries, whatever their order. If there are several
with one key, the last of them is in the table. -/
theorem table_decodes {lines : List Line} (h : ∀ line ∈ lines, f.Fits line) {out : String}
    (hout : Text.HasLines out (lines.map f.text)) :
    (∀ d : Dict α, (lines.filterMap f.entry?).Perm d.entries → f.table out = d) ∧
      ∀ key value, (f.table out).get? key = some value ↔
        ∃ front back, lines.filterMap f.entry? = front ++ (key, value) :: back ∧
          key ∉ back.map (·.1) := by
  rw [f.table_lines h hout]
  exact ⟨fun d hperm => Dict.ofList_of_perm hperm, fun _ _ => Dict.get?_ofList_eq_some_iff⟩

/-- A table is read from the lines of its entries. -/
theorem table_printed {d : Dict α} (line : String × α → Line)
    (hentry : ∀ p, f.entry? (line p) = some p) (h : ∀ p ∈ d.entries, f.Fits (line p)) :
    f.table (Text.unlines (d.entries.map fun p => f.text (line p))) = d := by
  have hlines : ∀ l ∈ d.entries.map line, f.Fits l := List.forall_mem_map.mpr h
  have hentries : (d.entries.map line).filterMap f.entry? = d.entries := by
    have hsome : f.entry? ∘ line = some := funext hentry
    rw [List.filterMap_map, hsome, List.filterMap_some]
  have htext : (d.entries.map line).map f.text = d.entries.map fun p => f.text (line p) :=
    List.map_map
  rw [← htext, f.table_lines hlines (.inl rfl), hentries, Dict.ofList_entries]

/-- What is in a table stands on a line of its text. -/
theorem read_of_table {out key : String} {value : α} (h : (f.table out).get? key = some value) :
    ∃ line ∈ Text.lines out, f.read line = some (key, value) := by
  rw [table, Dict.get?_ofList] at h
  exact List.mem_filterMap.mp (List.mem_reverse.mp (Dict.mem_of_find h))

end LineFormat
end DeviceLab
