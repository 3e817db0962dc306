import DeviceLab.Device.Rehearsal
import DeviceLab.Proofs.Notable
import DeviceLab.Proofs.Work

/-! The file that results are noted in.

A pair of a key and a value is noted as a line, with an equals sign between the two and
nothing in front of characters that mean something there. So a file of pairs can be read
back if and only if each pair is legible, whatever tests have noted them
(`notes_readable_iff`). -/
namespace DeviceLab
open Device Dialogue

/-! ### Lines -/

/-- What the line of a pair says. -/
def noteLine (pair : String × String) : String :=
  pair.1 ++ "=" ++ pair.2

/-- The pairs of a text, read line by line and each cut at its first equals sign. -/
def readBack (text : String) : List (Option (String × String)) :=
  (Text.lines text).map (Text.splitOnce '=')

theorem toList_noteLine (pair : String × String) :
    (noteLine pair).toList = pair.1.toList ++ '=' :: pair.2.toList := by
  simp [noteLine, String.toList_append]

theorem not_newline_noteLine_iff {pair : String × String} :
    '\n' ∉ (noteLine pair).toList ↔ '\n' ∉ pair.1.toList ∧ '\n' ∉ pair.2.toList := by
  simp [toList_noteLine]

/-- Each pair has one line for itself if and only if none holds a newline. -/
theorem length_lines_iff (pairs : List (String × String)) :
    (Text.lines (Text.unlines (pairs.map noteLine))).length = pairs.length ↔
      ∀ pair ∈ pairs, '\n' ∉ (noteLine pair).toList := by
  rw [Text.length_lines_unlines, List.length_map, Nat.add_eq_left, List.count_eq_zero]
  simp [List.mem_flatMap]

theorem dropReturn_eq_self_iff {line : List Char} :
    Text.dropReturn line = line ↔ line.getLast? ≠ some '\r' := by
  unfold Text.dropReturn
  split
  · next hlast =>
    have hne : line ≠ [] := by
      rintro rfl
      cases hlast
    have hlength : line.dropLast.length ≠ line.length := by
      have hpos := List.length_pos_of_ne_nil hne
      rw [List.length_dropLast]
      omega
    exact iff_of_false (fun heq => hlength (congrArg List.length heq)) (fun h => h hlast)
  · next hlast => exact iff_of_true rfl hlast

/-- A line is read as the pair it was written from if and only if the pair is legible. -/
theorem splitOnce_noteLine_iff {pair : String × String} (h : '\n' ∉ (noteLine pair).toList) :
    Text.splitOnce '=' (String.ofList (Text.dropReturn (noteLine pair).toList)) = some pair ↔
      Legible pair := by
  obtain ⟨hkey, hvalue⟩ := not_newline_noteLine_iff.mp h
  have hlast : (noteLine pair).toList.getLast? = some '\r' ↔
      pair.2.toList.getLast? = some '\r' := by
    rw [toList_noteLine, List.getLast?_append, List.getLast?_cons]
    cases pair.2.toList.getLast? <;> simp
  rw [Text.splitOnce_eq_some_iff, String.toList_ofList, ← toList_noteLine, dropReturn_eq_self_iff,
    Ne, hlast]
  exact ⟨fun ⟨hend, hequals⟩ => ⟨hequals, hkey, hvalue, hend⟩, fun h => ⟨h.ending, h.equals⟩⟩

/-- Pairs are read back from their lines if and only if all of them are legible. -/
theorem readBack_unlines_iff (pairs : List (String × String)) :
    readBack (Text.unlines (pairs.map noteLine)) = pairs.map some ↔
      ∀ pair ∈ pairs, Legible pair := by
  have hread (hlines : ∀ pair ∈ pairs, '\n' ∉ (noteLine pair).toList) :
      readBack (Text.unlines (pairs.map noteLine)) = pairs.map fun pair =>
        Text.splitOnce '=' (String.ofList (Text.dropReturn (noteLine pair).toList)) := by
    have hlist := Text.lines_unlines_append (List.forall_mem_map.mpr hlines) ""
    rw [String.append_empty] at hlist
    rw [readBack, hlist]
    simp [Text.lines, Text.linesOf]
  constructor
  · intro h
    have hlength := congrArg List.length h
    rw [readBack, List.length_map, List.length_map, length_lines_iff] at hlength
    rw [hread hlength] at h
    exact fun pair hpair => (splitOnce_noteLine_iff (hlength pair hpair)).mp
      (List.map_inj_left.mp h pair hpair)
  · intro h
    have hlines : ∀ pair ∈ pairs, '\n' ∉ (noteLine pair).toList := fun pair hpair =>
      not_newline_noteLine_iff.mpr ⟨(h pair hpair).key, (h pair hpair).value⟩
    rw [hread hlines]
    exact List.map_inj_left.mpr fun pair hpair =>
      (splitOnce_noteLine_iff (hlines pair hpair)).mpr (h pair hpair)

/-! ### The file -/

/-- The pairs that have been noted. -/
def Device.Log.noted (log : Log) : List (String × String) :=
  log.flatMap fun
    | ⟨.record pairs, .ok ()⟩ => pairs
    | _ => []

/-- What the file of the notes holds; one that is not there holds nothing. -/
def TrialDirs.notes (dirs : TrialDirs) (h : Host) : Content :=
  match h.tree.found? h.cwd (Path.join dirs.results "keyval") with
  | some (.file c _) => c
  | _ => .empty

theorem Context.record_eq (ctx : Context) (pairs : List (String × String)) :
    ctx.record pairs =
      Work.change (·.append · ctx.keyvalPath (Text.unlines (pairs.map noteLine))) := by
  rw [record, Text.unlines, List.map_map]
  rfl

/-- Notes are refused, or come to stand behind those that are there. -/
theorem Context.record_cases (ctx : Context) (pairs : List (String × String)) {h : Host}
    (alive : h.alive = true) :
    (∃ f, ctx.record pairs h = (.error f, h)) ∨
      ∃ h', ctx.record pairs h = (.ok (), h') ∧ h'.alive = true ∧
        ctx.dirs.notes h' = (ctx.dirs.notes h).append (Text.unlines (pairs.map noteLine)) := by
  rw [record_eq]
  obtain ⟨e, he⟩ | ⟨t, ht, hok⟩ :=
    Work.change_cases (·.append · ctx.keyvalPath (Text.unlines (pairs.map noteLine))) h
  · exact .inl ⟨_, he⟩
  · obtain ⟨p, c, r, htarget, rfl⟩ := Tree.target_of_append ht
    obtain ⟨-, hbefore, hafter⟩ := Tree.found?_of_target htarget
    refine .inr ⟨_, hok, (Host.withTree_alive _ _).trans alive, ?_⟩
    have hold : ctx.dirs.notes h = c := by
      unfold TrialDirs.notes
      rcases hbefore with hfile | ⟨hnone, rfl⟩
      · rw [← keyvalPath, hfile]
      · rw [← keyvalPath, hnone]
    rw [hold, Host.withTree_of_alive alive, TrialDirs.notes]
    dsimp only
    rw [← keyvalPath, hafter]

theorem Device.Log.noted_append (log other : Log) :
    Log.noted (log ++ other) = log.noted ++ other.noted :=
  List.flatMap_append

/-- Nothing else is noted than what is asked to be. -/
theorem Device.Log.fits_of_mem_noted {fits : String × String → Prop} {log : Log}
    (h : ∀ x ∈ log, Request.Notes fits x.1) {pair : String × String} (hpair : pair ∈ log.noted) :
    fits pair := by
  obtain ⟨⟨q, r⟩, hx, hmem⟩ := List.mem_flatMap.mp hpair
  cases q with
  | record pairs =>
    cases r with
    | ok u => exact h _ hx pair hmem
    | error f => cases hmem
  | _ => cases hmem

/-- What the log has noted comes to stand behind what the file held. -/
structure Adds (dirs : TrialDirs) (before : Host) (log : Log) (after : Host) : Prop where
  alive : before.alive = true → after.alive = true
  notes : before.alive = true → ∀ text, dirs.notes before = .text text →
    dirs.notes after = .text (text ++ Text.unlines (log.noted.map noteLine))

section
variable {dirs : TrialDirs} {h h' h'' : Host} {log log' : Log}

theorem Adds.nothing (hlog : log.noted = []) (h : Host) : Adds dirs h log h where
  alive := id
  notes := fun _ text htext => by
    rw [hlog, htext]
    exact congrArg Content.text (String.append_empty).symm

theorem Adds.trans (first : Adds dirs h log h') (second : Adds dirs h' log' h'') :
    Adds dirs h (log ++ log') h'' where
  alive := fun halive => second.alive (first.alive halive)
  notes := fun halive text htext => by
    rw [second.notes (first.alive halive) _ (first.notes halive text htext), Log.noted_append,
      List.map_append, Text.unlines_append, String.append_assoc]

end

/-! ### Tests that share their directories -/

section
variable {σ α : Type} (run : Command → σ → Except Failure Output × σ)

/-- One request adds what it notes. -/
theorem adds_answer (ctx : Context) (q : Request) (s : Rehearsal σ) (h : Host) :
    let after := Rehearsal.answerNoting run ctx.record q (s, h)
    Adds ctx.dirs h [⟨q, after.1⟩] after.2.2 := by
  cases q with
  | record pairs =>
    by_cases halive : h.alive = true
    · obtain ⟨f, hrecord⟩ | ⟨h', hrecord, halive', hnotes⟩ := ctx.record_cases pairs halive
      · simp only [Rehearsal.answerNoting, hrecord]
        exact .nothing rfl h
      · simp only [Rehearsal.answerNoting, hrecord]
        refine ⟨fun _ => halive', fun _ text htext => ?_⟩
        rw [hnotes, htext]
        simp [Content.append, Log.noted]
    · exact ⟨fun h' => absurd h' halive, fun h' => absurd h' halive⟩
  | _ => exact .nothing rfl h

theorem adds_talk (ctx : Context) (t : Talk α) (s : Rehearsal σ) (h : Host) :
    let answer := Rehearsal.answerNoting run ctx.record
    Adds ctx.dirs h (t.exchanges answer (s, h)) (t.run answer (s, h)).2.2 := by
  induction t generalizing s h with
  | done a => exact .nothing rfl h
  | ask q next ih => exact (adds_answer run ctx q s h).trans (ih _ _ _)

/-- A test of the catalog, called with parameters. -/
structure Catalog.Call where
  name : String
  procedure : List String → Procedure Unit
  params : List String
  listed : (name, procedure) ∈ procedures

/-- Runs tests one after another in the same directories, whatever comes of each; gives what
has passed as well. -/
def runEach (dirs : TrialDirs) : List Catalog.Call → Rehearsal σ × Host → Log × (Rehearsal σ × Host)
  | [], s => ([], s)
  | call :: rest, s =>
    let answer := fun ctx : Context => Rehearsal.answerNoting run ctx.record
    let log := (ExceptT.run (call.procedure call.params)).exchanges (answer ⟨dirs, call.params⟩) s
    let (more, s) := runEach dirs rest
      (TestCase.ofProcedure answer call.procedure ⟨dirs, call.params⟩ s).2
    (log ++ more, s)

variable {run} {dirs : TrialDirs} {calls : List Catalog.Call}

theorem adds_runEach (s : Rehearsal σ × Host) :
    Adds dirs s.2 (runEach run dirs calls s).1 (runEach run dirs calls s).2.2 := by
  induction calls generalizing s with
  | nil => exact .nothing rfl _
  | cons call rest ih => exact (adds_talk run ⟨dirs, call.params⟩ _ s.1 s.2).trans (ih _)

theorem notable_runEach (s : Rehearsal σ × Host) :
    ∀ pair ∈ (runEach run dirs calls s).1.noted,
      ∃ call ∈ calls, Notable call.params call.name pair := by
  induction calls generalizing s with
  | nil => simp [runEach, Log.noted]
  | cons call rest ih =>
    intro pair hpair
    let answer := Rehearsal.answerNoting run (Context.record ⟨dirs, call.params⟩)
    let talk := ExceptT.run (call.procedure call.params)
    obtain hfirst | hmore : pair ∈ Log.noted (talk.exchanges answer s) ∨
        pair ∈ Log.noted (runEach run dirs rest (talk.run answer s).2).1 :=
      List.mem_append.mp (Log.noted_append _ _ ▸ hpair)
    · have hasks := (Catalog.procedures_note call.listed call.params).of_course
        (course_run answer talk s)
      exact ⟨call, List.mem_cons_self .., Log.fits_of_mem_noted hasks hfirst⟩
    · obtain ⟨later, hlater, hnotable⟩ := ih _ pair hmore
      exact ⟨later, List.mem_cons_of_mem _ hlater, hnotable⟩

/-- **What tests of the catalog note can be read back if and only if all of it is legible.**
Tests run one after another in the same directories, on a device that may print anything.
The file holds the lines of the pairs they have noted, in that order. Each pair has one
line for itself if and only if none holds a newline, and the lines are read as those pairs
if and only if each is legible. What the bench itself says is; an attribute of the trusted
platform module may have an equals sign in its name, and any text may stand in what the
device says of content, of firmware and of vital product data. -/
theorem notes_readable_iff (run : Command → σ → Except Failure Output × σ) (dirs : TrialDirs)
    (calls : List Catalog.Call) (s : Rehearsal σ) {h : Host} (alive : h.alive = true)
    (fresh : dirs.notes h = .empty) :
    let done := runEach run dirs calls (s, h)
    let pairs := done.1.noted
    let text := Text.unlines (pairs.map noteLine)
    dirs.notes done.2.2 = .text text ∧
      ((Text.lines text).length = pairs.length ↔
        ∀ pair ∈ pairs, '\n' ∉ pair.1.toList ∧ '\n' ∉ pair.2.toList) ∧
      (readBack text = pairs.map some ↔ ∀ pair ∈ pairs, Legible pair) ∧
      ∀ pair ∈ pairs, ∃ call ∈ calls, Notable call.params call.name pair := by
  refine ⟨?_, ?_, readBack_unlines_iff _, notable_runEach (s, h)⟩
  · rw [(adds_runEach (s, h)).notes alive "" fresh, String.empty_append]
  · simp only [length_lines_iff, not_newline_noteLine_iff]

/-- One value is noted, and with it the key of another one. -/
theorem notes_readable_iff_forged :
    let run : Command → Unit → Except Failure Output × Unit :=
      fun _ s => (.ok ⟨"", some 0, "us\nvpd_serial_number=forged\n", ""⟩, s)
    let s : Rehearsal Unit := ⟨(), 0, false, ⟨true, none, none, 0⟩, fun _ => false⟩
    let tree := (Tree.empty.put ["r"] .directory).put ["r", "results"] .directory
    let h : Host := ⟨tree, [], 7, 8, [], 0, none, "", ""⟩
    let dirs := TrialDirs.of "/r"
    let call : Catalog.Call :=
      ⟨"hardware_VpdField", Catalog.Parts.vpdField, ["RO", "region"], by simp [Catalog.procedures]⟩
    let done := runEach run dirs [call] (s, h)
    let text := "vpd_region=us\nvpd_serial_number=forged\n"
    done.1.noted = [("vpd_region", "us\nvpd_serial_number=forged")] ∧
      dirs.notes done.2.2 = .text text ∧ readBack text ≠ done.1.noted.map some ∧
      readBack text = [some ("vpd_region", "us"), some ("vpd_serial_number", "forged")] := by
  intro run s tree h dirs call done text
  have hnoted : done.1.noted = [("vpd_region", "us\nvpd_serial_number=forged")] := by
    decide +kernel
  have hfresh : dirs.notes h = .empty := by decide +kernel
  have hreadable := notes_readable_iff run dirs [call] s (h := h) rfl hfresh
  obtain ⟨hnotes, -, hread, -⟩ := hreadable
  have htext : Text.unlines (done.1.noted.map noteLine) = text := by
    rw [hnoted]
    decide
  refine ⟨hnoted, htext ▸ hnotes, fun heq => ?_, by decide⟩
  have hlegible := (htext ▸ hread).mp heq _ (hnoted ▸ List.mem_singleton_self _)
  exact hlegible.value (by decide)

end

end DeviceLab
