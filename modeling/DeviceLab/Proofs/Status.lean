import DeviceLab.Proofs.Reopen
import DeviceLab.Proofs.Text
import DeviceLab.Trial.Status

/-! Statuses, written and read.

The code of a status stands in front of the first blank of its line, whatever the
message is, and blanks around a message are all that is lost on the way through a
file (`of_line`). So whoever reads the file of a test learns whether it passed
(`read_of_line`, `isGood_ofResult_iff`). A text is read as a status if it begins with
a code, and nothing is lost any more of what was read once (`kept_but_for_blanks`). -/
namespace DeviceLab

namespace Status

theorem toList_line (s : Status) :
    s.line.toList = s.verdict.name.toList ++ ' ' :: s.message.toList := by
  simp [line, String.toList_append]

theorem trimEnd_name (v : Verdict) : Text.dropBlankEnd v.name.toList = v.name.toList := by
  cases v <;> decide

/-- Behind the code there is a blank, or nothing if there is no message. -/
theorem splitOnce_trimEnd (s : Status) {blanks : String}
    (h : ∀ c ∈ blanks.toList, Text.isBlank c = true) :
    (Text.splitOnce ' ' (Text.trimEnd (s.line ++ blanks))).getD
        (Text.trimEnd (s.line ++ blanks), "") =
      (s.verdict.name, Text.trimEnd s.message) := by
  have hname : ' ' ∉ s.verdict.name.toList := by cases s.verdict <;> decide
  have htrim : (Text.trimEnd (s.line ++ blanks)).toList =
      Text.dropBlankEnd (s.verdict.name.toList ++ ' ' :: s.message.toList) := by
    rw [Text.trimEnd, String.toList_ofList, String.toList_append,
      Text.dropBlankEnd_append_blank h, toList_line]
  by_cases hempty : Text.dropBlankEnd s.message.toList = []
  · have hblank : ∀ c ∈ ' ' :: s.message.toList, Text.isBlank c = true :=
      List.forall_mem_cons.mpr ⟨by decide, Text.dropBlankEnd_eq_nil_iff.mp hempty⟩
    rw [Text.dropBlankEnd_append_blank hblank, trimEnd_name] at htrim
    have hall : Text.trimEnd (s.line ++ blanks) = s.verdict.name := String.toList_inj.mp htrim
    have hmessage : Text.trimEnd s.message = "" := by rw [Text.trimEnd, hempty]
    have hnone : Text.splitOnce ' ' s.verdict.name = none := by cases s.verdict <;> decide
    rw [hall, hnone, hmessage]
    rfl
  · have hsplit : Text.splitOnce ' ' (Text.trimEnd (s.line ++ blanks)) =
        some (s.verdict.name, Text.trimEnd s.message) := by
      refine Text.splitOnce_eq_some_iff.mpr ⟨?_, hname⟩
      rw [htrim, List.append_cons, Text.dropBlankEnd_append hempty, Text.trimEnd,
        String.toList_ofList, ← List.append_cons]
    rw [hsplit]
    rfl

/-- A line is read again, but for the blanks around the message. -/
theorem of_line (s : Status) {blanks : String}
    (h : ∀ c ∈ blanks.toList, Text.isBlank c = true) :
    Status.of (s.line ++ blanks) = .ok ⟨s.verdict, Text.trim s.message⟩ := by
  have hcode : Verdict.of s.verdict.name = .ok s.verdict := by cases s.verdict <;> decide
  unfold Status.of
  simp only [splitOnce_trimEnd s h, hcode, Text.trim_trimEnd]
  rfl

theorem newline_blank : ∀ c ∈ "\n".toList, Text.isBlank c = true := by
  intro c hc
  have hchars : "\n".toList = ['\n'] := by decide
  rw [hchars] at hc
  obtain rfl := List.mem_singleton.mp hc
  decide

/-! ### Texts that are read -/

theorem verdict_of_eq_ok_iff {code : String} {v : Verdict} :
    Verdict.of code = .ok v ↔ code = v.name := by
  constructor
  · intro h
    unfold Verdict.of at h
    split at h
    · next hgood =>
      obtain rfl := Except.ok.inj h
      exact beq_iff_eq.mp hgood
    · split at h
      · next hbad =>
        obtain rfl := Except.ok.inj h
        exact beq_iff_eq.mp hbad
      · cases h
  · rintro rfl
    cases v <;> decide

/-- The code is what stands in front of the first blank, and all there is if there is none. -/
theorem of_eq_ok_iff {text : String} {s : Status} :
    Status.of text = .ok s ↔
      ∃ message,
        (Text.splitOnce ' ' (Text.trimEnd text)).getD (Text.trimEnd text, "") =
          (s.verdict.name, message) ∧
        s.message = Text.trim message := by
  unfold Status.of
  dsimp only
  generalize (Text.splitOnce ' ' (Text.trimEnd text)).getD (Text.trimEnd text, "") = pieces
  constructor
  · intro h
    cases hcode : Verdict.of pieces.1 with
    | error f =>
      rw [hcode] at h
      cases h
    | ok v =>
      rw [hcode] at h
      obtain rfl := Except.ok.inj h
      exact ⟨pieces.2, Prod.ext (verdict_of_eq_ok_iff.mp hcode) rfl, rfl⟩
  · rintro ⟨message, rfl, hmessage⟩
    rw [verdict_of_eq_ok_iff.mpr rfl]
    exact congrArg (fun m => Except.ok (Status.mk s.verdict m)) hmessage.symm

/-- A text is read if it is a code, or begins with one that a blank follows. -/
theorem exists_of_eq_ok_iff {text : String} :
    (∃ s, Status.of text = .ok s) ↔
      ∃ v : Verdict, Text.trimEnd text = v.name ∨
        (v.name ++ " ").toList <+: (Text.trimEnd text).toList := by
  constructor
  · rintro ⟨s, hs⟩
    obtain ⟨message, hpieces, -⟩ := of_eq_ok_iff.mp hs
    refine ⟨s.verdict, ?_⟩
    cases hsplit : Text.splitOnce ' ' (Text.trimEnd text) with
    | none =>
      rw [hsplit, Option.getD_none] at hpieces
      exact .inl (congrArg Prod.fst hpieces)
    | some pieces =>
      rw [hsplit, Option.getD_some] at hpieces
      subst hpieces
      obtain ⟨htext, -⟩ := Text.splitOnce_eq_some_iff.mp hsplit
      exact .inr ⟨message.toList, by simp [htext]⟩
  · rintro ⟨v, hcode | ⟨rest, hrest⟩⟩
    · refine ⟨⟨v, Text.trim ""⟩, of_eq_ok_iff.mpr ⟨"", ?_, rfl⟩⟩
      have hnone : Text.splitOnce ' ' v.name = none := by cases v <;> decide
      rw [hcode, hnone, Option.getD_none]
    · refine ⟨⟨v, Text.trim (String.ofList rest)⟩, of_eq_ok_iff.mpr ⟨String.ofList rest, ?_, rfl⟩⟩
      have hname : ' ' ∉ v.name.toList := by cases v <;> decide
      have hsplit : Text.splitOnce ' ' (Text.trimEnd text) = some (v.name, String.ofList rest) :=
        Text.splitOnce_eq_some_iff.mpr ⟨by simp [← hrest], hname⟩
      rw [hsplit, Option.getD_some]

/-- What was read is written, and read again, as it is. -/
theorem of_line_of {text : String} {s : Status} (h : Status.of text = .ok s) :
    Status.of s.line = .ok s := by
  obtain ⟨message, -, hmessage⟩ := of_eq_ok_iff.mp h
  have hline : Status.of (s.line ++ "") = .ok ⟨s.verdict, Text.trim s.message⟩ :=
    of_line s (by simp)
  rwa [String.append_empty, hmessage, Text.trim_trim, ← hmessage] at hline

/-! ### The status of a result -/

theorem verdict_ofResult_iff {result : Except Failure Unit} :
    (ofResult result).verdict = .good ↔ result = .ok () := by
  cases result <;> simp [ofResult, completed]

theorem isGood_ofResult_iff {result : Except Failure Unit} :
    (ofResult result).isGood = true ↔ result = .ok () := by
  rw [isGood, beq_iff_eq, verdict_ofResult_iff]

/-! ### The file of a test -/

theorem name_plain : TrialDirs.Plain "status" :=
  ⟨⟨by decide, by decide, by decide⟩, by decide, by decide⟩

section
variable {dir : String} {h : Host}

/-- Whoever reads the file of a test learns whether it passed. -/
theorem read_of_line {s : Status} {runnable : Bool}
    (hfound : h.tree.found? h.cwd (path dir) = some (.file (.text (s.line ++ "\n")) runnable)) :
    Status.read dir h = (.ok ⟨s.verdict, Text.trim s.message⟩, h) := by
  have hlook : Work.look (·.readText · (path dir)) h = (.ok (s.line ++ "\n"), h) := by
    rw [Work.look, Tree.readText_of_found hfound]
    rfl
  unfold Status.read
  rw [Work.bind_of_ok hlook, of_line s newline_blank]
  rfl

/-- The file is put where its path leads, or is refused and changes nothing. -/
theorem write_cases (s : Status) (dir : String) (h : Host) :
    (∃ e : OsError, s.write dir h = (.error (.io e.text), h)) ∨
      ∃ t, h.tree.write h.cwd (path dir) (.text (s.line ++ "\n")) = .ok t ∧
        s.write dir h = (.ok (), h.withTree t) :=
  Work.change_cases _ h

theorem read_of_none (hfound : h.tree.found? h.cwd (path dir) = none) :
    ∃ f, Status.read dir h = (.error f, h) := by
  obtain ⟨e, he⟩ := Tree.readText_of_none hfound
  have hlook : Work.look (·.readText · (path dir)) h = (.error (.io e.text), h) := by
    rw [Work.look, he]
    rfl
  exact ⟨_, Work.bind_of_error hlook⟩

/-- What was written by a process that has not been stopped is read back. -/
theorem read_of_write {s : Status} {h' : Host} (hwrite : s.write dir h = (.ok (), h'))
    (alive : h'.alive = true) :
    Status.read dir h' = (.ok ⟨s.verdict, Text.trim s.message⟩, h') := by
  rcases write_cases s dir h with ⟨e, hrefused⟩ | ⟨t, ht, hdone⟩
  · rw [hrefused] at hwrite
    cases hwrite
  · rw [hdone] at hwrite
    obtain rfl := (Prod.mk.inj hwrite).2
    rw [Host.withTree_alive] at alive
    rw [Host.withTree_of_alive alive]
    obtain ⟨runnable, hfound⟩ := Tree.found?_of_write ht
    exact read_of_line hfound

end

/-- **A status is kept but for the blanks around its message**, on its line and in the file
of a test, whatever the message is. A text is read as a status if it begins with a code, and
what was read once is kept as it is. -/
theorem kept_but_for_blanks :
    (∀ s : Status, Status.of (s.line ++ "\n") = .ok ⟨s.verdict, Text.trim s.message⟩) ∧
    (∀ (s : Status) (dir : String) (h h' : Host), s.write dir h = (.ok (), h') →
      h'.alive = true → Status.read dir h' = (.ok ⟨s.verdict, Text.trim s.message⟩, h')) ∧
    (∀ text, (∃ s, Status.of text = .ok s) ↔
      (Text.trimEnd text = "GOOD" ∨ Text.trimEnd text = "FAIL") ∨
        "GOOD ".toList <+: (Text.trimEnd text).toList ∨
        "FAIL ".toList <+: (Text.trimEnd text).toList) ∧
    ∀ text s, Status.of text = .ok s → Status.of s.line = .ok s := by
  refine ⟨fun s => of_line s newline_blank, fun s dir h h' => read_of_write, fun text => ?_,
    fun text s => of_line_of⟩
  rw [exists_of_eq_ok_iff]
  constructor
  · rintro ⟨v, hcode | hlead⟩ <;> cases v
    · exact .inl (.inl hcode)
    · exact .inl (.inr hcode)
    · exact .inr (.inl hlead)
    · exact .inr (.inr hlead)
  · rintro ((hcode | hcode) | hlead | hlead)
    · exact ⟨.good, .inl hcode⟩
    · exact ⟨.bad, .inl hcode⟩
    · exact ⟨.good, .inr hlead⟩
    · exact ⟨.bad, .inr hlead⟩

/-- Of a message of blanks nothing is left, and the file holds the code alone. -/
theorem kept_but_for_blanks_of_blank :
    let host : Host := ⟨Tree.empty, [], 7, 8, [], 0, none, "", ""⟩
    let s : Status := ⟨.bad, "\n\u2003 "⟩
    Status.of (s.line ++ "\n") = .ok ⟨.bad, ""⟩ ∧
      Status.of (⟨.bad, ""⟩ : Status).line = .ok ⟨.bad, ""⟩ ∧
      ∃ left, s.write "/" host = (.ok (), left) ∧
        Status.read "/" left = (.ok ⟨.bad, ""⟩, left) := by
  intro host s
  have htrim : Text.trim s.message = "" := by decide +kernel
  have hline : Status.of (s.line ++ "\n") = .ok ⟨.bad, ""⟩ := by
    rw [kept_but_for_blanks.1 s, htrim]
  have hok : (s.write "/" host).1 = .ok () := by decide +kernel
  have halive : (s.write "/" host).2.alive = true := by decide +kernel
  obtain ⟨left, hwrite, alive⟩ :
      ∃ left, s.write "/" host = (.ok (), left) ∧ left.alive = true :=
    ⟨_, Prod.ext hok rfl, halive⟩
  have hread := kept_but_for_blanks.2.1 s "/" host left hwrite alive
  rw [htrim] at hread
  exact ⟨hline, kept_but_for_blanks.2.2.2 _ _ hline, left, hwrite, hread⟩

end Status
end DeviceLab
