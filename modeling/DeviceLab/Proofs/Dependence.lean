import DeviceLab.Proofs.Variables

/-! What variables depend on.

The facts that count are those under which a condition has a pattern, at any
depth. Two collections of facts that are alike under these names give the same
variables or the same failure, and a single variable depends on what its own
entry asks for and on nothing else (`depends_on_asked`). -/
namespace DeviceLab.Variables

/-- A condition of the datum, or of the value of one, has a pattern under the name. -/
inductive AsksFor (name : String) : Datum → Prop where
  | pattern {conditions : List Datum} {fields : List (String × Datum)} {d : Datum} :
      .table fields ∈ conditions → field? fields name = some d → name ≠ valueName →
      AsksFor name (.list conditions)
  | value {conditions : List Datum} {fields : List (String × Datum)} {d : Datum} :
      .table fields ∈ conditions → field? fields valueName = some d → AsksFor name d →
      AsksFor name (.list conditions)

/-- An entry of the document asks for the name. -/
def Asked (name : String) (document : Datum) : Prop :=
  ∃ fields entry d, document = .table fields ∧ field? fields entry = some d ∧ AsksFor name d

section
variable {matcher : Matcher} {facts facts' : Facts} {name : String}
  {fields : List (String × Datum)}

/-! ### Conditions -/

theorem Holds.of_alike {d : Datum} (h : facts.get? name = facts'.get? name)
    (holds : Holds matcher facts name d) : Holds matcher facts' name d := by
  obtain ⟨s, finds, fact, rfl, hread, hfact, hfound⟩ := holds
  exact ⟨s, finds, fact, rfl, hread, h ▸ hfact, hfound⟩

theorem Stops.of_alike {d : Datum} {r : Except Failure Bool}
    (h : facts.get? name = facts'.get? name) (stops : Stops matcher facts name d r) :
    Stops matcher facts' name d r := by
  cases stops with
  | unknown hfact => exact .unknown (h ▸ hfact)
  | notFound hfact hread hfound => exact .notFound (h ▸ hfact) hread hfound
  | noText hfact hd => exact .noText (h ▸ hfact) hd
  | noPattern hfact hread => exact .noPattern (h ▸ hfact) hread

/-- A condition is evaluated alike if the facts are alike under the names of its patterns. -/
theorem Evaluates.of_alike {r : Except Failure Bool}
    (h : ∀ name d, field? fields name = some d → name ≠ valueName →
      facts.get? name = facts'.get? name) (evaluates : Evaluates matcher facts fields r) :
    Evaluates matcher facts' fields r := by
  cases evaluates with
  | met hall =>
    exact .met fun name d hd hname => (hall name d hd hname).of_alike (h name d hd hname)
  | stopped hd hname hfront hstops =>
    refine .stopped hd hname (fun name' d' hlt hd' hname' => ?_) (hstops.of_alike (h _ _ hd hname))
    exact (hfront name' d' hlt hd' hname').of_alike (h name' d' hd' hname')

/-! ### Entries -/

section
variable {conditions : List Datum}
  (h : ∀ name, AsksFor name (.list conditions) → facts.get? name = facts'.get? name)
include h

/-- What is asked of one of the conditions is asked of them all. -/
theorem evaluates_of_alike (hmem : .table fields ∈ conditions) {r : Except Failure Bool}
    (evaluates : Evaluates matcher facts fields r) : Evaluates matcher facts' fields r :=
  evaluates.of_alike fun name _ hd hname => h name (.pattern hmem hd hname)

theorem passedOver_of_alike {c : Datum} (hmem : c ∈ conditions)
    (passed : PassedOver matcher facts c) :
    PassedOver matcher facts' c := by
  obtain ⟨fields, d, rfl, hvalue, hmet⟩ := passed
  exact ⟨fields, d, rfl, hvalue, evaluates_of_alike h hmem hmet⟩

theorem malformed_of_alike {c : Datum} {f : Failure} (hmem : c ∈ conditions)
    (malformed : Malformed matcher facts c f) : Malformed matcher facts' c f := by
  cases malformed with
  | noTable hc => exact .noTable hc
  | noValue hvalue => exact .noValue hvalue
  | pattern hvalue hmet => exact .pattern hvalue (evaluates_of_alike h hmem hmet)

end

/-- What a datum gives depends on the names it asks for: by induction on the rules, of
which each looks at facts through the conditions only. -/
theorem Gives.of_alike {d : Datum} {r : Except Failure Datum} (gives : Gives matcher facts d r)
    (h : ∀ name, AsksFor name d → facts.get? name = facts'.get? name) :
    Gives matcher facts' d r := by
  induction gives with
  | plain hd => exact .plain hd
  | notPlain hd hlist => exact .notPlain hd hlist
  | first hbefore hmet hvalue _ ih =>
    refine .first (fun c hc => ?_) (evaluates_of_alike h (by simp) hmet) hvalue ?_
    · exact passedOver_of_alike h (List.mem_append_left _ hc) (hbefore c hc)
    · exact ih fun name hname => h name (.value (by simp) hvalue hname)
  | malformed hbefore hc =>
    refine .malformed (fun c hc => ?_) (malformed_of_alike h (by simp) hc)
    exact passedOver_of_alike h (List.mem_append_left _ hc) (hbefore c hc)
  | noneMet hall => exact .noneMet fun c hc => passedOver_of_alike h hc (hall c hc)

theorem resolve_of_alike {d : Datum}
    (h : ∀ name, AsksFor name d → facts.get? name = facts'.get? name) :
    resolve matcher facts d = resolve matcher facts' d :=
  (gives_iff.mp ((gives_resolve d).of_alike h)).symm

/-! ### Documents -/

theorem resolveEach_congr {entries : List (String × Datum)}
    (h : ∀ p ∈ entries, resolve matcher facts p.2 = resolve matcher facts' p.2) :
    resolveEach matcher facts entries = resolveEach matcher facts' entries := by
  induction entries with
  | nil => rfl
  | cons p rest ih =>
    rw [resolveEach_cons, resolveEach_cons, h p (List.mem_cons_self ..),
      ih fun q hq => h q (List.mem_cons_of_mem _ hq)]

theorem ofDatum_of_alike {document : Datum}
    (h : ∀ name, Asked name document → facts.get? name = facts'.get? name) :
    ofDatum matcher facts document = ofDatum matcher facts' document := by
  cases document with
  | table fields =>
    have heach : resolveEach matcher facts (Dict.ofList fields).entries =
        resolveEach matcher facts' (Dict.ofList fields).entries := by
      refine resolveEach_congr fun p hp => resolve_of_alike fun name hname => ?_
      exact h name ⟨fields, p.1, p.2, rfl, (Dict.mem_entries_iff ..).mp hp, hname⟩
    rw [ofDatum, ofDatum, heach]
  | _ => rfl

/-- The variable of an entry has the value that the entry resolves to. -/
theorem get?_of_ofDatum {out : Dict Datum} {entry : String} {d : Datum}
    (hout : ofDatum matcher facts (.table fields) = .ok out) (hd : field? fields entry = some d) :
    ∃ v, resolve matcher facts d = .ok v ∧ out.get? entry = some v := by
  rcases all_or_failsFirst matcher facts fields with hall | ⟨f, hf⟩
  · obtain ⟨out', hout', resolved⟩ := ofDatum_of_all hall
    cases hout.symm.trans hout'
    obtain ⟨v, hv⟩ := (resolved.names entry).mpr (List.mem_map_of_mem (mem_of_field? hd))
    obtain ⟨d', hd', hresolves, -⟩ := resolved.values entry v hv
    cases hd.symm.trans hd'
    exact ⟨v, gives_iff.mp hresolves, hv⟩
  · cases hout.symm.trans (ofDatum_of_failsFirst hf)

end

/-- **Variables depend only on the facts that conditions ask for.** Facts that are alike
under the names that a document asks for give the same variables or the same failure. What
an entry resolves to, and so its variable, is the same for facts that are alike under the
names the entry asks for, whatever they say under others. -/
theorem depends_on_asked (matcher : Matcher) (facts facts' : Facts) :
    (∀ document, (∀ name, Asked name document → facts.get? name = facts'.get? name) →
      ofDatum matcher facts document = ofDatum matcher facts' document) ∧
    ∀ fields entry d, field? fields entry = some d →
      (∀ name, AsksFor name d → facts.get? name = facts'.get? name) →
      resolve matcher facts d = resolve matcher facts' d ∧
      ∀ out out', ofDatum matcher facts (.table fields) = .ok out →
        ofDatum matcher facts' (.table fields) = .ok out' → out.get? entry = out'.get? entry := by
  refine ⟨fun document h => ofDatum_of_alike h, fun fields entry d hd h => ?_⟩
  have hresolve : resolve matcher facts d = resolve matcher facts' d := resolve_of_alike h
  refine ⟨hresolve, fun out out' hout hout' => ?_⟩
  obtain ⟨v, hv, hget⟩ := get?_of_ofDatum hout hd
  obtain ⟨v', hv', hget'⟩ := get?_of_ofDatum hout' hd
  rw [hresolve, hv'] at hv
  rw [hget, hget', Except.ok.inj hv]

/-- Conditions on the board, at two depths. -/
def byBoard : Datum :=
  .list [.table [("board", .text "k"),
    ("value", .list [.table [("board", .text "v"), ("value", .text "found")]])]]

/-- Conditions on the model. -/
def byModel : Datum :=
  .list [.table [("model", .text "m"), ("value", .int 1)], .table [("value", .int 2)]]

theorem eq_of_asksFor_byBoard {name : String} (h : AsksFor name byBoard) : name = "board" := by
  have hfield {fields : List (String × Datum)} (hkeys : fields.map (·.1) = ["board", "value"])
      {d : Datum} (hd : field? fields name = some d) (hne : name ≠ valueName) :
      name = "board" := by
    have hmem : name ∈ fields.map (·.1) := List.mem_map_of_mem (mem_of_field? hd)
    simpa [hkeys, show name ≠ "value" from hne] using hmem
  cases h with
  | pattern hmem hd hne =>
    cases List.mem_singleton.mp hmem
    exact hfield rfl hd hne
  | value hmem hd hasks =>
    cases List.mem_singleton.mp hmem
    cases (show field? _ valueName = some _ by rfl).symm.trans hd
    cases hasks with
    | pattern hmem hd hne =>
      cases List.mem_singleton.mp hmem
      exact hfield rfl hd hne
    | value hmem hd hasks =>
      cases List.mem_singleton.mp hmem
      cases (show field? _ valueName = some (.text "found") by rfl).symm.trans hd
      cases hasks

/-- The model is known to one side only: `w` changes with it, and `v`, which asks for the
board alone, does not. The patterns are plain words, which are found where they stand. -/
theorem depends_on_asked_beside_model :
    let matcher : Matcher := fun s => .ok fun text => Text.contains s text
    let facts : Facts := .ofList [("board", "kv"), ("model", "m")]
    let facts' : Facts := .ofList [("board", "kv"), ("sku", "7")]
    let document : Datum := .table [("v", byBoard), ("w", byModel)]
    (∀ name, AsksFor name byBoard → facts.get? name = facts'.get? name) ∧
    ofDatum matcher facts (.table [("v", byBoard)]) =
      ofDatum matcher facts' (.table [("v", byBoard)]) ∧
    ∃ out out', ofDatum matcher facts document = .ok out ∧
      ofDatum matcher facts' document = .ok out' ∧
      out.get? "w" ≠ out'.get? "w" ∧ out.get? "v" = out'.get? "v" := by
  intro matcher facts facts' document
  have hasked : ∀ name, AsksFor name byBoard → facts.get? name = facts'.get? name := by
    intro name hname
    rw [eq_of_asksFor_byBoard hname]
    decide
  have hv : field? [("v", byBoard), ("w", byModel)] "v" = some byBoard := by rfl
  have hout : ofDatum matcher facts document =
      .ok (.ofList [("v", .text "found"), ("w", .int 1)]) := by rfl
  have hout' : ofDatum matcher facts' document =
      .ok (.ofList [("v", .text "found"), ("w", .int 2)]) := by rfl
  obtain ⟨hdocument, hentry⟩ := depends_on_asked matcher facts facts'
  refine ⟨hasked, hdocument _ ?_, _, _, hout, hout', ?_,
    (hentry _ "v" _ hv hasked).2 _ _ hout hout'⟩
  · rintro name ⟨fields, entry, d, heq, hd, hasks⟩
    cases heq
    obtain ⟨-, rfl⟩ : entry = "v" ∧ d = byBoard := by simpa using mem_of_field? hd
    exact hasked name hasks
  · simp [Dict.get?_ofList, Dict.find]

end DeviceLab.Variables
