import DeviceLab.Proofs.Dict
import DeviceLab.Proofs.Utf8
import DeviceLab.Variables

/-! What variables resolve to.

The meaning of a document is given by rules: a condition is evaluated up to the
first name that decides it (`Evaluates`), and a list of conditions gives what the
first one gives that is met, unless a malformed one stands before it (`Gives`).
The computation follows the rules (`gives_iff`). So a document has variables just
if every entry resolves, they are plain and resolve to themselves, and otherwise
the failure is that of the smallest name that has one (`variables_resolve`). -/
namespace DeviceLab.Variables

/-! ### Plain values -/

/-- A string, a number or a bool. -/
def Plain (d : Datum) : Prop :=
  d.kindName = "string" ∨ d.kindName = "number" ∨ d.kindName = "bool"

/-- The value stands somewhere in the datum. -/
inductive Within (v : Datum) : Datum → Prop where
  | self : Within v v
  | item {d : Datum} {items : List Datum} : d ∈ items → Within v d → Within v (.list items)
  | field {name : String} {d : Datum} {fields : List (String × Datum)} :
      (name, d) ∈ fields → Within v d → Within v (.table fields)

/-- What a table has under a name: of repeated fields the last. -/
def field? (fields : List (String × Datum)) (name : String) : Option Datum :=
  (Dict.ofList fields).get? name

theorem mem_of_field? {fields : List (String × Datum)} {name : String} {d : Datum}
    (h : field? fields name = some d) : (name, d) ∈ fields := by
  rw [field?, Dict.get?_ofList] at h
  simpa using Dict.mem_of_find h

theorem hasValue_iff (fields : List (String × Datum)) :
    hasValue fields = true ↔ ∃ d, field? fields valueName = some d := by
  rw [← Option.isSome_iff_exists, field?, Dict.isSome_get?_ofList_iff]
  simp [hasValue]

/-- The value of a condition is the last it has. -/
theorem field?_valueName_cons (name : String) (d : Datum) (rest : List (String × Datum)) :
    field? ((name, d) :: rest) valueName =
      if name = valueName ∧ !hasValue rest then some d else field? rest valueName := by
  rw [field?, Dict.get?_ofList_cons]
  change (field? rest valueName).or _ = _
  cases hrest : field? rest valueName with
  | some e =>
    have hhas : hasValue rest = true := (hasValue_iff rest).mpr ⟨e, hrest⟩
    simp [hhas]
  | none =>
    have hhas : hasValue rest = false := by
      rw [Bool.eq_false_iff, ne_eq, hasValue_iff, hrest]
      simp
    simp [hhas]

/-- Everything in a list is so, or there is a first that is not. -/
theorem all_or_first {α : Type} (P : α → Prop) (l : List α) :
    (∀ x ∈ l, P x) ∨
      ∃ front x back, l = front ++ x :: back ∧ (∀ y ∈ front, P y) ∧ ¬ P x := by
  classical
  cases hfind : l.find? fun x => !decide (P x) with
  | none => exact .inl (by simpa using hfind)
  | some x =>
    obtain ⟨hx, front, back, rfl, hfront⟩ := List.find?_eq_some_iff_append.mp hfind
    exact .inr ⟨front, x, back, rfl, by simpa using hfront, by simpa using hx⟩

/-! ### Conditions -/

section
variable (matcher : Matcher) (facts : Facts)

/-- The fact is known, and the pattern is found in it. -/
def Holds (name : String) (d : Datum) : Prop :=
  ∃ s finds fact, d = .text s ∧ matcher s = .ok finds ∧ facts.get? name = some fact ∧
    finds fact = true

/-- What ends the evaluation of a condition at a name. -/
inductive Stops (name : String) : Datum → Except Failure Bool → Prop where
  | unknown {d : Datum} : facts.get? name = none → Stops name d (.ok false)
  | notFound {s fact : String} {finds : String → Bool} : facts.get? name = some fact →
      matcher s = .ok finds → finds fact = false → Stops name (.text s) (.ok false)
  | noText {d : Datum} {fact : String} : facts.get? name = some fact → (∀ s, d ≠ .text s) →
      Stops name d (.error (badPattern name d))
  | noPattern {s fact reason : String} : facts.get? name = some fact →
      matcher s = .error reason → Stops name (.text s)
        (.error (.parse ("condition pattern for '" ++ name ++ "'") reason))

/-- A condition is met if everything it asks holds; otherwise the smallest name
of what does not hold decides, and what the larger ones ask does not matter. -/
inductive Evaluates (fields : List (String × Datum)) : Except Failure Bool → Prop where
  | met : (∀ name d, field? fields name = some d → name ≠ valueName → Holds matcher facts name d) →
      Evaluates fields (.ok true)
  | stopped {name : String} {d : Datum} {r : Except Failure Bool} :
      field? fields name = some d → name ≠ valueName →
      (∀ name' d', name' < name → field? fields name' = some d' → name' ≠ valueName →
        Holds matcher facts name' d') →
      Stops matcher facts name d r → Evaluates fields r

variable {matcher} {facts}

theorem allFound_of_holds {front : List (String × Datum)}
    (h : ∀ name d, (name, d) ∈ front → name ≠ valueName → Holds matcher facts name d)
    (back : List (String × Datum)) :
    allFound matcher facts (front ++ back) = allFound matcher facts back := by
  induction front with
  | nil => rfl
  | cons p front ih =>
    obtain ⟨name, d⟩ := p
    have hrest := ih fun n e hm => h n e (List.mem_cons_of_mem _ hm)
    rw [List.cons_append, allFound]
    split
    · exact hrest
    · next hname =>
      obtain ⟨s, finds, fact, rfl, hread, hfact, hfound⟩ := h name d (List.mem_cons_self ..) hname
      simp [hfact, found, hread, hfound, hrest]

theorem allFound_of_stops {name : String} {d : Datum} {r : Except Failure Bool}
    (hname : name ≠ valueName) (h : Stops matcher facts name d r) (back : List (String × Datum)) :
    allFound matcher facts ((name, d) :: back) = r := by
  rw [allFound, if_neg hname]
  cases h with
  | unknown hfact => simp [hfact]
  | notFound hfact hread hfound => simp [hfact, found, hread, hfound]
  | noText hfact hd =>
    cases d with
    | text s => exact absurd rfl (hd s)
    | _ => simp [hfact, found]
  | noPattern hfact hread => simp [hfact, found, hread]

theorem holds_or_stops (matcher : Matcher) (facts : Facts) (name : String)
    (d : Datum) : Holds matcher facts name d ∨ ∃ r, Stops matcher facts name d r := by
  cases hfact : facts.get? name with
  | none => exact .inr ⟨_, .unknown hfact⟩
  | some fact =>
    cases d with
    | text s =>
      cases hread : matcher s with
      | error reason => exact .inr ⟨_, .noPattern hfact hread⟩
      | ok finds =>
        cases hfound : finds fact with
        | true => exact .inl ⟨s, finds, fact, rfl, hread, hfact, hfound⟩
        | false => exact .inr ⟨_, .notFound hfact hread hfound⟩
    | _ => exact .inr ⟨_, .noText hfact (by simp)⟩

theorem met_of_evaluates {fields : List (String × Datum)} {r : Except Failure Bool}
    (h : Evaluates matcher facts fields r) : met matcher facts fields = r := by
  unfold met
  cases h with
  | met hall =>
    rw [← List.append_nil (Dict.ofList fields).entries, allFound_of_holds]
    · rfl
    · exact fun name d hm => hall name d ((Dict.mem_entries_iff ..).mp hm)
  | stopped hd hname hfront hstops =>
    obtain ⟨front, back, hentries⟩ := Dict.split_of_get? hd
    rw [hentries, allFound_of_holds, allFound_of_stops hname hstops]
    intro name' d' hm
    obtain ⟨hd', hlt⟩ := (Dict.mem_front_iff hentries name' d').mp hm
    exact hfront name' d' hlt hd'

variable (matcher) (facts) in
theorem evaluates_met (fields : List (String × Datum)) :
    Evaluates matcher facts fields (met matcher facts fields) := by
  obtain ⟨r, hr⟩ : ∃ r, Evaluates matcher facts fields r := by
    rcases all_or_first (fun p => p.1 ≠ valueName → Holds matcher facts p.1 p.2)
        (Dict.ofList fields).entries with hall | ⟨front, ⟨name, d⟩, back, hentries, hfront, hfirst⟩
    · exact ⟨_, .met fun name d hd => hall (name, d) ((Dict.mem_entries_iff ..).mpr hd)⟩
    · obtain ⟨hname, hnot⟩ := Classical.not_imp.mp hfirst
      obtain ⟨r, hstops⟩ := (holds_or_stops matcher facts name d).resolve_left hnot
      have hd : field? fields name = some d := (Dict.mem_entries_iff ..).mp (hentries ▸ by simp)
      refine ⟨r, .stopped hd hname (fun name' d' hlt hd' => ?_) hstops⟩
      exact hfront (name', d') ((Dict.mem_front_iff hentries name' d').mpr ⟨hd', hlt⟩)
  rwa [met_of_evaluates hr]

/-! ### What a datum gives -/

variable (matcher) (facts) in
/-- The condition is well formed, has a value and is not met. -/
def PassedOver (c : Datum) : Prop :=
  ∃ fields d, c = .table fields ∧ field? fields valueName = some d ∧
    Evaluates matcher facts fields (.ok false)

variable (matcher) (facts) in
/-- What is wrong with a condition. -/
inductive Malformed : Datum → Failure → Prop where
  | noTable {c : Datum} : (∀ fields, c ≠ .table fields) →
      Malformed c (.config ("Condition must be a dictionary but got " ++ c.kindName))
  | noValue {fields : List (String × Datum)} : field? fields valueName = none →
      Malformed (.table fields) (.config "Missing mandatory \"value\" key from condition")
  | pattern {fields : List (String × Datum)} {d : Datum} {f : Failure} :
      field? fields valueName = some d → Evaluates matcher facts fields (.error f) →
      Malformed (.table fields) f

variable (matcher) (facts) in
/-- A plain value gives itself, a list of conditions what the value of the first
one gives that is met. -/
inductive Gives : Datum → Except Failure Datum → Prop where
  | plain {d : Datum} : Plain d → Gives d (.ok d)
  | notPlain {d : Datum} : ¬ Plain d → (∀ conditions, d ≠ .list conditions) →
      Gives d (.error (.config ("Conditions must be an array but got " ++ d.kindName)))
  | first {before rest : List Datum} {fields : List (String × Datum)} {d : Datum}
      {r : Except Failure Datum} : (∀ c ∈ before, PassedOver matcher facts c) →
      Evaluates matcher facts fields (.ok true) → field? fields valueName = some d → Gives d r →
      Gives (.list (before ++ .table fields :: rest)) r
  | malformed {before rest : List Datum} {c : Datum} {f : Failure} :
      (∀ c ∈ before, PassedOver matcher facts c) → Malformed matcher facts c f →
      Gives (.list (before ++ c :: rest)) (.error f)
  | noneMet {conditions : List Datum} : (∀ c ∈ conditions, PassedOver matcher facts c) →
      Gives (.list conditions) (.error (.config "Condition did not match any external vars"))

variable (matcher) (facts) in
/-- The datum gives this value. -/
def Resolves (d v : Datum) : Prop := Gives matcher facts d (.ok v)

theorem resolve_of_plain {d : Datum} (h : Plain d) : resolve matcher facts d = .ok d := by
  cases d with
  | null => simp [Plain, Datum.kindName] at h
  | list conditions => simp [Plain, Datum.kindName] at h
  | table fields => simp [Plain, Datum.kindName] at h
  | _ => rfl

theorem choose_of_passedOver {before : List Datum} (h : ∀ c ∈ before, PassedOver matcher facts c)
    (rest : List Datum) : choose matcher facts (before ++ rest) = choose matcher facts rest := by
  induction before with
  | nil => rfl
  | cons c before ih =>
    obtain ⟨fields, d, rfl, hvalue, hmet⟩ := h _ (List.mem_cons_self ..)
    have hhas : hasValue fields = true := (hasValue_iff fields).mpr ⟨d, hvalue⟩
    rw [List.cons_append, choose, if_pos hhas, met_of_evaluates hmet]
    exact ih fun c hc => h c (List.mem_cons_of_mem _ hc)

theorem choose_of_malformed {c : Datum} {f : Failure} (h : Malformed matcher facts c f)
    (rest : List Datum) : choose matcher facts (c :: rest) = .error f := by
  cases h with
  | noTable hc =>
    cases c with
    | table fields => exact absurd rfl (hc fields)
    | _ => rfl
  | noValue hvalue =>
    rename_i fields
    have hhas : ¬ hasValue fields = true := by
      rw [hasValue_iff, hvalue]
      simp
    rw [choose, if_neg hhas]
  | pattern hvalue hmet =>
    rw [choose, if_pos ((hasValue_iff _).mpr ⟨_, hvalue⟩), met_of_evaluates hmet]

/-- The value of a condition is what it has under the name of the value. -/
theorem valueOf_eq {fields : List (String × Datum)} {d : Datum}
    (h : field? fields valueName = some d) :
    valueOf matcher facts fields = resolve matcher facts d := by
  induction fields with
  | nil => cases h
  | cons p rest ih =>
    obtain ⟨name, e⟩ := p
    rw [field?_valueName_cons] at h
    rw [valueOf]
    split at h
    · next hlast =>
      cases h
      rw [if_pos hlast]
    · next hlast =>
      rw [if_neg hlast]
      exact ih h

/-- The computation follows the rules. -/
theorem resolve_of_gives {d : Datum} {r : Except Failure Datum} (h : Gives matcher facts d r) :
    resolve matcher facts d = r := by
  induction h with
  | plain hd => exact resolve_of_plain hd
  | notPlain hd hlist =>
    rename_i d
    cases d with
    | list conditions => exact absurd rfl (hlist conditions)
    | null => rfl
    | table fields => rfl
    | _ => exact absurd (by simp [Plain, Datum.kindName]) hd
  | first hbefore hmet hvalue _ ih =>
    rw [resolve, choose_of_passedOver hbefore, choose, if_pos ((hasValue_iff _).mpr ⟨_, hvalue⟩),
      met_of_evaluates hmet, ← ih]
    exact valueOf_eq hvalue
  | malformed hbefore hc =>
    rw [resolve, choose_of_passedOver hbefore, choose_of_malformed hc]
  | noneMet hall =>
    rename_i conditions
    rw [resolve, ← List.append_nil conditions, choose_of_passedOver hall]
    rfl

mutual

theorem gives_resolve : ∀ d : Datum, Gives matcher facts d (resolve matcher facts d)
  | .list conditions => gives_choose [] conditions (by simp)
  | .null => .notPlain (by simp [Plain, Datum.kindName]) (by simp)
  | .table _ => .notPlain (by simp [Plain, Datum.kindName]) (by simp)
  | .bool _ => .plain (.inr (.inr rfl))
  | .int _ => .plain (.inr (.inl rfl))
  | .float _ => .plain (.inr (.inl rfl))
  | .text _ => .plain (.inl rfl)
  | .moment _ => .plain (.inl rfl)
  | .unreadable => .plain (.inl rfl)

/-- The conditions in front have all been passed over. -/
theorem gives_choose : ∀ (before conditions : List Datum),
    (∀ c ∈ before, PassedOver matcher facts c) →
    Gives matcher facts (.list (before ++ conditions)) (choose matcher facts conditions)
  | before, [], h => by
    rw [List.append_nil]
    exact .noneMet h
  | before, .table fields :: rest, h => by
    rw [choose]
    have hmet := evaluates_met matcher facts fields
    cases hvalue : field? fields valueName with
    | none =>
      rw [if_neg (by simp [hasValue_iff, hvalue])]
      exact .malformed h (.noValue hvalue)
    | some d =>
      rw [if_pos ((hasValue_iff fields).mpr ⟨d, hvalue⟩)]
      split
      · next heq => exact .first h (heq ▸ hmet) hvalue (gives_valueOf fields d hvalue)
      · next heq =>
        rw [List.append_cons]
        refine gives_choose (before ++ [.table fields]) rest fun c hc => ?_
        rcases List.mem_append.mp hc with hc | hc
        · exact h c hc
        · exact ⟨fields, d, List.mem_singleton.mp hc, hvalue, heq ▸ hmet⟩
      · next f heq => exact .malformed h (.pattern hvalue (heq ▸ hmet))
  | before, .null :: rest, h => .malformed h (.noTable (by simp))
  | before, .bool _ :: rest, h => .malformed h (.noTable (by simp))
  | before, .int _ :: rest, h => .malformed h (.noTable (by simp))
  | before, .float _ :: rest, h => .malformed h (.noTable (by simp))
  | before, .text _ :: rest, h => .malformed h (.noTable (by simp))
  | before, .moment _ :: rest, h => .malformed h (.noTable (by simp))
  | before, .list _ :: rest, h => .malformed h (.noTable (by simp))
  | before, .unreadable :: rest, h => .malformed h (.noTable (by simp))

theorem gives_valueOf : ∀ (fields : List (String × Datum)) (d : Datum),
    field? fields valueName = some d → Gives matcher facts d (valueOf matcher facts fields)
  | [], _, h => by cases h
  | (name, e) :: rest, d, h => by
    rw [field?_valueName_cons] at h
    rw [valueOf]
    split at h
    · next hlast =>
      cases h
      rw [if_pos hlast]
      exact gives_resolve e
    · next hlast =>
      rw [if_neg hlast]
      exact gives_valueOf rest d h

end

theorem gives_iff {d : Datum} {r : Except Failure Datum} :
    Gives matcher facts d r ↔ resolve matcher facts d = r :=
  ⟨resolve_of_gives, fun h => h ▸ gives_resolve d⟩

/-- What a datum gives is a plain part of it. -/
theorem plain_of_resolves {d v : Datum} (h : Resolves matcher facts d v) :
    Plain v ∧ Within v d := by
  unfold Resolves at h
  generalize hr : Except.ok v = r at h
  induction h with
  | plain hd =>
    cases hr
    exact ⟨hd, .self⟩
  | first hbefore hmet hvalue _ ih =>
    obtain ⟨hplain, hwithin⟩ := ih hr
    exact ⟨hplain, .item (by simp) (.field (mem_of_field? hvalue) hwithin)⟩
  | notPlain => cases hr
  | malformed => cases hr
  | noneMet => cases hr

/-! ### Documents -/

theorem resolveEach_cons (name : String) (d : Datum) (rest : List (String × Datum)) :
    resolveEach matcher facts ((name, d) :: rest) =
      (resolve matcher facts d).bind fun v =>
        (resolveEach matcher facts rest).map ((name, v) :: ·) := by
  rw [resolveEach]
  cases resolve matcher facts d with
  | error f => rfl
  | ok v => cases resolveEach matcher facts rest <;> rfl

/-- Every entry is given its value, in order. -/
theorem resolveEach_of_all {l : List (String × Datum)}
    (h : ∀ p ∈ l, ∃ v, Resolves matcher facts p.2 v) :
    ∃ values, resolveEach matcher facts l = .ok values ∧ values.map (·.1) = l.map (·.1) ∧
      ∀ q ∈ values, ∃ d, (q.1, d) ∈ l ∧ Resolves matcher facts d q.2 := by
  induction l with
  | nil => exact ⟨[], rfl, rfl, by simp⟩
  | cons p rest ih =>
    obtain ⟨name, d⟩ := p
    obtain ⟨v, hv⟩ := h _ (List.mem_cons_self ..)
    obtain ⟨values, hrest, hnames, hvalues⟩ := ih fun q hq => h q (List.mem_cons_of_mem _ hq)
    refine ⟨(name, v) :: values, ?_, by simp [hnames], fun q hq => ?_⟩
    · rw [resolveEach_cons, gives_iff.mp hv, hrest]
      rfl
    · rcases List.mem_cons.mp hq with rfl | hq
      · exact ⟨d, List.mem_cons_self .., hv⟩
      · obtain ⟨e, he, hq⟩ := hvalues q hq
        exact ⟨e, List.mem_cons_of_mem _ he, hq⟩

theorem resolveEach_of_plain {l : List (String × Datum)} (h : ∀ p ∈ l, Plain p.2) :
    resolveEach matcher facts l = .ok l := by
  induction l with
  | nil => rfl
  | cons p rest ih =>
    rw [resolveEach_cons, resolve_of_plain (h p (List.mem_cons_self ..)),
      ih fun q hq => h q (List.mem_cons_of_mem _ hq)]
    rfl

/-- The first entry that gives a failure ends it. -/
theorem resolveEach_of_first {front back : List (String × Datum)} {name : String} {d : Datum}
    {f : Failure} (hfront : ∀ p ∈ front, ∃ v, Resolves matcher facts p.2 v)
    (hd : Gives matcher facts d (.error f)) :
    resolveEach matcher facts (front ++ (name, d) :: back) = .error f := by
  induction front with
  | nil =>
    rw [List.nil_append, resolveEach_cons, gives_iff.mp hd]
    rfl
  | cons p front ih =>
    obtain ⟨v, hv⟩ := hfront p (List.mem_cons_self ..)
    rw [List.cons_append, resolveEach_cons, gives_iff.mp hv,
      ih fun q hq => hfront q (List.mem_cons_of_mem _ hq)]
    rfl

variable (matcher) (facts) in
/-- Each name of the table has the value that its entry gives, and resolving the
values again, whatever is known then, changes nothing. -/
structure Resolved (fields : List (String × Datum)) (out : Dict Datum) : Prop where
  names : ∀ name, (∃ v, out.get? name = some v) ↔ name ∈ fields.map (·.1)
  values : ∀ name v, out.get? name = some v →
    ∃ d, field? fields name = some d ∧ Resolves matcher facts d v ∧ Plain v ∧ Within v d
  again : ∀ facts', ofDatum matcher facts' (.table out.entries) = .ok out

variable (matcher) (facts) in
/-- The failure is what the entry of the smallest name gives, by the bytes of the
names, among those that give one. -/
def FailsFirst (fields : List (String × Datum)) (f : Failure) : Prop :=
  ∃ name d, field? fields name = some d ∧ Gives matcher facts d (.error f) ∧
    ∀ name' d', field? fields name' = some d' →
      (Utf8.encode name').data.toList < (Utf8.encode name).data.toList →
      ∃ v, Resolves matcher facts d' v

theorem ofDatum_of_all {fields : List (String × Datum)}
    (h : ∀ name d, field? fields name = some d → ∃ v, Resolves matcher facts d v) :
    ∃ out, ofDatum matcher facts (.table fields) = .ok out ∧ Resolved matcher facts fields out := by
  obtain ⟨values, heach, hnames, hvalues⟩ :=
    resolveEach_of_all fun p hp => h p.1 p.2 ((Dict.mem_entries_iff ..).mp hp)
  have hascending : values.Pairwise (·.1 < ·.1) :=
    List.pairwise_map.mp (hnames ▸ List.pairwise_map.mpr (Dict.ofList fields).ascending)
  have hentries : (Dict.ofList values).entries = values := Dict.entries_ofList hascending
  have hplain : ∀ name v, (name, v) ∈ values →
      ∃ d, field? fields name = some d ∧ Resolves matcher facts d v ∧ Plain v ∧ Within v d := by
    intro name v hv
    obtain ⟨d, hd, hresolves⟩ := hvalues _ hv
    exact ⟨d, (Dict.mem_entries_iff ..).mp hd, hresolves, plain_of_resolves hresolves⟩
  refine ⟨Dict.ofList values, ?_, fun name => ?_, fun name v hv => ?_, fun facts' => ?_⟩
  · rw [ofDatum, heach]
    rfl
  · rw [← Dict.mem_keys_iff, hentries, hnames, Dict.mem_keys_iff, ← Option.isSome_iff_exists,
      Dict.isSome_get?_ofList_iff]
  · rw [← Dict.mem_entries_iff, hentries] at hv
    exact hplain name v hv
  · rw [ofDatum, Dict.ofList_entries, resolveEach_of_plain, hentries]
    · rfl
    · intro p hp
      rw [hentries] at hp
      obtain ⟨-, -, -, hp, -⟩ := hplain p.1 p.2 hp
      exact hp

theorem ofDatum_of_failsFirst {fields : List (String × Datum)} {f : Failure}
    (h : FailsFirst matcher facts fields f) : ofDatum matcher facts (.table fields) = .error f := by
  obtain ⟨name, d, hd, hgives, hfirst⟩ := h
  obtain ⟨front, back, hentries⟩ := Dict.split_of_get? hd
  rw [ofDatum, hentries, resolveEach_of_first ?_ hgives]
  · rfl
  · intro p hp
    obtain ⟨hp, hlt⟩ := (Dict.mem_front_iff hentries p.1 p.2).mp hp
    exact hfirst p.1 p.2 hp ((Utf8.encode_lt_iff ..).mpr hlt)

variable (matcher) (facts) in
theorem all_or_failsFirst (fields : List (String × Datum)) :
    (∀ name d, field? fields name = some d → ∃ v, Resolves matcher facts d v) ∨
      ∃ f, FailsFirst matcher facts fields f := by
  rcases all_or_first (fun p => ∃ v, Resolves matcher facts p.2 v) (Dict.ofList fields).entries with
    hall | ⟨front, ⟨name, d⟩, back, hentries, hfront, hnone⟩
  · exact .inl fun name d hd => hall (name, d) ((Dict.mem_entries_iff ..).mpr hd)
  · cases hd : resolve matcher facts d with
    | ok v => exact absurd ⟨v, gives_iff.mpr hd⟩ hnone
    | error f =>
      refine .inr ⟨f, name, d, (Dict.mem_entries_iff ..).mp (hentries ▸ by simp),
        gives_iff.mpr hd, fun name' d' hd' hlt => ?_⟩
      exact hfront (name', d')
        ((Dict.mem_front_iff hentries name' d').mpr ⟨hd', (Utf8.encode_lt_iff ..).mp hlt⟩)

variable (matcher) (facts) in
/-- **A document has variables if and only if it is a table each of whose entries
resolves.** They are then what the entries give; otherwise the failure is that of
the smallest name. -/
theorem variables_resolve (d : Datum) :
    ((∃ out, ofDatum matcher facts d = .ok out) ↔
      ∃ fields, d = .table fields ∧
        ∀ name e, field? fields name = some e → ∃ v, Resolves matcher facts e v) ∧
    ∀ fields, d = .table fields →
      (∀ out, ofDatum matcher facts d = .ok out → Resolved matcher facts fields out) ∧
        ∀ f, ofDatum matcher facts d = .error f ↔ FailsFirst matcher facts fields f := by
  refine ⟨⟨?_, ?_⟩, ?_⟩
  · rintro ⟨out, hout⟩
    cases d with
    | table fields =>
      rcases all_or_failsFirst matcher facts fields with hall | ⟨f, hf⟩
      · exact ⟨fields, rfl, hall⟩
      · cases hout.symm.trans (ofDatum_of_failsFirst hf)
    | _ => cases hout
  · rintro ⟨fields, rfl, hall⟩
    obtain ⟨out, hout, -⟩ := ofDatum_of_all hall
    exact ⟨out, hout⟩
  · rintro fields rfl
    refine ⟨fun out hout => ?_, fun f => ⟨fun hf => ?_, ofDatum_of_failsFirst⟩⟩
    · rcases all_or_failsFirst matcher facts fields with hall | ⟨f, hf⟩
      · obtain ⟨out', hout', resolved⟩ := ofDatum_of_all hall
        cases hout.symm.trans hout'
        exact resolved
      · cases hout.symm.trans (ofDatum_of_failsFirst hf)
    · rcases all_or_failsFirst matcher facts fields with hall | ⟨f', hf'⟩
      · obtain ⟨out, hout, -⟩ := ofDatum_of_all hall
        cases hf.symm.trans hout
      · cases hf.symm.trans (ofDatum_of_failsFirst hf')
        exact hf'

end

end DeviceLab.Variables
