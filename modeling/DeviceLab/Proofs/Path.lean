import DeviceLab.Files.Path
import DeviceLab.Proofs.Text

/-! The steps of joined paths.

A path joined to another one, unless it is absolute, leads on from where the
other one leads: its steps come behind the other's (`steps_join`). What a path
ends with is the last of its steps (`fileName_join`). -/
namespace DeviceLab.Path

/-! ### Joined paths -/

theorem toList_join {base rest : String} (hr : isAbsolute rest = false) (hb : base ≠ "") :
    (join base rest).toList =
      if endsInSlash base then base.toList ++ rest.toList
      else base.toList ++ '/' :: rest.toList := by
  have hb' : base.isEmpty = false := by simpa [String.isEmpty_iff] using hb
  simp only [join, hr, hb', Bool.or_self, Bool.false_eq_true, if_false]
  split <;> simp [String.toList_append]

theorem join_empty (rest : String) : join "" rest = rest := by
  simp [join]

theorem isAbsolute_join {base rest : String} (hr : isAbsolute rest = false) :
    isAbsolute (join base rest) = isAbsolute base := by
  by_cases hb : base = ""
  · subst hb
    rw [join_empty, hr]
    rfl
  · obtain ⟨c, cs, hcs⟩ := List.exists_cons_of_ne_nil (l := base.toList) (by simpa using hb)
    unfold isAbsolute
    rw [toList_join hr hb, hcs]
    split <;> rfl

/-- The bytes of a joined path: a slash stands between the two unless one is there already. -/
theorem utf8ByteSize_join {base rest : String} (hr : isAbsolute rest = false) (hb : base ≠ "") :
    (join base rest).utf8ByteSize =
      base.utf8ByteSize + (if endsInSlash base then 0 else 1) + rest.utf8ByteSize := by
  have hb' : base.isEmpty = false := by simpa [String.isEmpty_iff] using hb
  simp only [join, hr, hb', Bool.or_self, Bool.false_eq_true, if_false]
  split
  · simp [String.utf8ByteSize_append]
  · have hslash : "/".utf8ByteSize = 1 := by decide
    simp [String.utf8ByteSize_append, hslash]

theorem join_ne_empty {base rest : String} (hne : rest ≠ "") : join base rest ≠ "" := by
  unfold join
  split
  · exact hne
  split <;> simp [hne]

/-- A joined path ends in a slash only if what it is joined with does. -/
theorem endsInSlash_join {base rest : String} (hne : rest ≠ "") :
    endsInSlash (join base rest) = endsInSlash rest := by
  obtain ⟨c, hlast⟩ : ∃ c, rest.toList.getLast? = some c :=
    ⟨_, List.getLast?_eq_some_getLast (by simpa using hne)⟩
  unfold join
  split
  · rfl
  split <;> simp [endsInSlash, String.toList_append, List.getLast?_cons, hlast]

theorem steps_append_slash (base rest : String) :
    ((Text.cutAll (· == '/') (base.toList ++ '/' :: rest.toList)).map String.ofList).filter
        (!·.isEmpty) = steps base ++ steps rest := by
  rw [Text.cutAll_append_cons (by rfl), List.map_append, List.filter_append]
  rfl

/-- The steps of a relative path follow those of the path it is joined to. -/
theorem steps_join {base rest : String} (hr : isAbsolute rest = false) :
    steps (join base rest) = steps base ++ steps rest := by
  by_cases hb : base = ""
  · subst hb
    rw [join_empty]
    rfl
  · unfold steps Text.pieces
    rw [toList_join hr hb]
    split
    · next hslash =>
      -- The slash at the end leaves an empty piece behind it, which is no step.
      have hlast : base.toList.getLast? = some '/' := by simpa [endsInSlash] using hslash
      obtain ⟨front, hfront⟩ := List.getLast?_eq_some_iff.mp hlast
      rw [hfront, List.append_assoc, List.singleton_append,
        Text.cutAll_append_cons (by rfl), Text.cutAll_append_cons (by rfl)]
      simp [Text.cutAll]
    · exact steps_append_slash base rest

theorem not_slash_of_mem_steps {path step : String} (h : step ∈ steps path) :
    '/' ∉ step.toList := by
  simp only [steps, Text.pieces, List.mem_filter, List.mem_map] at h
  obtain ⟨⟨piece, hpiece, rfl⟩, -⟩ := h
  intro hmem
  have := Text.not_sep_of_mem_cutAll hpiece '/' (by simpa using hmem)
  simp at this

theorem isAbsolute_of_name {name : String} (hslash : '/' ∉ name.toList) :
    isAbsolute name = false := by
  unfold isAbsolute
  cases hlist : name.toList with
  | nil => rfl
  | cons c cs =>
    rw [hlist] at hslash
    simpa using fun h : c = '/' => hslash (h ▸ List.mem_cons_self ..)

theorem endsInSlash_of_name {name : String} (hslash : '/' ∉ name.toList) :
    endsInSlash name = false := by
  simpa [endsInSlash] using fun h => hslash (List.mem_of_getLast? h)

/-- A name is a step of its own. -/
theorem steps_of_name {name : String} (hne : name ≠ "") (hslash : '/' ∉ name.toList) :
    steps name = [name] := by
  have hcut : Text.cutAll (· == '/') name.toList = [name.toList] :=
    Text.cutAll_of_none fun c hc => by
      simp only [beq_eq_false_iff_ne]
      rintro rfl
      exact hslash hc
  have hempty : name.isEmpty = false := by simpa [String.isEmpty_iff] using hne
  simp [steps, Text.pieces, hcut, hempty]

/-- A text without slashes behind a path goes on with its last step. -/
theorem steps_append (path : String) :
    ∃ front last, ∀ suffix : String, suffix ≠ "" → '/' ∉ suffix.toList →
      steps (path ++ suffix) = front ++ [last ++ suffix] := by
  obtain ⟨front, last, hcut⟩ := Text.cutAll_append_of_none (· == '/') path.toList
  refine ⟨(front.map String.ofList).filter (!·.isEmpty), String.ofList last, fun suffix hne h => ?_⟩
  have hsuffix : ∀ c ∈ suffix.toList, (c == '/') = false := fun c hc => by
    simp only [beq_eq_false_iff_ne]
    rintro rfl
    exact h hc
  have hlast : (String.ofList last ++ suffix).isEmpty = false := by
    simp [hne]
  have hpiece : String.ofList (last ++ suffix.toList) = String.ofList last ++ suffix := by
    simp [String.ofList_append]
  rw [steps, Text.pieces, String.toList_append, hcut _ hsuffix, List.map_append,
    List.filter_append, List.map_singleton, hpiece]
  simp [hlast]

/-- Such a text does not make a path absolute. -/
theorem isAbsolute_append (path : String) {suffix : String} (hslash : '/' ∉ suffix.toList) :
    isAbsolute (path ++ suffix) = isAbsolute path := by
  by_cases hpath : path = ""
  · subst hpath
    rw [String.empty_append, isAbsolute_of_name hslash]
    rfl
  · obtain ⟨c, cs, hcs⟩ := List.exists_cons_of_ne_nil (l := path.toList) (by simpa using hpath)
    simp [isAbsolute, String.toList_append, hcs]

/-! ### The last component -/

theorem mem_steps_of_mem_components {path step : String} (h : step ∈ components path) :
    step ∈ steps path := by
  unfold components at h
  split at h
  · simp at h
  · next first rest hsteps =>
    rw [hsteps]
    split at h
    · exact List.mem_cons_of_mem _ (List.mem_filter.mp h).1
    · rcases List.mem_cons.mp h with rfl | h
      · exact List.mem_cons_self ..
      · exact List.mem_cons_of_mem _ (List.mem_filter.mp h).1

/-- The name at the end of a path holds no slash. -/
theorem not_slash_fileName (path : String) : '/' ∉ ((fileName path).getD "").toList := by
  cases hname : fileName path with
  | none => simp
  | some name =>
    obtain ⟨hlast, -⟩ := Option.filter_eq_some_iff.mp hname
    exact not_slash_of_mem_steps
      (mem_steps_of_mem_components (List.mem_of_getLast? hlast))

theorem getLast?_components {path name : String} {front : List String}
    (hsteps : steps path = front ++ [name]) (hdot : name ≠ ".") :
    (components path).getLast? = some name := by
  unfold components
  cases front with
  | nil => simp [hsteps, hdot]
  | cons first rest =>
    rw [hsteps]
    simp only [List.cons_append, List.filter_append]
    have hname : [name].filter (· != ".") = [name] := by simp [hdot]
    rw [hname]
    split
    · exact List.getLast?_concat
    · rw [← List.cons_append]
      exact List.getLast?_concat

/-- A joined path ends with the name it is joined with. -/
theorem fileName_join {base name : String} (hne : name ≠ "") (hslash : '/' ∉ name.toList)
    (hdot : name ≠ ".") (hup : name ≠ "..") : fileName (join base name) = some name := by
  have hrel : isAbsolute name = false := isAbsolute_of_name hslash
  have hsteps : steps (join base name) = steps base ++ [name] := by
    rw [steps_join hrel, steps_of_name hne hslash]
  simp [fileName, getLast?_components hsteps hdot, hdot, hup]

/-! ### Characters -/

theorem not_mem_join {c : Char} {base rest : String} (hc : c ≠ '/') (hbase : c ∉ base.toList)
    (hrest : c ∉ rest.toList) : c ∉ (join base rest).toList := by
  unfold join
  split
  · exact hrest
  · split <;> simp [String.toList_append, hbase, hrest, hc]

theorem mem_join {c : Char} {base rest : String} (hr : isAbsolute rest = false)
    (h : c ∈ base.toList) : c ∈ (join base rest).toList := by
  have hb : base ≠ "" := by
    rintro rfl
    simp at h
  rw [toList_join hr hb]
  split <;> simp [h]

/-! ### Absolute paths along names -/

theorem isAbsolute_ofNames (names : List String) : isAbsolute (ofNames names) = true := by
  simp [isAbsolute, ofNames, String.toList_append]

theorem ofNames_ne_empty (names : List String) : ofNames names ≠ "" := by
  simp [ofNames]

theorem cutAll_join {names : List String} (hne : names ≠ [])
    (hslash : ∀ name ∈ names, '/' ∉ name.toList) :
    Text.cutAll (· == '/') (Text.join "/" names).toList = names.map String.toList := by
  induction names with
  | nil => exact absurd rfl hne
  | cons name rest ih =>
    have hname : Text.cutAll (· == '/') name.toList = [name.toList] :=
      Text.cutAll_of_none fun c hc => by
        simp only [beq_eq_false_iff_ne]
        rintro rfl
        exact hslash name (List.mem_cons_self ..) hc
    cases rest with
    | nil => simpa [Text.join] using hname
    | cons next more =>
      have hrest := ih (by simp) fun n h => hslash n (List.mem_cons_of_mem _ h)
      have hjoin : (Text.join "/" (name :: next :: more)).toList =
          name.toList ++ '/' :: (Text.join "/" (next :: more)).toList := by
        simp [Text.join, String.toList_append]
      rw [hjoin, Text.cutAll_append_cons rfl, hname, hrest]
      rfl

/-- The steps of the absolute path along names are the names. -/
theorem steps_ofNames {names : List String} (hne : ∀ name ∈ names, name ≠ "")
    (hslash : ∀ name ∈ names, '/' ∉ name.toList) : steps (ofNames names) = names := by
  have hfirst : (ofNames names).toList = [] ++ '/' :: (Text.join "/" names).toList := by
    simp [ofNames, String.toList_append]
  by_cases hnil : names = []
  · subst hnil
    decide
  · rw [steps, Text.pieces, hfirst, Text.cutAll_append_cons rfl, cutAll_join hnil hslash]
    simpa [Text.cutAll] using hne

end DeviceLab.Path
