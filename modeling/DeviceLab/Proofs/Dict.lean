import DeviceLab.Dict
import Mathlib.Data.List.Induction

/-! What dictionaries are made of.

Of the pairs a dictionary is made from, the last of each key stays
(`get?_ofList`); pairs whose keys ascend already are its entries as they are
(`entries_ofList`). Whatever stands in front of an entry is what has a smaller
key (`mem_front_iff`). -/
namespace DeviceLab.Dict
variable {α : Type}

/-! ### Lookup in lists -/

theorem find_append (k : String) (l m : List (String × α)) :
    find k (l ++ m) = (find k l).or (find k m) := by
  induction l with
  | nil => rfl
  | cons p l ih =>
    by_cases h : p.1 = k
    · simp [find, h]
    · simp [find, h, ih]

theorem find_isSome_iff (k : String) (l : List (String × α)) :
    (find k l).isSome = true ↔ ∃ p ∈ l, p.1 = k := by
  induction l with
  | nil => simp [find]
  | cons p l ih =>
    by_cases h : p.1 = k
    · simp [find, h]
    · simp [find, h, ih]

/-! ### Dictionaries from pairs -/

theorem ofList_concat (pairs : List (String × α)) (p : String × α) :
    ofList (pairs ++ [p]) = (ofList pairs).insert p.1 p.2 := by
  simp [ofList, List.foldl_append]

/-- Of the pairs with one key the last counts. -/
theorem get?_ofList (pairs : List (String × α)) (k : String) :
    (ofList pairs).get? k = find k pairs.reverse := by
  induction pairs using List.reverseRecOn with
  | nil => rfl
  | append_singleton pairs p ih =>
    rw [ofList_concat, get?_insert, ih, List.reverse_append]
    rfl

/-- A pair counts if no later one has its key. -/
theorem get?_ofList_cons (p : String × α) (pairs : List (String × α)) (k : String) :
    (ofList (p :: pairs)).get? k =
      ((ofList pairs).get? k).or (if p.1 = k then some p.2 else none) := by
  rw [get?_ofList, get?_ofList, List.reverse_cons, find_append]
  rfl

theorem isSome_get?_ofList_iff (pairs : List (String × α)) (k : String) :
    ((ofList pairs).get? k).isSome = true ↔ k ∈ pairs.map (·.1) := by
  rw [get?_ofList, find_isSome_iff]
  simp

/-- Under a key is what the last of its pairs says. -/
theorem get?_ofList_eq_some_iff {pairs : List (String × α)} {k : String} {v : α} :
    (ofList pairs).get? k = some v ↔
      ∃ front back, pairs = front ++ (k, v) :: back ∧ k ∉ back.map (·.1) := by
  induction pairs with
  | nil => simp [ofList, get?_empty]
  | cons p pairs ih =>
    rw [get?_ofList_cons, Option.or_eq_some_iff, ih]
    constructor
    · rintro (⟨front, back, rfl, hback⟩ | ⟨hnone, hp⟩)
      · exact ⟨p :: front, back, rfl, hback⟩
      · obtain ⟨rfl, rfl⟩ : p.1 = k ∧ p.2 = v := by simpa using hp
        refine ⟨[], pairs, rfl, fun hk => ?_⟩
        rw [← isSome_get?_ofList_iff, hnone] at hk
        cases hk
    · rintro ⟨front, back, hpairs, hback⟩
      cases front with
      | nil =>
        obtain ⟨rfl, rfl⟩ := List.cons.inj hpairs
        refine .inr ⟨Option.not_isSome_iff_eq_none.mp fun hk => hback ?_, if_pos rfl⟩
        exact (isSome_get?_ofList_iff pairs k).mp hk
      | cons q front =>
        obtain ⟨-, rfl⟩ := List.cons.inj hpairs
        exact .inl ⟨front, back, rfl, hback⟩

theorem mem_keys_iff (d : Dict α) (k : String) :
    k ∈ d.entries.map (·.1) ↔ ∃ v, d.get? k = some v := by
  rw [← Option.isSome_iff_exists, get?, find_isSome_iff]
  simp

theorem place_above {k : String} {v : α} {l : List (String × α)} (h : ∀ p ∈ l, p.1 < k) :
    place k v l = l ++ [(k, v)] := by
  induction l with
  | nil => rfl
  | cons p l ih =>
    have hp : p.1 < k := h p (List.mem_cons_self ..)
    have hnot : ¬ k < p.1 := fun hk => String.lt_irrefl k (String.lt_trans hk hp)
    have hne : k ≠ p.1 := fun hk => String.lt_irrefl k (hk ▸ hp)
    rw [place, if_neg hnot, if_neg hne, ih fun q hq => h q (List.mem_cons_of_mem _ hq)]
    rfl

/-- Pairs in ascending order are kept as they are. -/
theorem entries_ofList {l : List (String × α)} (h : l.Pairwise (·.1 < ·.1)) :
    (ofList l).entries = l := by
  induction l using List.reverseRecOn with
  | nil => rfl
  | append_singleton l p ih =>
    obtain ⟨hl, -, hp⟩ := List.pairwise_append.mp h
    rw [ofList_concat]
    change place p.1 p.2 (ofList l).entries = _
    rw [ih hl]
    exact place_above fun q hq => hp q hq p (List.mem_singleton_self p)

theorem ofList_entries (d : Dict α) : ofList d.entries = d := by
  have h := entries_ofList d.ascending
  cases d
  cases hd : ofList _ with
  | mk entries ascending =>
    rw [hd] at h
    subst h
    rfl

/-- Among pairs with different keys each is found. -/
theorem find_eq_some_iff {l : List (String × α)} (h : (l.map (·.1)).Nodup) {k : String} {v : α} :
    find k l = some v ↔ (k, v) ∈ l := by
  refine ⟨mem_of_find, fun hm => ?_⟩
  induction l with
  | nil => cases hm
  | cons p l ih =>
    obtain ⟨hp, hl⟩ := List.nodup_cons.mp h
    rcases List.mem_cons.mp hm with rfl | hm
    · simp [find]
    · have hne : p.1 ≠ k := fun heq => hp (List.mem_map.mpr ⟨_, hm, heq.symm⟩)
      rw [find, if_neg hne, ih hl hm]

/-- The entries make the dictionary again, in whatever order they are put in. -/
theorem ofList_of_perm {d : Dict α} {pairs : List (String × α)} (h : pairs.Perm d.entries) :
    ofList pairs = d := by
  have hkeys : (d.entries.map (·.1)).Nodup :=
    List.pairwise_map.mpr (d.ascending.imp fun hlt => String.ne_of_lt hlt)
  have hperm : pairs.reverse.Perm d.entries := (List.reverse_perm _).trans h
  have hnodup : (pairs.reverse.map (·.1)).Nodup := (hperm.map _).nodup_iff.mpr hkeys
  refine ext_get? fun k => Option.ext fun v => ?_
  rw [get?_ofList, find_eq_some_iff hnodup, hperm.mem_iff, mem_entries_iff]

/-! ### Entries in their order -/

/-- In front of an entry are the entries with smaller keys. -/
theorem mem_front_iff {d : Dict α} {front back : List (String × α)} {k : String} {v : α}
    (h : d.entries = front ++ (k, v) :: back) (k' : String) (v' : α) :
    (k', v') ∈ front ↔ d.get? k' = some v' ∧ k' < k := by
  have hascending := d.ascending
  rw [h, List.pairwise_append, List.pairwise_cons] at hascending
  obtain ⟨-, ⟨hback, -⟩, hfront⟩ := hascending
  rw [← mem_entries_iff, h]
  constructor
  · intro hm
    exact ⟨List.mem_append_left _ hm, hfront _ hm _ (List.mem_cons_self ..)⟩
  · rintro ⟨hm, hlt⟩
    rcases List.mem_append.mp hm with hm | hm
    · exact hm
    · rcases List.mem_cons.mp hm with heq | hm
      · cases heq
        exact absurd hlt (String.lt_irrefl k)
      · exact absurd (String.lt_trans hlt (hback _ hm)) (String.lt_irrefl k')

/-- What is under a key stands somewhere among the entries. -/
theorem split_of_get? {d : Dict α} {k : String} {v : α} (h : d.get? k = some v) :
    ∃ front back, d.entries = front ++ (k, v) :: back :=
  List.append_of_mem ((mem_entries_iff d k v).mpr h)

end DeviceLab.Dict
