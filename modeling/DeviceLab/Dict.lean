/-! Dictionaries: finite maps from names to values, in the order of their names.

The entries are kept strictly ascending, so a dictionary is determined by what
it answers (`Dict.ext_get?`), and listing it needs no sorting. -/
namespace DeviceLab

/-- A finite map from texts, its entries strictly ascending by key. -/
structure Dict (α : Type) where
  entries : List (String × α)
  ascending : entries.Pairwise (·.1 < ·.1)

namespace Dict
variable {α β : Type}

def empty : Dict α :=
  ⟨[], .nil⟩

instance : EmptyCollection (Dict α) := ⟨empty⟩
instance : Inhabited (Dict α) := ⟨empty⟩

/-! ### Lookup -/

def find (k : String) : List (String × α) → Option α
  | [] => none
  | (k', v) :: rest => if k' = k then some v else find k rest

/-- The value under the key. -/
def get? (d : Dict α) (k : String) : Option α :=
  find k d.entries

def contains (d : Dict α) (k : String) : Bool :=
  (d.get? k).isSome

def keys (d : Dict α) : List String :=
  d.entries.map (·.1)

/-! ### Insertion -/

/-- Puts the pair in its place; a pair with the same key gives way. -/
def place (k : String) (v : α) : List (String × α) → List (String × α)
  | [] => [(k, v)]
  | (k', v') :: rest =>
    if k < k' then (k, v) :: (k', v') :: rest
    else if k = k' then (k, v) :: rest
    else (k', v') :: place k v rest

theorem mem_place {k : String} {v : α} {l : List (String × α)} {p : String × α}
    (h : p ∈ place k v l) : p = (k, v) ∨ p ∈ l := by
  induction l with
  | nil => simpa [place] using h
  | cons e rest ih =>
    obtain ⟨k', v'⟩ := e
    simp only [place] at h
    split at h
    · simpa using h
    · split at h
      · rcases List.mem_cons.mp h with h | h
        · exact .inl h
        · exact .inr (List.mem_cons_of_mem _ h)
      · rcases List.mem_cons.mp h with h | h
        · exact .inr (h ▸ List.mem_cons_self ..)
        · rcases ih h with h | h
          · exact .inl h
          · exact .inr (List.mem_cons_of_mem _ h)

theorem ascending_place (k : String) (v : α) {l : List (String × α)}
    (h : l.Pairwise (·.1 < ·.1)) : (place k v l).Pairwise (·.1 < ·.1) := by
  induction l with
  | nil => simp [place]
  | cons e rest ih =>
    obtain ⟨k', v'⟩ := e
    obtain ⟨hk, hrest⟩ := List.pairwise_cons.mp h
    simp only [place]
    split
    · next hlt =>
      refine List.pairwise_cons.mpr ⟨fun p hp => ?_, h⟩
      rcases List.mem_cons.mp hp with rfl | hp
      · exact hlt
      · exact String.lt_trans hlt (hk p hp)
    · next hnlt =>
      split
      · next heq => exact List.pairwise_cons.mpr ⟨fun p hp => heq ▸ hk p hp, hrest⟩
      · next hne =>
        refine List.pairwise_cons.mpr ⟨fun p hp => ?_, ih hrest⟩
        rcases mem_place hp with rfl | hp
        · exact String.not_le.mp fun hle =>
            hne (String.le_antisymm hle (String.not_lt.mp hnlt))
        · exact hk p hp

/-- The dictionary with the value under the key, whatever stood there. -/
def insert (d : Dict α) (k : String) (v : α) : Dict α :=
  ⟨place k v d.entries, ascending_place k v d.ascending⟩

/-- Of the pairs with one key the last stays. -/
def ofList (pairs : List (String × α)) : Dict α :=
  pairs.foldl (fun d p => d.insert p.1 p.2) empty

/-- The same keys with other values. -/
def map (f : α → β) (d : Dict α) : Dict β :=
  ⟨d.entries.map fun p => (p.1, f p.2), by
    simpa [List.pairwise_map] using d.ascending⟩

/-! ### What insertion answers -/

theorem find_place (k : String) (v : α) (l : List (String × α)) (k' : String)
    (h : l.Pairwise (·.1 < ·.1)) :
    find k' (place k v l) = if k = k' then some v else find k' l := by
  induction l with
  | nil => simp [place, find]
  | cons e rest ih =>
    obtain ⟨a, b⟩ := e
    obtain ⟨_, hrest⟩ := List.pairwise_cons.mp h
    simp only [place]
    split
    · simp [find]
    · split
      · next heq =>
        subst heq
        by_cases hk : k = k' <;> simp [find, hk]
      · next hne =>
        by_cases ha : a = k'
        · subst ha
          simp [find, hne]
        · simp [find, ha, ih hrest]

theorem get?_insert (d : Dict α) (k : String) (v : α) (k' : String) :
    (d.insert k v).get? k' = if k = k' then some v else d.get? k' :=
  find_place k v d.entries k' d.ascending

theorem get?_empty (k : String) : (empty : Dict α).get? k = none := rfl

theorem find_of_mem {l : List (String × α)} (h : l.Pairwise (·.1 < ·.1)) {k : String} {v : α}
    (hm : (k, v) ∈ l) : find k l = some v := by
  induction l with
  | nil => cases hm
  | cons e rest ih =>
    obtain ⟨a, b⟩ := e
    obtain ⟨ha, hrest⟩ := List.pairwise_cons.mp h
    rcases List.mem_cons.mp hm with heq | hm
    · cases heq
      simp [find]
    · have hlt : a < k := ha _ hm
      have hne : a ≠ k := fun heq => String.lt_irrefl k (heq ▸ hlt)
      simp [find, hne, ih hrest hm]

theorem mem_of_find {l : List (String × α)} {k : String} {v : α} (h : find k l = some v) :
    (k, v) ∈ l := by
  induction l with
  | nil => cases h
  | cons e rest ih =>
    obtain ⟨a, b⟩ := e
    simp only [find] at h
    split at h
    · next heq =>
      cases h
      exact heq ▸ List.mem_cons_self ..
    · exact List.mem_cons_of_mem _ (ih h)

theorem mem_entries_iff (d : Dict α) (k : String) (v : α) :
    (k, v) ∈ d.entries ↔ d.get? k = some v :=
  ⟨find_of_mem d.ascending, mem_of_find⟩

theorem eq_of_mem_iff {l m : List (String × α)} (hl : l.Pairwise (·.1 < ·.1))
    (hm : m.Pairwise (·.1 < ·.1)) (h : ∀ p, p ∈ l ↔ p ∈ m) : l = m := by
  induction l generalizing m with
  | nil =>
    cases m with
    | nil => rfl
    | cons p rest => exact absurd ((h p).mpr (List.mem_cons_self ..)) List.not_mem_nil
  | cons p l ih =>
    cases m with
    | nil => exact absurd ((h p).mp (List.mem_cons_self ..)) List.not_mem_nil
    | cons q m =>
      obtain ⟨hp, hl'⟩ := List.pairwise_cons.mp hl
      obtain ⟨hq, hm'⟩ := List.pairwise_cons.mp hm
      have hpq : p = q := by
        rcases List.mem_cons.mp ((h p).mp (List.mem_cons_self ..)) with he | hpm
        · exact he
        · rcases List.mem_cons.mp ((h q).mpr (List.mem_cons_self ..)) with he | hql
          · exact he.symm
          · exact absurd (String.lt_trans (hp q hql) (hq p hpm)) (String.lt_irrefl _)
      subst hpq
      refine congrArg (p :: ·) (ih hl' hm' fun r => ⟨fun hr => ?_, fun hr => ?_⟩)
      · rcases List.mem_cons.mp ((h r).mp (List.mem_cons_of_mem _ hr)) with he | hr'
        · exact absurd (he ▸ hp r hr) (String.lt_irrefl _)
        · exact hr'
      · rcases List.mem_cons.mp ((h r).mpr (List.mem_cons_of_mem _ hr)) with he | hr'
        · exact absurd (he ▸ hq r hr) (String.lt_irrefl _)
        · exact hr'

/-- Two dictionaries that answer alike are equal. -/
theorem ext_get? {d e : Dict α} (h : ∀ k, d.get? k = e.get? k) : d = e := by
  obtain ⟨l, hl⟩ := d
  obtain ⟨m, hm⟩ := e
  have : l = m := eq_of_mem_iff hl hm fun p => by
    have := mem_entries_iff ⟨l, hl⟩ p.1 p.2
    rw [h, ← mem_entries_iff] at this
    exact this
  subst this
  rfl

end Dict
end DeviceLab
