import DeviceLab.Proofs.Tree
import DeviceLab.Trial.Runner

/-! Work step by step.

Work goes on from one part to the next as long as nothing fails. What every part
keeps between the state before and the state after, the whole keeps, whether it
fails or not (`Keeps`). -/
namespace DeviceLab.Work

section
variable {S ε α β : Type}

theorem bind_apply (w : ExceptT ε (StateM S) α) (f : α → ExceptT ε (StateM S) β)
    (s : S) :
    (w >>= f) s =
      match w s with
      | (.ok a, s') => f a s'
      | (.error e, s') => (.error e, s') := by
  simp only [bind, ExceptT.bind, ExceptT.mk, StateT.bind]
  rcases w s with ⟨r | a, s'⟩ <;> rfl

theorem bind_of_ok {w : ExceptT ε (StateM S) α} {f : α → ExceptT ε (StateM S) β}
    {s s' : S} {a : α} (h : w s = (.ok a, s')) : (w >>= f) s = f a s' := by
  rw [bind_apply, h]

theorem bind_of_error {w : ExceptT ε (StateM S) α}
    {f : α → ExceptT ε (StateM S) β} {s s' : S} {e : ε} (h : w s = (.error e, s')) :
    (w >>= f) s = (.error e, s') := by
  rw [bind_apply, h]

/-- Work in two parts succeeds only if both do. -/
theorem bind_eq_ok {w : ExceptT ε (StateM S) α} {f : α → ExceptT ε (StateM S) β}
    {s t : S} {b : β} (h : (w >>= f) s = (.ok b, t)) :
    ∃ a s', w s = (.ok a, s') ∧ f a s' = (.ok b, t) := by
  rw [bind_apply] at h
  split at h
  · next a s' hw => exact ⟨a, s', hw, h⟩
  · cases h

/-! ### What all parts keep -/

/-- Whatever comes of the work, the relation holds from the state before to the state after. -/
def Keeps (R : S → S → Prop) (w : ExceptT Failure (StateM S) α) : Prop :=
  ∀ s, R s (w s).2

variable {R : S → S → Prop}

theorem keeps_pure (refl : ∀ s, R s s) (a : α) :
    Keeps R (pure a : ExceptT Failure (StateM S) α) :=
  fun s => refl s

theorem Keeps.bind (trans : ∀ s t u, R s t → R t u → R s u) {w : ExceptT Failure (StateM S) α}
    {f : α → ExceptT Failure (StateM S) β} (hw : Keeps R w) (hf : ∀ a, Keeps R (f a)) :
    Keeps R (w >>= f) := by
  intro s
  have first := hw s
  rw [bind_apply]
  split
  · next a s' h =>
    rw [h] at first
    exact trans _ _ _ first (hf a s')
  · next e s' h =>
    rw [h] at first
    exact first

end

/-! ### Changes to the files -/

theorem change_of_ok {op : Tree → Place → Except OsError Tree} {h : Host} {t : Tree}
    (hop : op h.tree h.cwd = .ok t) : change op h = (.ok (), h.withTree t) := by
  simp [change, Host.change, hop, ofOs]

theorem change_of_error {op : Tree → Place → Except OsError Tree} {h : Host} {e : OsError}
    (hop : op h.tree h.cwd = .error e) : change op h = (.error (.io e.text), h) := by
  simp [change, Host.change, hop, ofOs]

theorem change_eq_ok {op : Tree → Place → Except OsError Tree} {h h' : Host} {u : Unit}
    (hc : change op h = (.ok u, h')) : ∃ t, op h.tree h.cwd = .ok t ∧ h' = h.withTree t := by
  cases hop : op h.tree h.cwd with
  | error e =>
    rw [change_of_error hop] at hc
    cases hc
  | ok t =>
    rw [change_of_ok hop] at hc
    cases hc
    exact ⟨t, rfl, rfl⟩

/-- A change is made, or is refused and changes nothing. -/
theorem change_cases (op : Tree → Place → Except OsError Tree) (h : Host) :
    (∃ e : OsError, change op h = (.error (.io e.text), h)) ∨
      ∃ t, op h.tree h.cwd = .ok t ∧ change op h = (.ok (), h.withTree t) := by
  cases hop : op h.tree h.cwd with
  | error e => exact .inl ⟨e, change_of_error hop⟩
  | ok t => exact .inr ⟨t, rfl, change_of_ok hop⟩

/-- A change changes the files only. -/
theorem change_host (op : Tree → Place → Except OsError Tree) (h : Host) :
    (change op h).2 = { h with tree := (change op h).2.tree } := by
  cases hop : op h.tree h.cwd with
  | error e => rw [change_of_error hop]
  | ok t =>
    rw [change_of_ok hop]
    unfold Host.withTree
    split <;> rfl

/-- A change keeps what the operation keeps, and what a process keeps that can do nothing
any more. -/
theorem keeps_change {R : Host → Host → Prop} (refl : ∀ h, R h h)
    {op : Tree → Place → Except OsError Tree}
    (hop : ∀ (h : Host) (t : Tree), op h.tree h.cwd = .ok t → R h { h with tree := t }) :
    Keeps R (change op) := by
  intro h
  cases hres : op h.tree h.cwd with
  | error e =>
    rw [change_of_error hres]
    exact refl h
  | ok t =>
    rw [change_of_ok hres]
    unfold Host.withTree
    split
    · exact hop h t hres
    · exact refl h

/-- A change that puts one file in its place touches nothing else. -/
theorem change_alike {op : Tree → Place → Except OsError Tree} {h : Host} {p : Place}
    (sound : h.tree.Sound)
    (hop : ∀ t, op h.tree h.cwd = .ok t → h.tree.Open p ∧ ∃ e, t = h.tree.put p e) :
    let h' := (change op h).2
    h'.cwd = h.cwd ∧ h'.tree.Sound ∧ h.tree.Alike (· = p) h'.tree := by
  cases hres : op h.tree h.cwd with
  | error e =>
    rw [change_of_error hres]
    exact ⟨rfl, sound, .refl _ _⟩
  | ok t =>
    obtain ⟨hopen, e, rfl⟩ := hop t hres
    rw [change_of_ok hres]
    unfold Host.withTree
    split
    · exact ⟨rfl, sound.put hopen.parent hopen.free, Tree.alike_put _ _ _⟩
    · exact ⟨rfl, sound, .refl _ _⟩

end DeviceLab.Work

namespace DeviceLab.WorkWith
variable {σ α : Type}

theorem host_result (w : Work α) (s : σ) (h : Host) : (WorkWith.host w (s, h)).1 = (w h).1 := rfl

theorem host_after (w : Work α) (s : σ) (h : Host) : (WorkWith.host w (s, h)).2.2 = (w h).2 := rfl

end DeviceLab.WorkWith

namespace DeviceLab.Host

@[simp] theorem withTree_cwd (h : Host) (t : Tree) : (h.withTree t).cwd = h.cwd := by
  unfold withTree
  split <;> rfl

@[simp] theorem withTree_alive (h : Host) (t : Tree) : (h.withTree t).alive = h.alive := by
  unfold withTree
  split <;> rfl

theorem withTree_of_alive {h : Host} (alive : h.alive = true) (t : Tree) :
    h.withTree t = { h with tree := t } := by
  simp [withTree, alive]

theorem withTree_of_dead {h : Host} (dead : h.alive = false) (t : Tree) : h.withTree t = h := by
  simp [withTree, dead]

end DeviceLab.Host
