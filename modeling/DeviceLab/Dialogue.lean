/-! Dialogues: computations that ask their surroundings.

A dialogue ends with a value or asks a question and goes on with the reply, so
it is a tree over all replies there could be. What holds of every path through
the tree holds whatever answers. `Dialogue.run` lets a state give the replies. -/
namespace DeviceLab

/-- A computation that asks questions `q : Q`, each with replies of its own type. -/
inductive Dialogue (Q : Type) (Reply : Q → Type) (α : Type) : Type where
  | done (a : α)
  | ask (q : Q) (next : Reply q → Dialogue Q Reply α)

namespace Dialogue
variable {Q : Type} {Reply : Q → Type} {α β γ σ : Type}

def bind (d : Dialogue Q Reply α) (f : α → Dialogue Q Reply β) : Dialogue Q Reply β :=
  match d with
  | .done a => f a
  | .ask q next => .ask q fun r => (next r).bind f

instance : Monad (Dialogue Q Reply) where
  pure := .done
  bind := .bind

theorem bind_done (d : Dialogue Q Reply α) : d.bind .done = d := by
  induction d with
  | done a => rfl
  | ask q next ih => simp [bind, ih]

theorem bind_assoc (d : Dialogue Q Reply α) (f : α → Dialogue Q Reply β)
    (g : β → Dialogue Q Reply γ) : (d.bind f).bind g = d.bind fun a => (f a).bind g := by
  induction d with
  | done a => rfl
  | ask q next ih => simp [bind, ih]

instance : LawfulMonad (Dialogue Q Reply) :=
  .mk' _ (fun d => bind_done d) (fun _ _ => rfl) (fun d f g => bind_assoc d f g)

/-- Asks one question and ends with the reply. -/
def question (q : Q) : Dialogue Q Reply (Reply q) :=
  .ask q .done

/-- The value at the end when a state gives the replies. -/
def run (answer : (q : Q) → σ → Reply q × σ) : Dialogue Q Reply α → σ → α × σ
  | .done a, s => (a, s)
  | .ask q next, s =>
    let (r, s) := answer q s
    (next r).run answer s

theorem run_bind (answer : (q : Q) → σ → Reply q × σ) (d : Dialogue Q Reply α)
    (f : α → Dialogue Q Reply β) (s : σ) :
    (d.bind f).run answer s = (f (d.run answer s).1).run answer (d.run answer s).2 := by
  induction d generalizing s with
  | done a => rfl
  | ask q next ih => simp [bind, run, ih]

end Dialogue
end DeviceLab
