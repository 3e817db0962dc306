import DeviceLab.Dialogue

/-! Courses of dialogues.

A course is one path through a dialogue: the questions in order, each with the
reply it was given, and the value at the end. What holds of every course holds
however the surroundings behave (`course_run`). The course of a dialogue in two
parts is a course of the first with a course of the second behind it. -/
namespace DeviceLab.Dialogue
variable {Q : Type} {Reply : Q → Type} {α β ε σ : Type}

/-- A question and the reply to it. -/
abbrev Exchange (Reply : Q → Type) := (q : Q) × Reply q

/-- One way a dialogue may go. -/
inductive Course : Dialogue Q Reply α → List (Exchange Reply) → α → Prop where
  | done (a : α) : Course (.done a) [] a
  | ask {q : Q} {next : Reply q → Dialogue Q Reply α} {log : List (Exchange Reply)} {a : α}
      (r : Reply q) : Course (next r) log a → Course (.ask q next) (⟨q, r⟩ :: log) a

/-- What is asked and answered when a state gives the replies. -/
def exchanges (answer : (q : Q) → σ → Reply q × σ) :
    Dialogue Q Reply α → σ → List (Exchange Reply)
  | .done _, _ => []
  | .ask q next, s => ⟨q, (answer q s).1⟩ :: exchanges answer (next (answer q s).1) (answer q s).2

/-- Whatever gives the replies, the dialogue takes one of its courses. -/
theorem course_run (answer : (q : Q) → σ → Reply q × σ) (d : Dialogue Q Reply α) (s : σ) :
    Course d (d.exchanges answer s) (d.run answer s).1 := by
  induction d generalizing s with
  | done a => exact .done a
  | ask q next ih => exact .ask _ (ih _ _)

/-- What is made of the value at the end asks nothing. -/
theorem exchanges_map (answer : (q : Q) → σ → Reply q × σ) (f : α → β) (d : Dialogue Q Reply α)
    (s : σ) : (f <$> d).exchanges answer s = d.exchanges answer s := by
  induction d generalizing s with
  | done a => rfl
  | ask q next ih => exact congrArg _ (ih _ _)

theorem run_map (answer : (q : Q) → σ → Reply q × σ) (f : α → β) (d : Dialogue Q Reply α) (s : σ) :
    (f <$> d).run answer s = (f (d.run answer s).1, (d.run answer s).2) :=
  run_bind answer d (fun a => .done (f a)) s

/-- The second part is asked from where the first has led. -/
theorem exchanges_bind (answer : (q : Q) → σ → Reply q × σ) (d : Dialogue Q Reply α)
    (f : α → Dialogue Q Reply β) (s : σ) :
    (d >>= f).exchanges answer s =
      d.exchanges answer s ++ (f (d.run answer s).1).exchanges answer (d.run answer s).2 := by
  induction d generalizing s with
  | done a => rfl
  | ask q next ih => exact congrArg _ (ih _ _)

theorem course_done_iff {a b : α} {log : List (Exchange Reply)} :
    Course (.done a : Dialogue Q Reply α) log b ↔ log = [] ∧ b = a := by
  constructor
  · intro h
    cases h
    exact ⟨rfl, rfl⟩
  · rintro ⟨rfl, rfl⟩
    exact .done b

theorem course_question_iff {q : Q} {log : List (Exchange Reply)} {r : Reply q} :
    Course (question q) log r ↔ log = [⟨q, r⟩] := by
  constructor
  · intro h
    cases h with
    | ask r h =>
      cases h
      rfl
  · rintro rfl
    exact .ask r (.done r)

theorem course_bind_iff {d : Dialogue Q Reply α} {f : α → Dialogue Q Reply β}
    {log : List (Exchange Reply)} {b : β} :
    Course (d >>= f) log b ↔
      ∃ before a after, log = before ++ after ∧ Course d before a ∧ Course (f a) after b := by
  induction d generalizing log with
  | done a =>
    constructor
    · intro h
      exact ⟨[], a, log, rfl, .done a, h⟩
    · rintro ⟨before, a', after, rfl, h, h'⟩
      cases h
      exact h'
  | ask q next ih =>
    constructor
    · intro h
      cases h with
      | ask r h =>
        obtain ⟨before, a, after, rfl, h, h'⟩ := (ih r).mp h
        exact ⟨⟨q, r⟩ :: before, a, after, rfl, .ask r h, h'⟩
    · rintro ⟨before, a, after, rfl, h, h'⟩
      cases h with
      | ask r h => exact .ask r ((ih r).mpr ⟨_, a, after, rfl, h, h'⟩)

theorem course_map_iff {f : α → β} {d : Dialogue Q Reply α} {log : List (Exchange Reply)} {b : β} :
    Course (f <$> d) log b ↔ ∃ a, Course d log a ∧ b = f a := by
  rw [map_eq_pure_bind, course_bind_iff]
  constructor
  · rintro ⟨before, a, after, rfl, h, h'⟩
    obtain ⟨rfl, rfl⟩ := course_done_iff.mp h'
    exact ⟨a, by simpa using h, rfl⟩
  · rintro ⟨a, h, rfl⟩
    exact ⟨log, a, [], by simp, h, .done _⟩

/-! ### Dialogues that may fail -/

variable {s : ExceptT ε (Dialogue Q Reply) α} {f : α → ExceptT ε (Dialogue Q Reply) β}

/-- The second part takes its course only if the first does not fail. -/
theorem course_try_iff {log : List (Exchange Reply)} {b : Except ε β} :
    Course (s >>= f).run log b ↔
      (∃ e, b = .error e ∧ Course s.run log (.error e)) ∨
      ∃ before a after, log = before ++ after ∧ Course s.run before (.ok a) ∧
        Course (f a).run after b := by
  rw [ExceptT.run_bind, course_bind_iff]
  constructor
  · rintro ⟨before, r, after, rfl, h, h'⟩
    cases r with
    | error e =>
      obtain ⟨rfl, rfl⟩ := course_done_iff.mp h'
      exact .inl ⟨e, rfl, by simpa using h⟩
    | ok a => exact .inr ⟨before, a, after, rfl, h, h'⟩
  · rintro (⟨e, rfl, h⟩ | ⟨before, a, after, rfl, h, h'⟩)
    · exact ⟨log, .error e, [], by simp, h, .done _⟩
    · exact ⟨before, .ok a, after, rfl, h, h'⟩

theorem course_pure_iff {a : α} {log : List (Exchange Reply)} {b : Except ε α} :
    Course (pure a : ExceptT ε (Dialogue Q Reply) α).run log b ↔ log = [] ∧ b = .ok a :=
  course_done_iff

theorem course_throw_iff {e : ε} {log : List (Exchange Reply)} {b : Except ε α} :
    Course (throw e : ExceptT ε (Dialogue Q Reply) α).run log b ↔ log = [] ∧ b = .error e :=
  course_done_iff

/-- A part that cannot fail is always followed by the next. -/
theorem course_lift_bind_iff {d : Dialogue Q Reply α} {log : List (Exchange Reply)}
    {b : Except ε β} :
    Course (ExceptT.lift d >>= f).run log b ↔
      ∃ before a after, log = before ++ after ∧ Course d before a ∧ Course (f a).run after b := by
  rw [ExceptT.run_bind_lift]
  exact course_bind_iff

/-- One question whose reply cannot be a failure. -/
theorem course_ask_iff {q : Q} {f : Reply q → ExceptT ε (Dialogue Q Reply) β}
    {log : List (Exchange Reply)} {b : Except ε β} :
    Course (ExceptT.lift (question q) >>= f).run log b ↔
      ∃ r rest, log = ⟨q, r⟩ :: rest ∧ Course (f r).run rest b := by
  rw [course_lift_bind_iff]
  constructor
  · rintro ⟨before, r, after, rfl, h, h'⟩
    obtain rfl := course_question_iff.mp h
    exact ⟨r, after, rfl, h'⟩
  · rintro ⟨r, rest, rfl, h⟩
    exact ⟨[⟨q, r⟩], r, rest, rfl, course_question_iff.mpr rfl, h⟩

/-! ### Dialogues that a state answers -/

/-- When a state gives the replies, this is asked and answered, and the dialogue ends with
the value and leaves the state so. -/
structure Goes (answer : (q : Q) → σ → Reply q × σ) (d : Dialogue Q Reply α) (t : σ)
    (log : List (Exchange Reply)) (a : α) (u : σ) : Prop where
  exchanges_eq : d.exchanges answer t = log
  run_eq : d.run answer t = (a, u)

section
variable {answer : (q : Q) → σ → Reply q × σ} {t u v : σ} {log later : List (Exchange Reply)}
  {x : Except ε β}

theorem Goes.bind {d : Dialogue Q Reply α} {g : α → Dialogue Q Reply β} {a : α} {b : β}
    (h : d.Goes answer t log a u) (rest : (g a).Goes answer u later b v) :
    (d >>= g).Goes answer t (log ++ later) b v where
  exchanges_eq := by rw [exchanges_bind, h.exchanges_eq, h.run_eq, rest.exchanges_eq]
  run_eq := by
    refine (run_bind answer d g t).trans ?_
    rw [h.run_eq]
    exact rest.run_eq

theorem goes_pure {a : α} :
    Goes answer (pure a : ExceptT ε (Dialogue Q Reply) α).run t [] (.ok a) t :=
  ⟨rfl, rfl⟩

theorem goes_question {q : Q} {r : Reply q} (h : answer q t = (r, u)) :
    (question q).Goes answer t [⟨q, r⟩] r u := by
  obtain rfl : (answer q t).1 = r := congrArg Prod.fst h
  exact ⟨rfl, h⟩

/-- A question whose reply cannot be a failure is followed by what the reply leads to. -/
theorem Goes.ask {q : Q} {r : Reply q} {f : Reply q → ExceptT ε (Dialogue Q Reply) β}
    (h : answer q t = (r, u)) (rest : (f r).run.Goes answer u later x v) :
    (ExceptT.lift (question q) >>= f).run.Goes answer t (⟨q, r⟩ :: later) x v := by
  rw [ExceptT.run_bind_lift]
  exact (goes_question h).bind rest

/-- A part that goes well is followed by the next. -/
theorem Goes.ok {a : α} (h : s.run.Goes answer t log (.ok a) u)
    (rest : (f a).run.Goes answer u later x v) :
    (s >>= f).run.Goes answer t (log ++ later) x v := by
  rw [ExceptT.run_bind]
  exact h.bind rest

/-- Nothing follows a part that fails. -/
theorem Goes.error {e : ε} (h : s.run.Goes answer t log (.error e) u) :
    (s >>= f).run.Goes answer t log (.error e) u := by
  rw [ExceptT.run_bind, ← List.append_nil log]
  exact h.bind ⟨rfl, rfl⟩

end

/-! ### What may be asked -/

/-- No question of another kind is asked, whatever the replies. -/
def Asks (kind : Q → Prop) : Dialogue Q Reply α → Prop
  | .done _ => True
  | .ask q next => kind q ∧ ∀ r, (next r).Asks kind

section
variable {kind : Q → Prop}

theorem Asks.of_course {d : Dialogue Q Reply α} {log : List (Exchange Reply)} {a : α}
    (h : d.Asks kind) (hcourse : Course d log a) : ∀ x ∈ log, kind x.1 := by
  induction hcourse with
  | done a => simp
  | ask r _ ih => exact List.forall_mem_cons.mpr ⟨h.1, ih (h.2 r)⟩

theorem Asks.mono {more : Q → Prop} {d : Dialogue Q Reply α} (h : d.Asks kind)
    (hmore : ∀ q, kind q → more q) : d.Asks more := by
  induction d with
  | done a => trivial
  | ask q next ih => exact ⟨hmore q h.1, fun r => ih r (h.2 r)⟩

theorem asks_question {q : Q} (h : kind q) : (question q : Dialogue Q Reply _).Asks kind :=
  ⟨h, fun _ => trivial⟩

/-- The second part has only to follow on what the first can come to. -/
theorem asks_bind_of_course {d : Dialogue Q Reply α} {f : α → Dialogue Q Reply β}
    (h : d.Asks kind) (hf : ∀ log a, Course d log a → (f a).Asks kind) : (d >>= f).Asks kind := by
  induction d with
  | done a => exact hf [] a (.done a)
  | ask q next ih => exact ⟨h.1, fun r => ih r (h.2 r) fun _ a hc => hf _ a (.ask r hc)⟩

theorem asks_bind {d : Dialogue Q Reply α} {f : α → Dialogue Q Reply β} (h : d.Asks kind)
    (hf : ∀ a, (f a).Asks kind) : (d >>= f).Asks kind :=
  asks_bind_of_course h fun _ a _ => hf a

theorem asks_try {s : ExceptT ε (Dialogue Q Reply) α} {f : α → ExceptT ε (Dialogue Q Reply) β}
    (h : Asks kind (ExceptT.run s)) (hf : ∀ a, Asks kind (ExceptT.run (f a))) :
    Asks kind (ExceptT.run (s >>= f)) := by
  rw [ExceptT.run_bind]
  refine asks_bind h fun r => ?_
  cases r with
  | error e => trivial
  | ok a => exact hf a

theorem asks_pure (a : α) : Asks kind (ExceptT.run (pure a : ExceptT ε (Dialogue Q Reply) α)) :=
  trivial

theorem asks_throw (e : ε) : Asks kind (ExceptT.run (throw e : ExceptT ε (Dialogue Q Reply) α)) :=
  trivial

theorem asks_lift {d : Dialogue Q Reply α} (h : d.Asks kind) :
    Asks kind (ExceptT.run (ExceptT.lift d : ExceptT ε (Dialogue Q Reply) α)) :=
  asks_bind h fun _ => trivial

end

/-! ### Loops -/

/-- A loop whose turns each end it or go through a round: there are rounds, and behind
them an end, or nothing once all turns are used up. -/
theorem rounds_course_iff {ι : Type} (loop : Nat → ExceptT ε (Dialogue Q Reply) α)
    {text : ι → List (Exchange Reply)} {fits : ι → Prop}
    {ends : List (Exchange Reply) → Except ε α → Prop} {spent : Except ε α}
    (zero : ∀ {log b}, Course (loop 0).run log b ↔ log = [] ∧ b = spent)
    (succ : ∀ {n log b}, Course (loop (n + 1)).run log b ↔
      ends log b ∨ ∃ round rest, fits round ∧ log = text round ++ rest ∧ Course (loop n).run rest b)
    {n : Nat} {log : List (Exchange Reply)} {b : Except ε α} :
    Course (loop n).run log b ↔
      ∃ (rounds : List ι) (final : List (Exchange Reply)), (∀ round ∈ rounds, fits round) ∧
        log = rounds.flatMap text ++ final ∧
        (rounds.length < n ∧ ends final b ∨ rounds.length = n ∧ final = [] ∧ b = spent) := by
  induction n generalizing log with
  | zero =>
    rw [zero]
    constructor
    · rintro ⟨rfl, rfl⟩
      exact ⟨[], [], by simp, rfl, .inr ⟨rfl, rfl, rfl⟩⟩
    · rintro ⟨rounds, final, -, rfl, ⟨hlt, -⟩ | ⟨hlen, rfl, rfl⟩⟩
      · exact absurd hlt (Nat.not_lt_zero _)
      · obtain rfl := List.length_eq_zero_iff.mp hlen
        exact ⟨rfl, rfl⟩
  | succ n ih =>
    rw [succ]
    constructor
    · rintro (hends | ⟨round, rest, hfits, rfl, hrest⟩)
      · exact ⟨[], log, by simp, rfl, .inl ⟨Nat.succ_pos n, hends⟩⟩
      · obtain ⟨rounds, final, hrounds, rfl, hfinal⟩ := ih.mp hrest
        refine ⟨round :: rounds, final, List.forall_mem_cons.mpr ⟨hfits, hrounds⟩, by simp, ?_⟩
        simpa using hfinal
    · rintro ⟨rounds, final, hrounds, rfl, hfinal⟩
      cases rounds with
      | nil =>
        rcases hfinal with ⟨-, hends⟩ | ⟨hlen, -⟩
        · exact .inl hends
        · cases hlen
      | cons round rounds =>
        obtain ⟨hfits, hrounds⟩ := List.forall_mem_cons.mp hrounds
        refine .inr ⟨round, rounds.flatMap text ++ final, hfits, by simp, ih.mpr ?_⟩
        exact ⟨rounds, final, hrounds, rfl, by simpa using hfinal⟩

/-! ### What becomes of the surroundings -/

/-- What surroundings are before and behind a log each of whose exchanges may move them so. -/
inductive Moves (step : σ → Exchange Reply → σ → Prop) : σ → List (Exchange Reply) → σ → Prop where
  | nil (s : σ) : Moves step s [] s
  | cons {s s' s'' : σ} {x : Exchange Reply} {log : List (Exchange Reply)} :
      step s x s' → Moves step s' log s'' → Moves step s (x :: log) s''

section
variable {step : σ → Exchange Reply → σ → Prop} {u u' u'' : σ}

theorem moves_nil_iff : Moves step u [] u' ↔ u' = u := by
  constructor
  · intro h
    cases h
    rfl
  · rintro rfl
    exact .nil u'

theorem moves_append_iff {a b : List (Exchange Reply)} :
    Moves step u (a ++ b) u'' ↔ ∃ u', Moves step u a u' ∧ Moves step u' b u'' := by
  induction a generalizing u with
  | nil => simp [moves_nil_iff]
  | cons x a ih =>
    constructor
    · intro h
      cases h with
      | cons hx hrest =>
        obtain ⟨u', ha, hb⟩ := ih.mp hrest
        exact ⟨u', .cons hx ha, hb⟩
    · rintro ⟨u', ha, hb⟩
      cases ha with
      | cons hx hrest => exact .cons hx (ih.mpr ⟨u', hrest, hb⟩)

theorem moves_singleton_iff {x : Exchange Reply} : Moves step u [x] u' ↔ step u x u' := by
  constructor
  · intro h
    cases h with
    | cons hx hrest => exact moves_nil_iff.mp hrest ▸ hx
  · exact fun h => .cons h (.nil u')

theorem Moves.mono {step' : σ → Exchange Reply → σ → Prop} {log : List (Exchange Reply)}
    (h : Moves step u log u') (hstep : ∀ {s x s'}, step s x s' → step' s x s') :
    Moves step' u log u' := by
  induction h with
  | nil s => exact .nil s
  | cons hx _ ih => exact .cons (hstep hx) ih

/-- What gives the replies is moved by them, if it is by each single one. -/
theorem moves_run {τ : Type} {answer : (q : Q) → τ → Reply q × τ} {view : τ → σ} {fit : τ → Prop}
    (keeps : ∀ q s, fit s → fit (answer q s).2)
    (moves : ∀ q s, fit s → step (view s) ⟨q, (answer q s).1⟩ (view (answer q s).2))
    (d : Dialogue Q Reply α) {s : τ} (h : fit s) :
    Moves step (view s) (d.exchanges answer s) (view (d.run answer s).2) := by
  induction d generalizing s with
  | done a => exact .nil _
  | ask q next ih => exact .cons (moves q s h) (ih _ (keeps q s h))

end

end DeviceLab.Dialogue
