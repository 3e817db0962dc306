import DeviceLab.Proofs.Attempt

/-! A discharge that has to be forced, and one that is only wished.

Both make the same attempt: the battery and the controller are looked for, the
controller is asked until it accepts, and the battery is looked at until it
discharges. What is found in the way is a failure of the one and a plain "no" of
the other, and that is all the difference there is (`required_as_wished`). -/
namespace DeviceLab.Device
open Dialogue

namespace Discharge

/-! ### What it asks -/

/-- Is it a look that failed, or one that showed a discharge? -/
def decisive : Exchange Request.Reply → Bool
  | ⟨.refreshBattery, r⟩ => !(show Except Failure Unit from r).isOk
  | ⟨.batteryDischarging, discharging⟩ => discharging
  | _ => false

/-- What an attempt asks, and how long. -/
structure Bounded (log : Log) : Prop where
  only : ∀ c, log.Ran c → c = charging false
  asks_le : log.replies.length ≤ 3
  /-- The controller is not asked again once it has accepted. -/
  asks_until : log.replies.Pairwise fun r _ => ∃ f, r = .error f
  /-- As long as it refuses it is asked as often as it may be. -/
  asks_on : log.replies ≠ [] → (∀ r ∈ log.replies, ∃ f, r = .error f) → log.replies.length = tries
  looks_le : log.looks.length ≤ 20
  /-- Nothing follows a look that failed or showed a discharge. -/
  looks_until : log.Pairwise fun x _ => decisive x = false
  /-- As long as the looks settle nothing, the battery is looked at as often as it may be. -/
  looks_on : (∃ out, .ok out ∈ log.replies) → (∀ x ∈ log, decisive x = false) →
    log.looks.length = looks

/-- What holds of everything in front may fail of the last one. -/
theorem pairwise_behind {α : Type} {p : α → Prop} {front rest : List α} (h : ∀ x ∈ front, p x)
    (hrest : rest.Pairwise fun x _ => p x) : (front ++ rest).Pairwise fun x _ => p x :=
  List.pairwise_append.mpr
    ⟨List.pairwise_of_forall_mem_list fun x hx _ _ => h x hx, hrest, fun x hx _ _ => h x hx⟩

section
variable {interval : Nat} {failures : List Failure}

/-- What a wait for a discharge asks, and how long. -/
structure Waited (wait : Log) : Prop where
  only : ∀ x ∈ wait, x.1 = .refreshBattery ∨ x.1 = .batteryDischarging ∨ ∃ span, x.1 = .pause span
  looks_le : wait.looks.length ≤ looks
  looks_until : wait.Pairwise fun x _ => decisive x = false
  looks_on : (∀ x ∈ wait, decisive x = false) → wait.looks.length = looks

/-- A look that settles the wait is the last one. -/
theorem Settles.last {log : Log} {r : Except Failure Bool} (h : Settles log r) :
    (∀ x ∈ log, x.1 = .refreshBattery ∨ x.1 = .batteryDischarging) ∧ log.looks.length = 1 ∧
      (log.Pairwise fun x _ => decisive x = false) ∧ ∃ x ∈ log, decisive x = true := by
  cases h with
  | failed f =>
    refine ⟨?_, rfl, List.pairwise_singleton .., _, List.mem_singleton_self _, rfl⟩
    simp [looked]
  | shown =>
    refine ⟨?_, rfl, .cons (fun _ _ => rfl) (List.pairwise_singleton ..), showed true, by simp, rfl⟩
    simp [looked, showed]

theorem waited {wait : Log} {seen : Except Failure Bool}
    (h : Course (ExceptT.run (awaitDischarge interval looks)) wait seen) : Waited wait := by
  obtain ⟨before, final, rfl, hfinal⟩ := awaitDischarge_course_iff.mp h
  have hvain : ∀ x ∈ before.flatMap fun _ => vain interval, decisive x = false ∧
      (x.1 = .refreshBattery ∨ x.1 = .batteryDischarging ∨ ∃ span, x.1 = .pause span) := by
    simp only [vain, List.mem_flatMap, List.mem_cons, List.not_mem_nil, or_false]
    rintro x ⟨-, -, rfl | rfl | rfl⟩
    · exact ⟨rfl, .inl rfl⟩
    · exact ⟨rfl, .inr (.inl rfl)⟩
    · exact ⟨rfl, .inr (.inr ⟨interval, rfl⟩)⟩
  have hlooks : (Log.looks (before.flatMap fun _ => vain interval)).length = before.length := by
    rw [Log.looks, List.filterMap_flatMap, List.length_flatMap]
    simp [vain, looked, showed, slept, List.map_const']
  rcases hfinal with ⟨hlt, hsettles⟩ | ⟨hlen, rfl, -⟩
  · obtain ⟨honly, hone, huntil, x, hx, hdecisive⟩ := hsettles.last
    refine ⟨fun y hy => ?_, ?_, pairwise_behind (fun y hy => (hvain y hy).1) huntil, fun hno => ?_⟩
    · rcases List.mem_append.mp hy with hy | hy
      · exact (hvain y hy).2
      · exact (honly y hy).imp_right .inl
    · rw [Log.looks_append, List.length_append, hlooks, hone]
      exact hlt
    · exact absurd (hdecisive.symm.trans (hno x (List.mem_append_right _ hx))) (by decide)
  · rw [List.append_nil]
    exact ⟨fun y hy => (hvain y hy).2, Nat.le_of_eq (hlooks.trans hlen),
      List.pairwise_of_forall_mem_list fun y hy _ _ => (hvain y hy).1, fun _ => hlooks.trans hlen⟩

theorem Waited.not_ran {wait : Log} (h : Waited wait) {x : Exchange Request.Reply} (hx : x ∈ wait)
    (c : Command) : x.1 ≠ .run c := by
  intro hc
  obtain hx | hx | ⟨span, hx⟩ := h.only x hx
  · cases hc.symm.trans hx
  · cases hc.symm.trans hx
  · cases hc.symm.trans hx

theorem Waited.replies_eq {wait : Log} (h : Waited wait) : wait.replies = [] := by
  refine List.filterMap_eq_nil_iff.mpr ?_
  rintro ⟨q, r⟩ hx
  cases q with
  | run c => exact absurd rfl (h.not_ran hx c)
  | _ => rfl

variable {log : Log} {found : Except Failure (Option Obstacle)}

/-- While the controller refuses, nothing is settled. -/
theorem not_decisive_refused {x : Exchange Request.Reply}
    (h : x ∈ equipped ++ refusals interval failures) : decisive x = false := by
  rcases mem_refused h with hx | ⟨f, rfl⟩ | rfl
  · simp only [equipped, List.mem_cons, List.not_mem_nil, or_false] at hx
    rcases hx with rfl | rfl
    · rfl
    · rfl
  · rfl
  · rfl

@[simp] theorem replies_refused :
    Log.replies (equipped ++ refusals interval failures) = failures.map .error := by
  rw [Log.replies_append, refusals, Log.replies, Log.replies, List.filterMap_flatMap,
    List.map_eq_flatMap]
  rfl

@[simp] theorem looks_refused : Log.looks (equipped ++ refusals interval failures) = [] := by
  rw [Log.looks_append, refusals, Log.looks, Log.looks, List.filterMap_flatMap]
  simp [equipped, refusal, ended, slept]

section
variable {out : Output} {wait : Log}

theorem replies_accepted (h : Waited wait) :
    Log.replies (accepted interval failures out wait) = failures.map .error ++ [.ok out] := by
  rw [accepted, Log.replies_append, replies_refused]
  exact congrArg (_ ++ .ok out :: ·) h.replies_eq

theorem looks_accepted : Log.looks (accepted interval failures out wait) = wait.looks := by
  rw [accepted, Log.looks_append, looks_refused]
  rfl

end

theorem bounded (h : Forces interval log found) : Bounded log := by
  have only : ∀ c, log.Ran c → c = charging false := fun c => h.ran
  cases h with
  | noBattery =>
    exact ⟨only, by decide, .nil, fun h => absurd rfl h, by decide,
      List.pairwise_singleton .., by simp [Log.replies]⟩
  | noController =>
    exact ⟨only, by decide, .nil, fun h => absurd rfl h, by decide,
      .cons (fun _ _ => rfl) (List.pairwise_singleton ..), by simp [Log.replies]⟩
  | @refused failures hlen =>
    refine ⟨only, ?asks_le, ?asks_until, ?asks_on, ?looks_le, ?looks_until, ?looks_on⟩
    case asks_le =>
      rw [replies_refused, List.length_map]
      exact Nat.le_of_eq hlen
    case asks_until =>
      rw [replies_refused]
      exact List.pairwise_of_forall_mem_list (by simp)
    case asks_on => simp [hlen]
    case looks_le => simp
    case looks_until =>
      exact List.pairwise_of_forall_mem_list fun _ hx _ _ => not_decisive_refused hx
    case looks_on => simp
  | @accepted failures out wait seen hlt hwait =>
    have hwaited := waited hwait
    refine ⟨only, ?asks_le, ?asks_until, ?asks_on, ?looks_le, ?looks_until, ?looks_on⟩
    case asks_le =>
      rw [replies_accepted hwaited, List.length_append, List.length_map]
      exact Nat.succ_le_of_lt hlt
    case asks_until =>
      rw [replies_accepted hwaited]
      exact pairwise_behind (by simp) (List.pairwise_singleton ..)
    case asks_on =>
      intro _ hall
      rw [replies_accepted hwaited] at hall
      obtain ⟨f, hf⟩ := hall (.ok out) (by simp)
      cases hf
    case looks_le =>
      rw [looks_accepted]
      exact hwaited.looks_le
    case looks_until =>
      refine pairwise_behind (fun _ hx => not_decisive_refused hx) ?_
      exact .cons (fun _ _ => rfl) hwaited.looks_until
    case looks_on =>
      intro _ hno
      rw [looks_accepted]
      exact hwaited.looks_on fun x hx => hno x (by simp [accepted, hx])

end

/-! ### The two settings -/

section
variable {σ : Type} {answer : (q : Request) → σ → q.Reply × σ} {interval : Nat} {s : σ} {log : Log}

/-- What comes of an attempt, if it has to succeed and if it may be in vain. -/
structure Tells (answer : (q : Request) → σ → q.Reply × σ) (interval : Nat) (s : σ) (log : Log)
    (required wished : Except Failure Bool) : Prop where
  ok_iff : required = .ok true ↔ wished = .ok true
  not_false : required ≠ .ok false
  false_iff : wished = .ok false ↔ ∃ o : Obstacle, o.Stands answer interval s
  /-- A failure of this text that comes from a look at the battery is another matter. -/
  obstacle_iff : ∀ o : Obstacle, o.Stands answer interval s ↔
    required = .error o.failure ∧ log.looks = []
  /-- A look that fails is all that makes an attempt fail that may be in vain. -/
  failed_iff : ∀ f, wished = .error f ↔
    ∃ u, Starts answer interval s u ∧ Fails answer interval looks u f
  failed : ∀ f, wished = .error f → required = .error f

theorem Obstacle.failure_injective : Function.Injective Obstacle.failure := by
  intro o o' h
  cases o <;> cases o' <;> first | rfl | exact absurd h (by decide)

/-- The battery is looked at once at least if nothing stands in the way. -/
theorem Follows.looks_ne_nil (h : Follows answer interval s log) {u : σ}
    (hstarts : Starts answer interval s u) : log.looks ≠ [] := by
  intro hnil
  have hfirst := (h.results u hstarts 0 _).mpr
    ⟨by decide, fun m hm => absurd hm (Nat.not_lt_zero m), rfl⟩
  rw [hnil] at hfirst
  cases hfirst

theorem tells {found : Except Failure (Option Obstacle)} (h : Meets answer interval s log found) :
    Tells answer interval s log (demanded found) (hoped found) where
  ok_iff := by rcases found with f | _ | obstacle <;> simp [demanded, hoped, Except.map]
  not_false := by rcases found with f | _ | obstacle <;> simp [demanded]
  false_iff := by
    simp only [← h.obstacle_iff]
    rcases found with f | _ | obstacle <;> simp [hoped, Except.map]
  obstacle_iff o := by
    constructor
    · intro hstands
      obtain rfl := (h.obstacle_iff o).mpr hstands
      exact ⟨rfl, h.no_results fun u => hstands.not_starts⟩
    · rintro ⟨hfailure, hlooks⟩
      rw [← h.obstacle_iff]
      rcases found with f | _ | other
      · obtain ⟨u, hstarts, -⟩ := (h.failed_iff f).mp rfl
        exact absurd hlooks (h.looks_ne_nil hstarts)
      · cases hfailure
      · rw [Obstacle.failure_injective (Except.error.inj hfailure)]
  failed_iff f := by
    rw [← h.failed_iff]
    cases found <;> simp [hoped, Except.map]
  failed f hf := by
    cases found with
    | error f' => exact hf
    | ok found => cases hf

end

/-- **A discharge that has to be forced and one that is only wished ask the same**, and
leave the same behind, whatever answers. What they ask is what there is to ask of the
device. They differ in what they make of an obstacle. -/
theorem required_as_wished (interval : Nat) {σ : Type} (answer : (q : Request) → σ → q.Reply × σ)
    (s : σ) :
    let required := ExceptT.run (apply interval .required)
    let wished := ExceptT.run (apply interval .wished)
    let log : Log := required.exchanges answer s
    wished.exchanges answer s = log ∧ (required.run answer s).2 = (wished.run answer s).2 ∧
      Bounded log ∧ Follows answer interval s log ∧
      Tells answer interval s log (required.run answer s).1 (wished.run answer s).1 := by
  have hbounded := bounded (force_forces (course_run answer (ExceptT.run (force interval)) s))
  have hmeets := force_meets answer interval s
  rw [run_required, run_wished]
  simp only [exchanges_map, run_map, true_and]
  exact ⟨hbounded, hmeets.toFollows, tells hmeets⟩

/-- A controller that is busy at first, and a battery that discharges at the second look. -/
theorem required_as_wished_busy :
    let answer : (q : Request) → Nat → q.Reply × Nat
      | .run _, n => (if n = 0 then .error (.error "busy") else .ok ⟨"", some 0, "", ""⟩, n + 1)
      | .refreshBattery, n => (.ok (), n + 1)
      | .batteryDischarging, n => (decide (4 ≤ n), n)
      | .batteryPresent, n | .controllerPresent, n | .jobInstalled _, n => (true, n)
      | .now, n => (n, n)
      | .pause _, n => ((), n)
      | .openBattery, n | .record _, n => (.ok (), n)
    let required := ExceptT.run (apply usualInterval .required)
    let wished := ExceptT.run (apply usualInterval .wished)
    let log : Log := required.exchanges answer 0
    Starts answer usualInterval 0 2 ∧ log.replies.length = 2 ∧ log.looks.length = 2 ∧
      (wished.run answer 0).1 = .ok true ∧ (required.run answer 0).1 = .ok true ∧
      ∀ o : Obstacle, ¬ o.Stands answer usualInterval 0 := by
  intro answer required wished log
  obtain ⟨-, -, -, -, tells⟩ := required_as_wished usualInterval answer 0
  have hwished : (wished.run answer 0).1 = .ok true := rfl
  have hrequired := tells.ok_iff.mpr hwished
  have hrefuses : ∀ m < 1, Refuses answer ((asked answer usualInterval)^[m] (ready answer 0)) := by
    intro m hm
    obtain rfl := Nat.lt_one_iff.mp hm
    exact ⟨_, rfl⟩
  have hstarts : Starts answer usualInterval 0 2 :=
    ⟨⟨rfl, rfl⟩, 1, by decide, hrefuses, _, rfl⟩
  refine ⟨hstarts, rfl, rfl, hwished, hrequired, fun o ho => ?_⟩
  cases hrequired.symm.trans ((tells.obstacle_iff o).mp ho).1

end Discharge
end DeviceLab.Device
