import DeviceLab.Catalog.Power
import DeviceLab.Proofs.Dialogue

/-! What a measurement of power leaves behind.

The controller is asked to stop charging while a discharge is applied, and to
charge again when it is over. Every course of the test falls into a part up to
the end of the discharge and a part behind it; only the second part asks for
charging, and does so unless the discharge was refused or a look at the battery
failed (`charging_restored_iff`). -/
namespace DeviceLab.Device

open Dialogue

/-- What passes between a session and the device. -/
abbrev Log := List (Exchange Request.Reply)

/-- A command was run and ended so. -/
def ended (c : Command) (r : Except Failure Output) : Exchange Request.Reply :=
  ⟨Request.run c, r⟩

theorem ended_inj {c c' : Command} {r r' : Except Failure Output} (h : ended c r = ended c' r') :
    c = c' ∧ r = r' := by
  obtain ⟨hc, hr⟩ := Sigma.mk.inj h
  exact ⟨Request.run.inj hc, eq_of_heq hr⟩

/-- A look at the battery ended so. -/
def looked (r : Except Failure Unit) : Exchange Request.Reply :=
  ⟨Request.refreshBattery, r⟩

/-- The battery was seen to discharge, or not. -/
def showed (discharging : Bool) : Exchange Request.Reply :=
  ⟨Request.batteryDischarging, discharging⟩

def slept (span : Nat) : Exchange Request.Reply :=
  ⟨Request.pause span, ()⟩

/-- A session takes the same course as a part of a procedure. -/
theorem session_course_iff {α : Type} {s : Session α} {log : Log} {r : Except Abort α} :
    Course (ExceptT.run (Procedure.session s)) log r ↔
      ∃ r' : Except Failure α, Course (ExceptT.run s) log r' ∧ r = r'.mapError .failed := by
  refine course_bind_iff.trans ⟨?_, ?_⟩
  · rintro ⟨before, r', after, rfl, hs, hend⟩
    obtain ⟨rfl, rfl⟩ := course_done_iff.mp hend
    exact ⟨r', by simpa using hs, rfl⟩
  · rintro ⟨r', hs, rfl⟩
    exact ⟨log, r', [], by simp, hs, .done _⟩

namespace Log
variable (log : Log)

/-- A command was run, whatever came of it. -/
def Ran (c : Command) : Prop := ∃ x ∈ log, x.1 = Request.run c

/-- A command was run and did not fail. -/
def Accepted (c : Command) : Prop := ∃ out, ended c (.ok out) ∈ log

/-- A look at the battery failed so. -/
def LookFailed (f : Failure) : Prop :=
  looked (.error f) ∈ log

variable {log} {other : Log} {c : Command} {f : Failure}

theorem Accepted.ran (h : log.Accepted c) : log.Ran c :=
  let ⟨_, hmem⟩ := h
  ⟨_, hmem, rfl⟩

theorem not_ran_nil : ¬ Ran [] c := by
  simp [Ran]

theorem ran_append : Ran (log ++ other) c ↔ log.Ran c ∨ other.Ran c := by
  simp only [Ran, List.mem_append, or_and_right, exists_or]

theorem accepted_append : Accepted (log ++ other) c ↔ log.Accepted c ∨ other.Accepted c := by
  simp only [Accepted, List.mem_append, exists_or]

theorem lookFailed_append :
    LookFailed (log ++ other) f ↔ log.LookFailed f ∨ other.LookFailed f := by
  simp only [LookFailed, List.mem_append]

/-- Neither the battery nor the charger is touched. -/
def Quiet (log : Log) : Prop :=
  ∀ x ∈ log, x.1 ≠ Request.refreshBattery ∧ ∀ charge, x.1 ≠ Request.run (Discharge.charging charge)

theorem Quiet.nil : Quiet [] :=
  fun _ hx => absurd hx List.not_mem_nil

theorem Quiet.append (h : log.Quiet) (h' : other.Quiet) : Quiet (log ++ other) := by
  intro x hx
  exact (List.mem_append.mp hx).elim (h x) (h' x)

variable {charge : Bool}

theorem Quiet.not_ran (h : log.Quiet) : ¬ log.Ran (Discharge.charging charge) :=
  fun ⟨x, hx, hc⟩ => (h x hx).2 charge hc

theorem Quiet.not_accepted (h : log.Quiet) : ¬ log.Accepted (Discharge.charging charge) :=
  fun ha => h.not_ran ha.ran

theorem Quiet.not_lookFailed (h : log.Quiet) : ¬ log.LookFailed f :=
  fun hf => (h _ hf).1 rfl

end Log

namespace Discharge

/-- The two commands are told apart. -/
theorem charging_ne : charging true ≠ charging false := by decide

/-! ### Asking the controller -/

theorem chargeControl_succ (interval : Nat) (charge : Bool) (tries : Nat) :
    chargeControl interval charge true (tries + 1) =
      (ExceptT.lift (Session.attempt (charging charge)) >>= fun
        | .ok _ => pure true
        | .error _ => ExceptT.lift (Session.pause interval) >>= fun _ =>
            chargeControl interval charge true tries) := rfl

/-- The controller refused, and one interval was slept. -/
def refusal (interval : Nat) (charge : Bool) (f : Failure) : Log :=
  [ended (charging charge) (.error f), slept interval]

theorem chargeControl_succ_iff {interval n : Nat} {charge : Bool} {log : Log}
    {r : Except Failure Bool} :
    Course (ExceptT.run (chargeControl interval charge true (n + 1))) log r ↔
      (∃ out, log = [ended (charging charge) (.ok out)] ∧ r = .ok true) ∨
        ∃ f rest, log = refusal interval charge f ++ rest ∧
          Course (ExceptT.run (chargeControl interval charge true n)) rest r := by
  rw [chargeControl_succ]
  refine course_ask_iff.trans ?_
  constructor
  · rintro ⟨reply, rest, rfl, hnext⟩
    cases reply with
    | ok out =>
      obtain ⟨rfl, rfl⟩ := course_pure_iff.mp hnext
      exact .inl ⟨out, rfl, rfl⟩
    | error f =>
      obtain ⟨_, rest, rfl, hrest⟩ := course_ask_iff.mp hnext
      exact .inr ⟨f, rest, rfl, hrest⟩
  · rintro (⟨out, rfl, rfl⟩ | ⟨f, rest, rfl, hrest⟩)
    · exact ⟨.ok out, [], rfl, course_pure_iff.mpr ⟨rfl, rfl⟩⟩
    · exact ⟨.error f, slept interval :: rest, rfl, course_ask_iff.mpr ⟨(), rest, rfl, hrest⟩⟩

/-- The controller is asked until it accepts, or as often as it may be. -/
theorem chargeControl_course_iff {interval n : Nat} {charge : Bool} {log : Log}
    {r : Except Failure Bool} :
    Course (ExceptT.run (chargeControl interval charge true n)) log r ↔
      ∃ (failures : List Failure) (final : Log),
        log = failures.flatMap (refusal interval charge) ++ final ∧
        (failures.length < n ∧ (∃ out, final = [ended (charging charge) (.ok out)] ∧ r = .ok true) ∨
          failures.length = n ∧ final = [] ∧ r = .ok false) := by
  refine (rounds_course_iff (chargeControl interval charge true) course_pure_iff
    (chargeControl_succ_iff.trans (or_congr_right
      (exists_congr fun _ => exists_congr fun _ => (and_iff_right trivial).symm)))).trans ?_
  simp only [implies_true, true_and]

/-- Asking says whether the controller accepted, asks for nothing else, and asks
once at least. -/
theorem chargeControl_course {interval : Nat} {charge : Bool} {tries : Nat} {log : Log}
    {r : Except Failure Bool}
    (h : Course (ExceptT.run (chargeControl interval charge true tries)) log r) :
    (∃ b, r = .ok b ∧ (b = true ↔ log.Accepted (charging charge))) ∧
      (∀ x ∈ log, x.1 = .run (charging charge) ∨ x.1 = .pause interval) ∧
      (0 < tries → log.Ran (charging charge)) := by
  obtain ⟨failures, final, rfl, hfinal⟩ := chargeControl_course_iff.mp h
  have hrefusal : ∀ x ∈ failures.flatMap (refusal interval charge),
      (∀ out, x ≠ ended (charging charge) (.ok out)) ∧
        (x.1 = .run (charging charge) ∨ x.1 = .pause interval) := by
    simp only [refusal, List.mem_flatMap, List.mem_cons, List.not_mem_nil, or_false]
    rintro x ⟨f, -, rfl | rfl⟩
    · exact ⟨nofun, .inl rfl⟩
    · exact ⟨nofun, .inr rfl⟩
  rcases hfinal with ⟨-, out, rfl, rfl⟩ | ⟨rfl, rfl, rfl⟩
  · have hlast : ended (charging charge) (.ok out) ∈
        failures.flatMap (refusal interval charge) ++ [ended (charging charge) (.ok out)] :=
      List.mem_append_right _ (List.mem_singleton_self _)
    refine ⟨⟨true, rfl, iff_of_true rfl ⟨out, hlast⟩⟩, fun x hx => ?_, fun _ => ⟨_, hlast, rfl⟩⟩
    rcases List.mem_append.mp hx with hx | hx
    · exact (hrefusal x hx).2
    · obtain rfl := List.mem_singleton.mp hx
      exact .inl rfl
  · rw [List.append_nil]
    refine ⟨⟨false, rfl, iff_of_false (by simp) ?_⟩, fun x hx => (hrefusal x hx).2, fun hpos => ?_⟩
    · rintro ⟨out, hout⟩
      exact (hrefusal _ hout).1 out rfl
    · obtain ⟨f, hf⟩ := List.exists_mem_of_length_pos hpos
      exact ⟨_, List.mem_flatMap.mpr ⟨f, hf, List.mem_cons_self⟩, rfl⟩

/-- Asking runs no other command and does not look at the battery. -/
theorem chargeControl_only {interval : Nat} {charge : Bool} {tries : Nat} {log : Log}
    {r : Except Failure Bool}
    (h : Course (ExceptT.run (chargeControl interval charge true tries)) log r) :
    (∀ c, log.Ran c → c = charging charge) ∧ ∀ f, ¬ log.LookFailed f := by
  obtain ⟨-, honly, -⟩ := chargeControl_course h
  constructor
  · rintro c ⟨x, hx, hc⟩
    rcases honly x hx with h | h
    · exact Request.run.inj (hc.symm.trans h)
    · cases hc.symm.trans h
  · intro f hf
    rcases honly _ hf with h | h
    · cases h
    · cases h

/-! ### Looking at the battery -/

theorem awaitDischarge_succ (interval looks : Nat) :
    awaitDischarge interval (looks + 1) =
      (ExceptT.mk (.question Request.refreshBattery) >>= fun _ =>
        ExceptT.lift (.question Request.batteryDischarging) >>= fun discharging : Bool =>
          if discharging then pure true
          else ExceptT.lift (Session.pause interval) >>= fun _ =>
            awaitDischarge interval looks) := rfl

/-- A look that showed no discharge, and one interval slept. -/
def vain (interval : Nat) : Log :=
  [looked (.ok ()), showed false, slept interval]

/-- A look that is the last: it failed, or showed a discharge. -/
inductive Settles : Log → Except Failure Bool → Prop where
  | failed (f : Failure) : Settles [looked (.error f)] (.error f)
  | shown : Settles [looked (.ok ()), showed true] (.ok true)

theorem awaitDischarge_succ_iff {interval n : Nat} {log : Log} {r : Except Failure Bool} :
    Course (ExceptT.run (awaitDischarge interval (n + 1))) log r ↔
      Settles log r ∨ ∃ rest, log = vain interval ++ rest ∧
        Course (ExceptT.run (awaitDischarge interval n)) rest r := by
  rw [awaitDischarge_succ, course_try_iff]
  constructor
  · rintro (⟨f, rfl, hlook⟩ | ⟨look, _, rest, rfl, hlook, hrest⟩)
    · obtain rfl := course_question_iff.mp hlook
      exact .inl (.failed f)
    obtain rfl := course_question_iff.mp hlook
    obtain ⟨discharging, later, rfl, hnext⟩ := course_ask_iff.mp hrest
    cases discharging with
    | true =>
      obtain ⟨rfl, rfl⟩ := course_pure_iff.mp hnext
      exact .inl .shown
    | false =>
      obtain ⟨_, later, rfl, hlater⟩ := course_ask_iff.mp hnext
      exact .inr ⟨later, rfl, hlater⟩
  · rintro (hsettles | ⟨rest, rfl, hrest⟩)
    · cases hsettles with
      | failed f => exact .inl ⟨f, rfl, course_question_iff.mpr rfl⟩
      | shown =>
        exact .inr ⟨[looked (.ok ())], (), [showed true], rfl, course_question_iff.mpr rfl,
          course_ask_iff.mpr ⟨true, [], rfl, course_pure_iff.mpr ⟨rfl, rfl⟩⟩⟩
    · exact .inr ⟨[looked (.ok ())], (), _, rfl, course_question_iff.mpr rfl,
        course_ask_iff.mpr ⟨false, _, rfl, course_ask_iff.mpr ⟨(), rest, rfl, hrest⟩⟩⟩

/-- The battery is looked at until a look settles it, or as often as it may be. -/
theorem awaitDischarge_course_iff {interval n : Nat} {log : Log} {r : Except Failure Bool} :
    Course (ExceptT.run (awaitDischarge interval n)) log r ↔
      ∃ (before : List Unit) (final : Log), log = (before.flatMap fun _ => vain interval) ++ final ∧
        (before.length < n ∧ Settles final r ∨
          before.length = n ∧ final = [] ∧ r = .ok false) := by
  have turn : ∀ {n : Nat} {log : Log} {r : Except Failure Bool},
      Course (ExceptT.run (awaitDischarge interval (n + 1))) log r ↔ Settles log r ∨
        ∃ (_ : Unit) (rest : Log), True ∧ log = vain interval ++ rest ∧
          Course (ExceptT.run (awaitDischarge interval n)) rest r := by
    intro n log r
    rw [awaitDischarge_succ_iff]
    simp
  refine (rounds_course_iff (awaitDischarge interval) course_pure_iff turn).trans ?_
  simp only [implies_true, true_and]

/-- A look that fails ends the wait; otherwise it ends well, whatever was seen. -/
theorem awaitDischarge_course {interval looks : Nat} {log : Log} {r : Except Failure Bool}
    (h : Course (ExceptT.run (awaitDischarge interval looks)) log r) :
    (∀ f, r = .error f ↔ log.LookFailed f) ∧ (∀ x ∈ log, ∀ c, x.1 ≠ .run c) := by
  obtain ⟨before, final, rfl, hfinal⟩ := awaitDischarge_course_iff.mp h
  have hbefore : ∀ x ∈ before.flatMap fun _ => vain interval,
      (∀ f, x ≠ looked (.error f)) ∧ ∀ c, x.1 ≠ .run c := by
    simp only [vain, List.mem_flatMap, List.mem_cons, List.not_mem_nil, or_false]
    rintro x ⟨-, -, rfl | rfl | rfl⟩ <;> exact ⟨nofun, nofun⟩
  have hlast : (∀ f, r = .error f ↔ Log.LookFailed final f) ∧ ∀ x ∈ final, ∀ c, x.1 ≠ .run c := by
    rcases hfinal with ⟨-, hsettles⟩ | ⟨-, rfl, rfl⟩
    · cases hsettles with
      | failed e =>
        refine ⟨fun f => ⟨?_, ?_⟩, by simp [looked]⟩
        · rintro ⟨⟩
          exact List.mem_singleton_self _
        · intro hf
          cases List.mem_singleton.mp hf
          rfl
      | shown => exact ⟨fun f => iff_of_false nofun nofun, by simp [looked, showed]⟩
    · exact ⟨fun f => iff_of_false nofun nofun, nofun⟩
  refine ⟨fun f => ?_, fun x hx => ?_⟩
  · rw [hlast.1, Log.lookFailed_append, or_iff_right]
    exact fun hf => (hbefore _ hf).1 f rfl
  · rcases List.mem_append.mp hx with hx | hx
    · exact (hbefore x hx).2
    · exact hlast.2 x hx

/-! ### The attempt to force a discharge -/

/-- There is a battery, and there is a controller. -/
def equipped : Log :=
  [⟨.batteryPresent, true⟩, ⟨.controllerPresent, true⟩]

/-- The controller refused so often, one interval being slept each time. -/
def refusals (interval : Nat) (failures : List Failure) : Log :=
  failures.flatMap (refusal interval false)

/-- The log of an attempt that the controller accepted. -/
def accepted (interval : Nat) (failures : List Failure) (out : Output) (wait : Log) : Log :=
  equipped ++ refusals interval failures ++ ended (charging false) (.ok out) :: wait

/-- The ways an attempt may go, with what is found in the way. -/
inductive Forces (interval : Nat) : Log → Except Failure (Option Obstacle) → Prop where
  | noBattery : Forces interval [⟨.batteryPresent, false⟩] (.ok (some .noBattery))
  | noController : Forces interval [⟨.batteryPresent, true⟩, ⟨.controllerPresent, false⟩]
      (.ok (some .noController))
  | refused {failures : List Failure} : failures.length = tries →
      Forces interval (equipped ++ refusals interval failures) (.ok (some .refused))
  | accepted {failures : List Failure} {out : Output} {wait : Log} {seen : Except Failure Bool} :
      failures.length < tries → Course (ExceptT.run (awaitDischarge interval looks)) wait seen →
        Forces interval (accepted interval failures out wait) (seen.map fun _ => none)

theorem force_eq (interval : Nat) :
    force interval =
      (ExceptT.lift (.question Request.batteryPresent) >>= fun battery : Bool =>
        if !battery then pure (some .noBattery)
        else ExceptT.lift (.question Request.controllerPresent) >>= fun controller : Bool =>
          if !controller then pure (some .noController)
          else chargeControl interval false true tries >>= fun accepted =>
            if !accepted then pure (some .refused)
            else awaitDischarge interval looks >>= fun _ => pure none) := rfl

section
variable {interval : Nat} {log : Log} {found : Except Failure (Option Obstacle)}

theorem ask_forces
    (h : Course (ExceptT.run (chargeControl interval false true tries >>= fun accepted =>
      if !accepted then pure (some .refused)
      else awaitDischarge interval looks >>= fun _ => pure none)) log found) :
    Forces interval (equipped ++ log) found := by
  obtain ⟨f, rfl, hasks⟩ | ⟨asks, accepted, rest, rfl, hasks, hrest⟩ := course_try_iff.mp h
  · obtain ⟨failures, final, -, ⟨-, out, -, hr⟩ | ⟨-, -, hr⟩⟩ := chargeControl_course_iff.mp hasks
    · cases hr
    · cases hr
  obtain ⟨failures, final, rfl, ⟨hlt, out, rfl, hr⟩ | ⟨hlen, rfl, hr⟩⟩ :=
    chargeControl_course_iff.mp hasks
  · obtain rfl := Except.ok.inj hr
    rw [List.append_assoc, ← List.append_assoc equipped]
    obtain ⟨f, rfl, hwait⟩ | ⟨wait, seen, last, rfl, hwait, hlast⟩ := course_try_iff.mp hrest
    · exact .accepted hlt hwait
    · obtain ⟨rfl, rfl⟩ := course_pure_iff.mp hlast
      rw [List.append_nil]
      exact .accepted hlt hwait
  · obtain rfl := Except.ok.inj hr
    obtain ⟨rfl, rfl⟩ := course_pure_iff.mp hrest
    rw [List.append_nil, List.append_nil]
    exact .refused hlen

theorem force_forces (h : Course (ExceptT.run (force interval)) log found) :
    Forces interval log found := by
  rw [force_eq] at h
  obtain ⟨battery, rest, rfl, hbattery⟩ := course_ask_iff.mp h
  cases battery with
  | false =>
    obtain ⟨rfl, rfl⟩ := course_pure_iff.mp hbattery
    exact .noBattery
  | true =>
    obtain ⟨controller, rest, rfl, hcontroller⟩ := course_ask_iff.mp hbattery
    cases controller with
    | false =>
      obtain ⟨rfl, rfl⟩ := course_pure_iff.mp hcontroller
      exact .noController
    | true => exact ask_forces hcontroller

/-- Nothing is accepted and nothing is looked at while the controller refuses. -/
theorem mem_refused {failures : List Failure} {x : Exchange Request.Reply}
    (h : x ∈ equipped ++ refusals interval failures) :
    x ∈ equipped ∨ (∃ f, x = ended (charging false) (.error f)) ∨ x = slept interval := by
  refine (List.mem_append.mp h).imp_right fun h => ?_
  simp only [refusals, refusal, List.mem_flatMap, List.mem_cons, List.not_mem_nil, or_false] at h
  obtain ⟨f, -, rfl | rfl⟩ := h
  · exact .inl ⟨f, rfl⟩
  · exact .inr rfl

theorem equipped_quiet : equipped.Quiet := by
  simp [equipped, Log.Quiet]

end

/-! ### Applying a setting and taking it back -/

/-- The end of a discharge tells what happened: `a` is the good end. -/
structure Applied {α : Type} (log : Log) (r : Except Failure α) (a : α) : Prop where
  keeps : ¬ log.Ran (charging true)
  failed : ∀ f, log.LookFailed f → r = .error f
  good : r = .ok a ↔ log.Accepted (charging false) ∧ ∀ f, ¬ log.LookFailed f

theorem Applied.of_quiet {α : Type} {log : Log} {r : Except Failure α} {a : α} (h : log.Quiet)
    (hr : r ≠ .ok a) : Applied log r a :=
  ⟨h.not_ran, fun _ hf => absurd hf h.not_lookFailed,
    iff_of_false hr fun ha => h.not_accepted ha.1⟩

/-- What is done beforehand without the battery and the charger does not matter. -/
theorem Applied.append {α : Type} {before log : Log} {r : Except Failure α} {a : α}
    (hb : before.Quiet) (h : Applied log r a) : Applied (before ++ log) r a := by
  have hfailed : ∀ f, Log.LookFailed (before ++ log) f ↔ log.LookFailed f := fun f => by
    simp [Log.lookFailed_append, hb.not_lookFailed]
  refine ⟨?_, ?_, ?_⟩
  · simpa [Log.ran_append, hb.not_ran] using h.keeps
  · simpa only [hfailed] using h.failed
  · simpa [Log.accepted_append, hb.not_accepted, hfailed] using h.good

/-- What becomes of the end later does not matter as long as a failure stays. -/
theorem Applied.map {α β : Type} {log : Log} {r : Except Failure α} {r' : Except Failure β}
    {a : α} {b : β} (h : Applied log r a) (he : ∀ f, r = .error f → r' = .error f)
    (hok : r' = .ok b ↔ r = .ok a) : Applied log r' b :=
  ⟨h.keeps, fun f hf => he f (h.failed f hf), hok.trans h.good⟩

section
variable {interval : Nat} {failures : List Failure}

theorem refused_ran {c : Command} (h : Log.Ran (equipped ++ refusals interval failures) c) :
    c = charging false := by
  obtain ⟨x, hx, hc⟩ := h
  rcases mem_refused hx with hx | ⟨f, rfl⟩ | rfl
  · simp only [equipped, List.mem_cons, List.not_mem_nil, or_false] at hx
    rcases hx with rfl | rfl
    · cases hc
    · cases hc
  · exact (Request.run.inj hc).symm
  · cases hc

theorem refused_not_accepted :
    ¬ Log.Accepted (equipped ++ refusals interval failures) (charging false) := by
  rintro ⟨out, hout⟩
  rcases mem_refused hout with hx | ⟨f, hf⟩ | hx
  · exact equipped_quiet.not_accepted ⟨out, hx⟩
  · cases hf
  · cases hx

theorem refused_not_lookFailed {f : Failure} :
    ¬ Log.LookFailed (equipped ++ refusals interval failures) f := by
  intro hf
  rcases mem_refused hf with hx | ⟨e, hx⟩ | hx
  · exact equipped_quiet.not_lookFailed hx
  · cases hx
  · cases hx

theorem accepted_ran {out : Output} {wait : Log} {c : Command}
    (hwait : ∀ x ∈ wait, ∀ c, x.1 ≠ .run c) (h : (accepted interval failures out wait).Ran c) :
    c = charging false := by
  rcases Log.ran_append.mp h with h | ⟨x, hx, hc⟩
  · exact refused_ran h
  rcases List.mem_cons.mp hx with rfl | hx
  · exact (Request.run.inj hc).symm
  · exact absurd hc (hwait x hx c)

theorem accepted_lookFailed {out : Output} {wait : Log} {f : Failure} :
    (accepted interval failures out wait).LookFailed f ↔ wait.LookFailed f := by
  rw [accepted, Log.lookFailed_append, or_iff_right refused_not_lookFailed]
  refine ⟨fun hf => ?_, List.mem_cons_of_mem _⟩
  rcases List.mem_cons.mp hf with hf | hf
  · cases hf
  · exact hf

end

/-- An attempt runs no command but the one that stops charging. -/
theorem Forces.ran {interval : Nat} {log : Log} {found : Except Failure (Option Obstacle)}
    {c : Command} (h : Forces interval log found) (hc : log.Ran c) : c = charging false := by
  cases h with
  | noBattery => simp [Log.Ran] at hc
  | noController => simp [Log.Ran] at hc
  | refused _ => exact refused_ran hc
  | accepted _ hwait => exact accepted_ran (awaitDischarge_course hwait).2 hc

/-- Nothing is in the way if the controller accepts and every look is good. -/
theorem force_course {interval : Nat} {log : Log} {r : Except Failure (Option Obstacle)}
    (h : Course (ExceptT.run (force interval)) log r) : Applied log r none := by
  cases force_forces h with
  | noBattery => exact .of_quiet (by simp [Log.Quiet]) (by simp)
  | noController => exact .of_quiet (by simp [Log.Quiet]) (by simp)
  | refused _ =>
    exact ⟨fun hran => charging_ne (refused_ran hran), fun f hf => absurd hf refused_not_lookFailed,
      iff_of_false (by simp) fun ha => refused_not_accepted ha.1⟩
  | @accepted failures out wait seen _ hwait =>
    obtain ⟨hfailed, hruns⟩ := awaitDischarge_course hwait
    have haccepted : (accepted interval failures out wait).Accepted (charging false) :=
      ⟨out, by simp [accepted]⟩
    refine ⟨fun hran => charging_ne (accepted_ran hruns hran), fun f hf => ?_, ?_⟩
    · obtain rfl := (hfailed f).mpr (accepted_lookFailed.mp hf)
      rfl
    · simp only [haccepted, accepted_lookFailed, ← hfailed, true_and]
      cases seen <;> simp [Except.map]

theorem apply_required (interval : Nat) :
    apply interval .required = (force interval >>= fun
      | none => pure true
      | some obstacle => throw obstacle.failure) := rfl

theorem apply_wished (interval : Nat) :
    apply interval .wished = (force interval >>= fun obstacle => pure obstacle.isNone) := rfl

/-- What comes of an attempt that has to succeed. -/
def demanded : Except Failure (Option Obstacle) → Except Failure Bool
  | .ok none => .ok true
  | .ok (some obstacle) => .error obstacle.failure
  | .error f => .error f

/-- What comes of an attempt that may be in vain. -/
def hoped (found : Except Failure (Option Obstacle)) : Except Failure Bool :=
  found.map Option.isNone

theorem run_required (interval : Nat) :
    ExceptT.run (apply interval .required) = demanded <$> ExceptT.run (force interval) := by
  rw [apply_required, ExceptT.run_bind, map_eq_pure_bind]
  refine congrArg _ (funext fun found => ?_)
  rcases found with f | _ | obstacle <;> rfl

theorem run_wished (interval : Nat) :
    ExceptT.run (apply interval .wished) = hoped <$> ExceptT.run (force interval) := by
  rw [apply_wished, ExceptT.run_bind, map_eq_pure_bind]
  refine congrArg _ (funext fun found => ?_)
  cases found <;> rfl

/-- A setting counts as applied if the controller accepted and every look was good. -/
theorem apply_course {interval : Nat} {setting : Setting} {log : Log} {r : Except Failure Bool}
    (h : Course (ExceptT.run (apply interval setting)) log r) : Applied log r true := by
  cases setting with
  | off =>
    obtain ⟨rfl, rfl⟩ := course_pure_iff.mp h
    exact .of_quiet .nil (by simp)
  | required =>
    rw [run_required] at h
    obtain ⟨found, hforce, rfl⟩ := course_map_iff.mp h
    refine (force_course hforce).map ?_ ?_
    · rintro f rfl
      rfl
    · rcases found with f | _ | obstacle <;> simp [demanded]
  | wished =>
    rw [run_wished] at h
    obtain ⟨found, hforce, rfl⟩ := course_map_iff.mp h
    refine (force_course hforce).map ?_ ?_
    · rintro f rfl
      rfl
    · rcases found with f | _ | obstacle <;> simp [hoped, Except.map]

theorem apply_ran {interval : Nat} {setting : Setting} {log : Log} {r : Except Failure Bool}
    {c : Command} (h : Course (ExceptT.run (apply interval setting)) log r) (hc : log.Ran c) :
    c = charging false := by
  cases setting with
  | off =>
    obtain ⟨rfl, -⟩ := course_pure_iff.mp h
    exact absurd hc Log.not_ran_nil
  | required =>
    rw [run_required] at h
    obtain ⟨found, hforce, -⟩ := course_map_iff.mp h
    exact (force_forces hforce).ran hc
  | wished =>
    rw [run_wished] at h
    obtain ⟨found, hforce, -⟩ := course_map_iff.mp h
    exact (force_forces hforce).ran hc

/-- Nothing is taken back if nothing was forced; otherwise the controller is asked to charge. -/
theorem restore_cases {interval : Nat} {forced : Bool} {log : Log} {r : Except Failure Unit}
    (h : Course (ExceptT.run (restore interval forced)) log r) :
    r = .ok () ∧ (forced = false ∧ log = [] ∨ forced = true ∧
      ∃ b, Course (ExceptT.run (chargeControl interval true true tries)) log b) := by
  cases forced with
  | false =>
    obtain ⟨rfl, rfl⟩ := course_pure_iff.mp h
    exact ⟨rfl, .inl ⟨rfl, rfl⟩⟩
  | true =>
    have heq : restore interval true =
        (chargeControl interval true true tries >>= fun _ => pure ()) := rfl
    rw [heq] at h
    obtain ⟨e, rfl, hasks⟩ | ⟨asks, accepted, rest, rfl, hasks, hend⟩ := course_try_iff.mp h
    · obtain ⟨⟨b, hb, -⟩, -⟩ := chargeControl_course hasks
      cases hb
    obtain ⟨rfl, rfl⟩ := course_pure_iff.mp hend
    rw [List.append_nil]
    exact ⟨rfl, .inr ⟨rfl, _, hasks⟩⟩

/-- Charging is asked for if the device was made to discharge, and only then. -/
theorem restore_course {interval : Nat} {forced : Bool} {log : Log} {r : Except Failure Unit}
    (h : Course (ExceptT.run (restore interval forced)) log r) :
    r = .ok () ∧ (log.Ran (charging true) ↔ forced = true) ∧
      ¬ log.Ran (charging false) ∧ ∀ f, ¬ log.LookFailed f := by
  obtain ⟨rfl, ⟨rfl, rfl⟩ | ⟨rfl, b, hasks⟩⟩ := restore_cases h
  · exact ⟨rfl, iff_of_false Log.Quiet.nil.not_ran (by simp), Log.Quiet.nil.not_ran,
      fun f => Log.Quiet.nil.not_lookFailed⟩
  · obtain ⟨-, -, hran⟩ := chargeControl_course hasks
    obtain ⟨honly, hlooks⟩ := chargeControl_only hasks
    exact ⟨rfl, iff_of_true (hran (by decide)) rfl,
      fun h => charging_ne (honly _ h).symm, hlooks⟩

theorem restore_ran {interval : Nat} {forced : Bool} {log : Log} {r : Except Failure Unit}
    {c : Command} (h : Course (ExceptT.run (restore interval forced)) log r) (hc : log.Ran c) :
    c = charging true := by
  obtain ⟨-, ⟨-, rfl⟩ | ⟨-, b, hasks⟩⟩ := restore_cases h
  · exact absurd hc Log.not_ran_nil
  · exact (chargeControl_only hasks).1 c hc

end Discharge

/-! ### The services around it -/

/-- The output of a command is asked for once. -/
theorem Session.output_course {log : Log} {c : Command} {r : Except Failure String}
    (h : Course (ExceptT.run (Session.output c)) log r) :
    ∃ reply : Except Failure Output,
      log = [ended c reply] ∧ r = reply.map fun out => Text.trim out.out := by
  obtain ⟨e, rfl, hask⟩ | ⟨ask, out, rest, rfl, hask, hend⟩ := course_try_iff.mp h
  · obtain rfl := course_question_iff.mp hask
    exact ⟨.error e, rfl, rfl⟩
  · obtain rfl := course_question_iff.mp hask
    obtain ⟨rfl, rfl⟩ := course_pure_iff.mp hend
    exact ⟨.ok out, rfl, rfl⟩

/-- A command that is run for its effect only is run once. -/
theorem Session.system_course {log : Log} {c : Command} {r : Except Failure Unit}
    (h : Course (ExceptT.run (Session.system c)) log r) :
    ∃ reply : Except Failure Output, log = [ended c reply] ∧ r = reply.map fun _ => () := by
  obtain ⟨e, rfl, hask⟩ | ⟨ask, out, rest, rfl, hask, hend⟩ := course_try_iff.mp h
  · obtain rfl := course_question_iff.mp hask
    exact ⟨.error e, rfl, rfl⟩
  · obtain rfl := course_question_iff.mp hask
    obtain ⟨rfl, rfl⟩ := course_pure_iff.mp hend
    exact ⟨.ok out, rfl, rfl⟩

namespace Stopper

/-- Commands for services leave the battery and the charger alone. -/
theorem quiet_run {c : Command} {r : Except Failure Output} (h : c.program ≠ "ectool") :
    Log.Quiet [⟨.run c, r⟩] := by
  intro x hx
  obtain rfl := List.mem_singleton.mp hx
  refine ⟨by simp, fun charge hc => h ?_⟩
  rw [Request.run.inj hc]
  rfl

theorem stopOne_course {service : String} {log : Log} {done : Bool}
    (h : Course (stopOne service) log done) : log.Quiet := by
  obtain ⟨before, status, after, rfl, hstatus, hrest⟩ := course_bind_iff.mp h
  obtain ⟨reply, rfl, rfl⟩ := Session.output_course hstatus
  have hbefore : Log.Quiet [ended (Command.of ["status", service]).ignoringStatus reply] := by
    refine quiet_run ?_
    show "status" ≠ "ectool"
    decide
  refine hbefore.append ?_
  cases reply with
  | error e =>
    obtain ⟨rfl, -⟩ := course_done_iff.mp hrest
    exact .nil
  | ok out =>
    dsimp only [Except.map] at hrest
    split at hrest
    · obtain ⟨stopped, r, rest, rfl, hstop, hend⟩ := course_bind_iff.mp hrest
      obtain rfl := course_question_iff.mp hstop
      obtain ⟨rfl, -⟩ := course_done_iff.mp hend
      refine quiet_run ?_
      show "stop" ≠ "ectool"
      decide
    · obtain ⟨rfl, -⟩ := course_done_iff.mp hrest
      exact .nil

theorem stopEach_course {services done : List String} {log : Log}
    (h : Course (stopEach services) log done) : log.Quiet := by
  induction services generalizing log done with
  | nil =>
    obtain ⟨rfl, -⟩ := course_done_iff.mp h
    exact .nil
  | cons service services ih =>
    obtain ⟨first, one, rest, rfl, hfirst, hrest⟩ := course_bind_iff.mp h
    obtain ⟨others, more, last, rfl, hothers, hlast⟩ := course_bind_iff.mp hrest
    obtain ⟨rfl, -⟩ := course_done_iff.mp hlast
    rw [List.append_nil]
    exact (stopOne_course hfirst).append (ih hothers)

theorem startEach_course {services : List String} {log : Log}
    (h : Course (startEach services) log ()) : log.Quiet := by
  induction services generalizing log with
  | nil =>
    obtain ⟨rfl, -⟩ := course_done_iff.mp h
    exact .nil
  | cons service services ih =>
    obtain ⟨first, one, rest, rfl, hfirst, hrest⟩ := course_bind_iff.mp h
    obtain rfl := course_question_iff.mp hfirst
    refine (quiet_run ?_).append (ih hrest)
    show "start" ≠ "ectool"
    decide

theorem stop_course {s s' : Stopper} {log : Log} (h : Course s.stop log s') : log.Quiet := by
  obtain ⟨each, more, rest, rfl, heach, hrest⟩ := course_bind_iff.mp h
  obtain ⟨rfl, -⟩ := course_done_iff.mp hrest
  rw [List.append_nil]
  exact stopEach_course heach

theorem restore_course {s s' : Stopper} {log : Log} (h : Course s.restore log s') :
    log.Quiet := by
  obtain ⟨each, more, rest, rfl, heach, hrest⟩ := course_bind_iff.mp h
  obtain ⟨rfl, -⟩ := course_done_iff.mp hrest
  rw [List.append_nil]
  exact startEach_course heach

end Stopper
end DeviceLab.Device

namespace DeviceLab.Catalog.Power
open Dialogue Device Device.Discharge

/-! ### The whole test -/

theorem measure_eq (setting : Setting) :
    measure setting =
      ((Stopper.of Stopper.powerDraw).stop >>= fun stopper =>
        ExceptT.run (apply usualInterval setting) >>= fun forced : Except Failure Bool =>
          (match forced with
            | .ok success => ExceptT.run (restore usualInterval success)
            | .error _ => pure (.ok ())) >>= fun restored : Except Failure Unit =>
            stopper.restore >>= fun _ =>
              pure (do
                let success ← forced
                restored
                return success)) := by
  refine congrArg _ (funext fun stopper => congrArg _ (funext fun forced => ?_))
  cases forced with
  | error f => rfl
  | ok success => rfl

/-- The part in which a discharge is taken back, if there was one. -/
structure Restored (log : Log) (forced : Prop) : Prop where
  asked : log.Ran (charging true) ↔ forced
  keeps : ¬ log.Ran (charging false)
  looks : ∀ f, ¬ log.LookFailed f

theorem Restored.of_quiet {log : Log} {forced : Prop} (h : log.Quiet) (hf : ¬ forced) :
    Restored log forced :=
  ⟨iff_of_false h.not_ran hf, h.not_ran, fun _ => h.not_lookFailed⟩

theorem Restored.append {log after : Log} {forced : Prop} (h : Restored log forced)
    (ha : after.Quiet) : Restored (log ++ after) forced := by
  refine ⟨?_, ?_, fun f => ?_⟩
  · simpa [Log.ran_append, ha.not_ran] using h.asked
  · simpa [Log.ran_append, ha.not_ran] using h.keeps
  · simpa [Log.lookFailed_append, ha.not_lookFailed] using h.looks f

/-- A part in which a discharge is applied, then one in which it is taken back. -/
def Halves (log : Log) (measured : Except Failure Bool) : Prop :=
  ∃ front back, log = front ++ back ∧ Applied front measured true ∧
    Restored back (measured = .ok true)

theorem Halves.append {before log after : Log} {measured : Except Failure Bool}
    (h : Halves log measured) (hb : before.Quiet) (ha : after.Quiet) :
    Halves (before ++ (log ++ after)) measured := by
  obtain ⟨front, back, rfl, hfront, hback⟩ := h
  exact ⟨before ++ front, back ++ after, by simp, hfront.append hb, hback.append ha⟩

theorem Halves.of_quiet {log : Log} (h : log.Quiet) : Halves log (.ok false) :=
  ⟨log, [], by simp, .of_quiet h (by simp), .of_quiet .nil (by simp)⟩

theorem measure_course {setting : Setting} {log : Log} {r : Except Failure Bool}
    (h : Course (measure setting) log r) : Halves log r := by
  rw [measure_eq] at h
  obtain ⟨stops, stopper, rest, rfl, hstop, hrest⟩ := course_bind_iff.mp h
  obtain ⟨applies, forced, rest, rfl, happly, hforced⟩ := course_bind_iff.mp hrest
  obtain ⟨restores, restored, rest, rfl, hrestore, hrestored⟩ := course_bind_iff.mp hforced
  obtain ⟨starts, started, rest, rfl, hstart, hend⟩ := course_bind_iff.mp hrestored
  obtain ⟨rfl, rfl⟩ := course_done_iff.mp hend
  have hstops := Stopper.stop_course hstop
  have hstarts := Stopper.restore_course hstart
  rw [List.append_nil, ← List.append_assoc applies]
  refine Halves.append ⟨applies, restores, rfl, ?_⟩ hstops hstarts
  cases forced with
  | error f =>
    obtain ⟨rfl, -⟩ := course_done_iff.mp hrestore
    exact ⟨apply_course happly, .of_quiet .nil (show Except.error f ≠ .ok true by simp)⟩
  | ok success =>
    obtain ⟨rfl, hran, hkeeps, hlooks⟩ := Discharge.restore_course hrestore
    refine ⟨apply_course happly, ?_, hkeeps, hlooks⟩
    show _ ↔ Except.ok success = .ok true
    simpa using hran

/-- A value that is missing ends the procedure, without a question. -/
theorem need_course {α β : Type} {e : Except Failure α} {f : α → Procedure β} {log : Log}
    {r : Except Abort β} (h : Course (ExceptT.run (Procedure.need e >>= f)) log r) :
    (∃ failure, e = .error failure ∧ log = [] ∧ r = .error (.failed failure)) ∨
      ∃ a, e = .ok a ∧ Course (ExceptT.run (f a)) log r := by
  cases e with
  | error failure => exact .inl ⟨failure, rfl, course_throw_iff.mp h⟩
  | ok a => exact .inr ⟨a, rfl, h⟩

theorem forceDischarge_eq (params : List String) :
    forceDischarge params =
      (Procedure.session (ExceptT.mk (.question Request.openBattery)) >>= fun _ =>
        Procedure.need (param params 0 "force discharge setting") >>= fun name =>
          Procedure.need (Setting.of name) >>= fun setting =>
            Procedure.session (ExceptT.mk (measure setting)) >>= fun success =>
              Procedure.record [("force_discharge", setting.name),
                ("force_discharge_success", if success then "true" else "false")]) := rfl

/-- The setting that the parameters ask for. -/
def settingOf (params : List String) : Except Failure Setting := do
  Setting.of (← param params 0 "force discharge setting")

/-- The test gives up before it touches anything: the battery could not be looked for, or
there is no setting of that name. -/
inductive Declined (params : List String) : Log → Except Abort Unit → Prop where
  | unreadable (f : Failure) : Declined params [⟨.openBattery, .error f⟩] (.error (.failed f))
  | unset {f : Failure} : settingOf params = .error f →
      Declined params [⟨.openBattery, .ok ()⟩] (.error (.failed f))

/-- The test measures as it is set to, and notes what comes of it. -/
inductive Measured (params : List String) : Log → Except Abort Unit → Prop where
  | failed {setting : Setting} {log : Log} {f : Failure} : settingOf params = .ok setting →
      Course (measure setting) log (.error f) →
        Measured params (⟨.openBattery, .ok ()⟩ :: log) (.error (.failed f))
  | noted {setting : Setting} {log : Log} {success : Bool} {pairs : List (String × String)}
      {reply : Except Failure Unit} : settingOf params = .ok setting →
      Course (measure setting) log (.ok success) →
        Measured params (⟨.openBattery, .ok ()⟩ :: (log ++ [⟨.record pairs, reply⟩]))
          (reply.mapError .failed)

theorem measured_course {params : List String} {setting : Setting} {log : Log}
    {r : Except Abort Unit} (hsetting : settingOf params = .ok setting)
    (h : Course (ExceptT.run (Procedure.session (ExceptT.mk (measure setting)) >>= fun success =>
      Procedure.record [("force_discharge", setting.name),
        ("force_discharge_success", if success then "true" else "false")])) log r) :
    Measured params (⟨.openBattery, .ok ()⟩ :: log) r := by
  obtain ⟨e, rfl, hmeasure⟩ | ⟨measures, success, records, rfl, hmeasure, hrecord⟩ :=
    course_try_iff.mp h
  · obtain ⟨measured, hcourse, hr⟩ := session_course_iff.mp hmeasure
    cases measured with
    | ok success => cases hr
    | error f =>
      obtain rfl := Except.error.inj hr
      exact .failed hsetting hcourse
  · obtain ⟨measured, hcourse, hr⟩ := session_course_iff.mp hmeasure
    obtain ⟨reply, hnote, rfl⟩ := session_course_iff.mp hrecord
    obtain rfl := course_question_iff.mp hnote
    cases measured with
    | error f => cases hr
    | ok success' =>
      obtain rfl := Except.ok.inj hr
      exact .noted hsetting hcourse

/-- The test gives up, or it measures. -/
theorem forceDischarge_cases {params : List String} {log : Log} {r : Except Abort Unit}
    (h : Course (ExceptT.run (forceDischarge params)) log r) :
    Declined params log r ∨ Measured params log r := by
  rw [forceDischarge_eq] at h
  obtain ⟨e, rfl, hfirst⟩ | ⟨opens, _, rest, rfl, hfirst, hrest⟩ := course_try_iff.mp h
  · obtain ⟨reply, hopen, hr⟩ := session_course_iff.mp hfirst
    obtain rfl := course_question_iff.mp hopen
    cases reply with
    | ok _ => cases hr
    | error f =>
      obtain rfl := Except.error.inj hr
      exact .inl (.unreadable f)
  obtain ⟨reply, hopen, hr⟩ := session_course_iff.mp hfirst
  obtain rfl := course_question_iff.mp hopen
  cases reply with
  | error f => cases hr
  | ok _ =>
    obtain ⟨f, hname, rfl, rfl⟩ | ⟨name, hname, hof⟩ := need_course hrest
    · exact .inl (.unset (by rw [settingOf, hname]; rfl))
    obtain ⟨f, hsetting, rfl, rfl⟩ | ⟨setting, hsetting, hmeasure⟩ := need_course hof
    · exact .inl (.unset (by rw [settingOf, hname]; exact hsetting))
    · exact .inr (measured_course (by rw [settingOf, hname]; exact hsetting) hmeasure)

/-- The test falls into the two parts, unless it ends before the measurement. -/
theorem forceDischarge_course {params : List String} {log : Log} {r : Except Abort Unit}
    (h : Course (ExceptT.run (forceDischarge params)) log r) :
    ∃ measured, Halves log measured ∧ ∀ f, measured = .error f → r = .error (.failed f) := by
  have hopen : ∀ reply : Except Failure Unit, Log.Quiet [⟨.openBattery, reply⟩] := by
    simp [Log.Quiet]
  rcases forceDischarge_cases h with hdeclined | hmeasured
  · cases hdeclined with
    | unreadable f => exact ⟨_, .of_quiet (hopen _), by simp⟩
    | unset _ => exact ⟨_, .of_quiet (hopen _), by simp⟩
  · cases hmeasured with
    | failed _ hcourse =>
      refine ⟨_, by simpa using (measure_course hcourse).append (hopen (.ok ())) .nil, ?_⟩
      rintro f ⟨⟩
      rfl
    | noted _ hcourse =>
      exact ⟨_, (measure_course hcourse).append (hopen _) (by simp [Log.Quiet]), nofun⟩

/-- **Once the controller has agreed to a discharge it is asked to charge again,
unless a look at the battery fails.** Such a failure is what the test ends with,
and the device is left discharging. -/
theorem charging_restored_iff {params : List String} {log before after : Log} {out : Output}
    {r : Except Abort Unit} (h : Course (ExceptT.run (forceDischarge params)) log r)
    (hlog : log = before ++ ended (charging false) (.ok out) :: after) :
    (after.Ran (charging true) ↔ ∀ f, ¬ log.LookFailed f) ∧
      ∀ f, log.LookFailed f → r = .error (.failed f) := by
  obtain ⟨measured, ⟨front, back, rfl, hfront, hback⟩, hr⟩ := forceDischarge_course h
  have hlooks : ∀ f, Log.LookFailed (front ++ back) f ↔ front.LookFailed f := fun f => by
    simp [Log.lookFailed_append, hback.looks f]
  -- The agreement lies in the first part: no discharge is asked for in the second.
  obtain ⟨during, rfl, rfl⟩ : ∃ during : Log,
      front = before ++ ended (charging false) (.ok out) :: during ∧ after = during ++ back := by
    have hmem : ended (charging false) (.ok out) ∉ back := fun hx => hback.keeps ⟨_, hx, rfl⟩
    rcases List.append_eq_append_iff.mp hlog with ⟨c, -, rfl⟩ | ⟨c, rfl, hc⟩
    · exact absurd (List.mem_append_right _ (List.mem_cons_self ..)) hmem
    · cases c with
      | nil =>
        rw [List.nil_append] at hc
        exact absurd (hc ▸ List.mem_cons_self ..) hmem
      | cons x c =>
        obtain ⟨rfl, rfl⟩ := List.cons.inj hc
        exact ⟨c, rfl, rfl⟩
  have hagreed : Log.Accepted (before ++ ended (charging false) (.ok out) :: during)
      (charging false) := ⟨out, by simp⟩
  have hduring : ¬ during.Ran (charging true) := fun ⟨x, hx, hc⟩ =>
    hfront.keeps ⟨x, by simp [hx], hc⟩
  constructor
  · rw [Log.ran_append, or_iff_right hduring, hback.asked, hfront.good, and_iff_right hagreed]
    exact forall_congr' fun f => not_congr (hlooks f).symm
  · exact fun f hf => hr f (hfront.failed f ((hlooks f).mp hf))

/-- Surroundings in which commands succeed and looks at the battery end so. -/
def ready (look : Except Failure Unit) : (q : Request) → Unit → q.Reply × Unit
  | .run _, _ => (.ok default, ())
  | .now, _ => ((0 : Nat), ())
  | .pause _, _ => ((), ())
  | .jobInstalled _, _ | .controllerPresent, _ | .batteryPresent, _ | .batteryDischarging, _ =>
    (true, ())
  | .refreshBattery, _ => (look, ())
  | .openBattery, _ | .record _, _ => (.ok (), ())

/-- The device is left discharging when the first look fails. -/
theorem charging_lost_at_first_look :
    let f := Failure.error "the battery is gone"
    let log : Log := (ExceptT.run (forceDischarge ["true"])).exchanges (ready (.error f)) ()
    log = log.take 6 ++ ended (charging false) (.ok default) :: log.drop 7 ∧
      ¬ Log.Ran (log.drop 7) (charging true) := by
  intro f log
  have h : Course (ExceptT.run (forceDischarge ["true"])) log _ :=
    course_run (ready (.error f)) _ ()
  have hlog : log = log.take 6 ++ ended (charging false) (.ok default) :: log.drop 7 := rfl
  have hlook : log.LookFailed f := List.mem_of_getElem? (show log[7]? = _ from rfl)
  refine ⟨hlog, fun hran => ?_⟩
  exact (charging_restored_iff h hlog).1.mp hran f hlook

end DeviceLab.Catalog.Power
