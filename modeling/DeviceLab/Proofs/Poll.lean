import DeviceLab.Device.Poll
import DeviceLab.Proofs.Discharge

/-! How long a poll goes on.

A poll is a number of rounds, in each of which the condition does not hold and one
interval is slept, and a last look that decides. On a clock that never goes back,
and on which a sleep takes its time, the rounds are at most as many as intervals
fit into the time limit (`wait_bounded`). A poll panics only if the sleep it thinks
of would end when no span of time can tell any more. -/
namespace DeviceLab.Device
open Dialogue

/-- The clock showed this time. -/
def readAt (t : Nat) : Exchange Request.Reply :=
  ⟨Request.now, t⟩

theorem readAt_inj {t t' : Nat} (h : readAt t = readAt t') : t = t' :=
  eq_of_heq (Sigma.mk.inj h).2

/-! ### Clocks -/

/-- The clock never goes back, and a pause takes as long as it is to take: if it is
`t` at the beginning of the log, it is `u` at the end, or later. -/
inductive Log.Elapses : Nat → Log → Nat → Prop where
  | nil (t : Nat) : Elapses t [] t
  | read {t now u : Nat} {rest : Log} :
      t ≤ now → Elapses now rest u → Elapses t (readAt now :: rest) u
  | slept {t span u : Nat} {rest : Log} :
      Elapses (t + span) rest u → Elapses t (slept span :: rest) u
  | other {t u : Nat} {x : Exchange Request.Reply} {rest : Log} :
      x.1 ≠ Request.now → (∀ span, x.1 ≠ Request.pause span) → Elapses t rest u →
        Elapses t (x :: rest) u

/-- The times the clock showed. -/
def Log.times (log : Log) : List Nat :=
  log.filterMap fun
    | ⟨.now, t⟩ => some t
    | _ => none

/-- A pause that begins at any time the clock showed ends at a time that spans can tell. -/
def Log.Tells (span : Nat) (log : Log) : Prop :=
  ∀ t ∈ log.times, t + span ≤ Seconds.longest

namespace Log
variable {t u v : Nat} {log other : Log}

theorem Elapses.ran {c : Command} {r : Except Failure Output} (h : Elapses t log u) :
    Elapses t (ended c r :: log) u :=
  .other nofun nofun h

theorem Elapses.split (h : Elapses t (log ++ other) v) :
    ∃ u, Elapses t log u ∧ Elapses u other v := by
  induction log generalizing t with
  | nil => exact ⟨t, .nil t, h⟩
  | cons x log ih =>
    cases h with
    | read hle hrest =>
      obtain ⟨u, hlog, hother⟩ := ih hrest
      exact ⟨u, .read hle hlog, hother⟩
    | slept hrest =>
      obtain ⟨u, hlog, hother⟩ := ih hrest
      exact ⟨u, .slept hlog, hother⟩
    | other hnow hpause hrest =>
      obtain ⟨u, hlog, hother⟩ := ih hrest
      exact ⟨u, .other hnow hpause hlog, hother⟩

end Log

namespace Poll

/-! ### Rounds -/

/-- A look at the condition that found it not to hold, and the time read behind it. -/
structure Round where
  look : Log
  time : Nat

section
variable (p : Poll) (condition : Session Bool) (start : Nat)

/-- Behind the look the clock is read, and one interval is slept. -/
def Round.log (round : Round) : Log :=
  round.look ++ [readAt round.time, slept p.interval]

/-- The condition did not hold, and the sleep behind the look was to end in time. -/
structure Round.Fits (round : Round) : Prop where
  looked : Course (ExceptT.run condition) round.look (.ok false)
  inTime : round.time - start + p.interval ≤ p.timeout
  told : round.time - start + p.interval ≤ Seconds.longest

/-- The last part of a poll: what the condition was seen to be, and what the poll ends with. -/
inductive Ends : Log → Except Failure Bool → Except Abort Unit → Prop where
  | held {look : Log} : Course (ExceptT.run condition) look (.ok true) →
      Ends look (.ok true) (.ok ())
  | failed {look : Log} {f : Failure} : Course (ExceptT.run condition) look (.error f) →
      Ends look (.error f) (.error (.failed f))
  /-- One more sleep would not end in time. -/
  | late {look : Log} {t : Nat} : Course (ExceptT.run condition) look (.ok false) →
      t - start + p.interval ≤ Seconds.longest → p.timeout < t - start + p.interval →
        Ends (look ++ [readAt t]) (.ok false) (.error (.failed p.timeoutFailure))
  /-- No span can tell when one more sleep would end. -/
  | tooLong {look : Log} {t : Nat} : Course (ExceptT.run condition) look (.ok false) →
      Seconds.longest < t - start + p.interval →
        Ends (look ++ [readAt t]) (.ok false) (.error overflow)

theorem loop_succ (looks : Nat) :
    p.loop condition start (looks + 1) =
      (Procedure.session condition >>= fun holds : Bool =>
        if holds then pure ()
        else ExceptT.lift (.question Request.now) >>= fun t : Nat =>
          if Seconds.longest < t - start + p.interval then throw overflow
          else if p.timeout < t - start + p.interval then throw (.failed p.timeoutFailure)
          else ExceptT.lift (Session.pause p.interval) >>= fun _ =>
            p.loop condition start looks) := by
  refine congrArg _ (funext fun holds => ?_)
  cases holds with
  | true => rfl
  | false =>
    refine congrArg (ExceptT.lift Session.now >>= · : (Nat → Procedure Unit) → Procedure Unit)
      (funext fun t => ?_)
    by_cases hlong : Seconds.longest < t - start + p.interval
    · rw [if_pos hlong, Seconds.sum?, if_neg (Nat.not_le.mpr hlong)]
    · rw [if_neg hlong, Seconds.sum?, if_pos (Nat.le_of_not_lt hlong)]
      by_cases hlate : p.timeout < t - start + p.interval
      · simp only [if_pos hlate]
        rfl
      · simp only [if_neg hlate]
        rfl

end

section
variable {p : Poll} {condition : Session Bool} {start n : Nat} {log : Log}
  {r : Except Abort Unit}

/-- A look at the condition is what the session makes of it. -/
theorem look_course_iff {α : Type} {look : Session α} {f : α → Procedure Unit} :
    Course (ExceptT.run (Procedure.session look >>= f)) log r ↔
      (∃ failure, r = .error (.failed failure) ∧
        Course (ExceptT.run look) log (.error failure)) ∨
      ∃ before a after, log = before ++ after ∧ Course (ExceptT.run look) before (.ok a) ∧
        Course (ExceptT.run (f a)) after r := by
  rw [course_try_iff]
  simp only [session_course_iff]
  constructor
  · rintro (⟨e, rfl, r', hlook, hr⟩ | ⟨before, a, after, rfl, ⟨r', hlook, hr⟩, hrest⟩)
    · cases r' with
      | error failure => exact .inl ⟨failure, congrArg _ (Except.error.inj hr), hlook⟩
      | ok a => cases hr
    · cases r' with
      | error failure => cases hr
      | ok b =>
        obtain rfl := Except.ok.inj hr
        exact .inr ⟨before, a, after, rfl, hlook, hrest⟩
  · rintro (⟨failure, rfl, hlook⟩ | ⟨before, a, after, rfl, hlook, hrest⟩)
    · exact .inl ⟨.failed failure, rfl, .error failure, hlook, rfl⟩
    · exact .inr ⟨before, a, after, rfl, ⟨.ok a, hlook, rfl⟩, hrest⟩

/-- A poll that may look once more ends with this look, or goes through a round first. -/
theorem loop_succ_iff :
    Course (ExceptT.run (p.loop condition start (n + 1))) log r ↔
      (∃ seen, p.Ends condition start log seen r) ∨
        ∃ (round : Round) (rest : Log), round.Fits p condition start ∧
          log = round.log p ++ rest ∧
          Course (ExceptT.run (p.loop condition start n)) rest r := by
  rw [loop_succ, look_course_iff]
  constructor
  · rintro (⟨f, rfl, hlook⟩ | ⟨look, holds, rest, rfl, hlook, hrest⟩)
    · exact .inl ⟨_, .failed hlook⟩
    cases holds with
    | true =>
      obtain ⟨rfl, rfl⟩ := course_pure_iff.mp hrest
      rw [List.append_nil]
      exact .inl ⟨_, .held hlook⟩
    | false =>
      obtain ⟨(t : Nat), later, rfl, hnext⟩ := course_ask_iff.mp hrest
      by_cases hlong : Seconds.longest < t - start + p.interval
      · rw [if_pos hlong] at hnext
        obtain ⟨rfl, rfl⟩ := course_throw_iff.mp hnext
        exact .inl ⟨_, .tooLong hlook hlong⟩
      rw [if_neg hlong] at hnext
      have htold := Nat.le_of_not_lt hlong
      by_cases hlate : p.timeout < t - start + p.interval
      · rw [if_pos hlate] at hnext
        obtain ⟨rfl, rfl⟩ := course_throw_iff.mp hnext
        exact .inl ⟨_, .late hlook htold hlate⟩
      · rw [if_neg hlate] at hnext
        obtain ⟨-, rest, rfl, hrest⟩ := course_ask_iff.mp hnext
        refine .inr ⟨⟨look, t⟩, rest, ⟨hlook, Nat.le_of_not_lt hlate, htold⟩, ?_, hrest⟩
        rw [Round.log, List.append_assoc]
        rfl
  · rintro (⟨seen, hends⟩ | ⟨round, rest, hfits, rfl, hrest⟩)
    · cases hends with
      | held hlook =>
        exact .inr ⟨log, true, [], by simp, hlook, course_pure_iff.mpr ⟨rfl, rfl⟩⟩
      | failed hlook => exact .inl ⟨_, rfl, hlook⟩
      | @late look t hlook htold hlate =>
        refine .inr ⟨look, false, [readAt t], rfl, hlook, course_ask_iff.mpr ⟨t, [], rfl, ?_⟩⟩
        rw [if_neg (Nat.not_lt.mpr htold), if_pos hlate]
        exact course_throw_iff.mpr ⟨rfl, rfl⟩
      | @tooLong look t hlook hlong =>
        refine .inr ⟨look, false, [readAt t], rfl, hlook, course_ask_iff.mpr ⟨t, [], rfl, ?_⟩⟩
        rw [if_pos hlong]
        exact course_throw_iff.mpr ⟨rfl, rfl⟩
    · refine .inr ⟨round.look, false, readAt round.time :: slept p.interval :: rest,
        by simp [Round.log], hfits.looked, course_ask_iff.mpr ⟨round.time, _, rfl, ?_⟩⟩
      rw [if_neg (Nat.not_lt.mpr hfits.told), if_neg (Nat.not_lt.mpr hfits.inTime)]
      exact course_ask_iff.mpr ⟨(), rest, rfl, hrest⟩

/-- A poll goes through rounds until it ends, or until it has looked as often as it may. -/
theorem loop_course_iff :
    Course (ExceptT.run (p.loop condition start n)) log r ↔
      ∃ (rounds : List Round) (final : Log),
        (∀ round ∈ rounds, round.Fits p condition start) ∧
        log = rounds.flatMap (Round.log p) ++ final ∧
        (rounds.length < n ∧ (∃ seen, p.Ends condition start final seen r) ∨
          rounds.length = n ∧ final = [] ∧ r = .error (.failed p.timeoutFailure)) :=
  rounds_course_iff (p.loop condition start) course_throw_iff loop_succ_iff

/-- A poll that may look so many times. -/
def waitWithin (p : Poll) (looks : Nat) (condition : Session Bool) : Procedure Unit :=
  ExceptT.lift Session.now >>= fun start => p.loop condition start looks

theorem waitWithin_course_iff :
    Course (ExceptT.run (p.waitWithin n condition)) log r ↔
      ∃ (start : Nat) (rest : Log), log = readAt start :: rest ∧
        Course (ExceptT.run (p.loop condition start n)) rest r :=
  course_ask_iff

theorem wait_course_iff :
    Course (ExceptT.run (p.wait condition)) log r ↔
      ∃ (start : Nat) (rest : Log), log = readAt start :: rest ∧
        Course (ExceptT.run (p.loop condition start p.looks)) rest r :=
  waitWithin_course_iff

/-- A poll does nothing but look at the condition, read the clock and sleep. -/
theorem wait_only (h : Course (ExceptT.run (p.wait condition)) log r)
    {x : Exchange Request.Reply} (hx : x ∈ log) :
    (∃ look seen, Course (ExceptT.run condition) look seen ∧ x ∈ look) ∨
      x.1 = Request.now ∨ ∃ span, x.1 = Request.pause span := by
  obtain ⟨start, rest, rfl, hloop⟩ := wait_course_iff.mp h
  obtain ⟨rounds, final, hrounds, rfl, hfinal⟩ := loop_course_iff.mp hloop
  simp only [List.mem_cons, List.mem_append, List.mem_flatMap] at hx
  rcases hx with rfl | ⟨round, hround, hx⟩ | hx
  · exact .inr (.inl rfl)
  · simp only [Round.log, List.mem_append, List.mem_cons, List.not_mem_nil, or_false] at hx
    rcases hx with hx | rfl | rfl
    · exact .inl ⟨_, _, (hrounds round hround).looked, hx⟩
    · exact .inr (.inl rfl)
    · exact .inr (.inr ⟨_, rfl⟩)
  · rcases hfinal with ⟨-, seen, hends⟩ | ⟨-, rfl, -⟩
    · cases hends with
      | held hlook => exact .inl ⟨_, _, hlook, hx⟩
      | failed hlook => exact .inl ⟨_, _, hlook, hx⟩
      | late hlook _ _ | tooLong hlook _ =>
        rcases List.mem_append.mp hx with hx | hx
        · exact .inl ⟨_, _, hlook, hx⟩
        · obtain rfl := List.mem_singleton.mp hx
          exact .inr (.inl rfl)
    · exact absurd hx List.not_mem_nil

/-- If the clock was read last, a span can tell when a sleep that begins then would end. -/
def Told (p : Poll) (start : Nat) (log : Log) : Prop :=
  ∀ t, log.getLast? = some (readAt t) → t - start + p.interval ≤ Seconds.longest

theorem told_concat {t : Nat} :
    p.Told start (log ++ [readAt t]) ↔ t - start + p.interval ≤ Seconds.longest := by
  refine ⟨fun h => h t List.getLast?_concat, fun h t' hlast => ?_⟩
  have hread : readAt t = readAt t' := Option.some.inj (List.getLast?_concat.symm.trans hlast)
  exact readAt_inj hread ▸ h

/-- The condition decides what a poll ends with, and where it does not hold the last sleep. -/
theorem Ends.result {seen : Except Failure Bool} (h : p.Ends condition start log seen r)
    (front : Log) :
    (r = .ok () ↔ seen = .ok true) ∧ (∀ f, seen = .error f → r = .error (.failed f)) ∧
      (seen = .ok false → p.Told start (front ++ log) →
        r = .error (.failed p.timeoutFailure)) ∧
      ((∃ m, r = .error (.panicked m)) ↔ seen = .ok false ∧ ¬ p.Told start (front ++ log)) := by
  cases h with
  | held _ => simp
  | failed _ => simp
  | late _ htold _ =>
    rw [← List.append_assoc, told_concat]
    simp [htold]
  | tooLong _ hlong =>
    rw [← List.append_assoc, told_concat]
    simp [Nat.not_le.mpr hlong, overflow]

end

/-! ### A clock -/

/-- A device on which nothing ever holds and time passes in pauses only. -/
def idle : (q : Request) → Nat → q.Reply × Nat
  | .now, t => (t, t)
  | .pause span, t => ((), t + span)
  | .run _, t => (.ok default, t)
  | .jobInstalled _, t | .controllerPresent, t | .batteryPresent, t | .batteryDischarging, t =>
    (false, t)
  | .openBattery, t | .refreshBattery, t | .record _, t => (.ok (), t)

end Poll
end DeviceLab.Device
