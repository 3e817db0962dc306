import DeviceLab.Proofs.Discharge
import Mathlib.Logic.Function.Iterate

/-! An attempt to force a discharge, as the device answers it.

Whether there is a battery and a controller, whether the controller refuses, and what a
look at the battery shows is told from the device alone, one question behind another.
The attempt asks as long as the device refuses and looks as long as the looks are in
vain, and what it finds in the way is what stands in the way (`force_meets`). -/
namespace DeviceLab.Device
open Dialogue

namespace Log

/-- What became of the commands that were run. -/
def replies (log : Log) : List (Except Failure Output) :=
  log.filterMap fun
    | ⟨.run _, r⟩ => some r
    | _ => none

/-- What became of the looks at the battery. -/
def looks (log : Log) : List (Except Failure Unit) :=
  log.filterMap fun
    | ⟨.refreshBattery, r⟩ => some r
    | _ => none

variable {log other : Log}

theorem replies_append : replies (log ++ other) = log.replies ++ other.replies :=
  List.filterMap_append

theorem looks_append : looks (log ++ other) = log.looks ++ other.looks :=
  List.filterMap_append

end Log

/-! ### Streams that are drawn from -/

section
variable {α : Type} {stream : Nat → α} {goesOn p q : Nat → Prop} {bound : Nat} {x : α}
  {xs : List α}

/-- What is drawn from a stream: the first value, and others as long as it goes on, so
many at most. -/
def Drawn (stream : Nat → α) (goesOn : Nat → Prop) (bound : Nat) (xs : List α) : Prop :=
  ∀ n x, xs[n]? = some x ↔ n < bound ∧ (∀ m < n, goesOn m) ∧ stream n = x

/-- Drawing comes to a value of this kind. -/
def Reaches (goesOn : Nat → Prop) (bound : Nat) (p : Nat → Prop) : Prop :=
  ∃ n < bound, (∀ m < n, goesOn m) ∧ p n

theorem drawn_zero : Drawn stream goesOn 0 [] := by
  simp [Drawn]

theorem drawn_once (h : ¬ goesOn 0) (hx : stream 0 = x) :
    Drawn stream goesOn (bound + 1) [x] := by
  intro n y
  cases n with
  | zero => simp [hx]
  | succ n => exact iff_of_false (by simp) fun hdrawn => h (hdrawn.2.1 0 (Nat.succ_pos n))

theorem Drawn.cons (h : goesOn 0) (hx : stream 0 = x)
    (rest : Drawn (fun n => stream (n + 1)) (fun n => goesOn (n + 1)) bound xs) :
    Drawn stream goesOn (bound + 1) (x :: xs) := by
  intro n y
  cases n with
  | zero => simp [hx]
  | succ n =>
    rw [List.getElem?_cons_succ, rest n y, Nat.add_lt_add_iff_right, Nat.forall_lt_succ_left,
      and_iff_right h]

theorem not_reaches_zero : ¬ Reaches goesOn 0 p :=
  fun ⟨n, hn, _⟩ => Nat.not_lt_zero n hn

theorem reaches_succ_iff :
    Reaches goesOn (bound + 1) p ↔
      p 0 ∨ goesOn 0 ∧ Reaches (fun n => goesOn (n + 1)) bound fun n => p (n + 1) := by
  constructor
  · rintro ⟨n, hn, hbefore, hlast⟩
    cases n with
    | zero => exact .inl hlast
    | succ n =>
      obtain ⟨hfirst, hrest⟩ := Nat.forall_lt_succ_left.mp hbefore
      exact .inr ⟨hfirst, n, Nat.lt_of_succ_lt_succ hn, hrest, hlast⟩
  · rintro (hfirst | ⟨hfirst, n, hn, hrest, hlast⟩)
    · exact ⟨0, Nat.succ_pos _, fun m hm => absurd hm (Nat.not_lt_zero m), hfirst⟩
    · exact ⟨n + 1, Nat.succ_lt_succ hn, Nat.forall_lt_succ_left.mpr ⟨hfirst, hrest⟩, hlast⟩

/-- Values behind which it does not go on are reached at one place only. -/
theorem Reaches.meet (hp : ∀ n, p n → ¬ goesOn n) (hq : ∀ n, q n → ¬ goesOn n)
    (h : Reaches goesOn bound p) (h' : Reaches goesOn bound q) : ∃ n, p n ∧ q n := by
  obtain ⟨n, -, hbefore, hn⟩ := h
  obtain ⟨m, -, hbefore', hm⟩ := h'
  obtain hlt | rfl | hlt := Nat.lt_trichotomy n m
  · exact absurd (hbefore' n hlt) (hp n hn)
  · exact ⟨n, hn, hm⟩
  · exact absurd (hbefore m hlt) (hq m hm)

end

namespace Discharge

section
variable {σ : Type} (answer : (q : Request) → σ → q.Reply × σ) (interval : Nat)

/-! ### What the device says -/

/-- The device says that it has a battery, and then that it has a controller. -/
structure Equipped (s : σ) : Prop where
  battery : (answer .batteryPresent s).1 = true
  controller : (answer .controllerPresent (answer .batteryPresent s).2).1 = true

/-- The device behind these two questions. -/
def ready (s : σ) : σ :=
  (answer .controllerPresent (answer .batteryPresent s).2).2

/-- What the controller says when it is asked to stop charging. -/
def response (s : σ) : Except Failure Output :=
  (answer (.run (charging false)) s).1

/-- The controller refuses. -/
def Refuses (s : σ) : Prop := ∃ f, response answer s = .error f

/-- The device once it was asked and one interval was slept. -/
def asked (s : σ) : σ :=
  (answer (.pause interval) (answer (.run (charging false)) s).2).2

/-- Behind some refusals, fewer than it may be asked, the controller accepts, and leaves
the device so. -/
def Accepts (tries : Nat) (s u : σ) : Prop :=
  Reaches (fun n => Refuses answer ((asked answer interval)^[n] s)) tries fun n =>
    ∃ out, answer (.run (charging false)) ((asked answer interval)^[n] s) = (.ok out, u)

/-- What the controller says as long as it refuses, so often at most. -/
def Answers (tries : Nat) (s : σ) (replies : List (Except Failure Output)) : Prop :=
  Drawn (fun n => response answer ((asked answer interval)^[n] s))
    (fun n => Refuses answer ((asked answer interval)^[n] s)) tries replies

/-- What stands in the way of a discharge. -/
inductive Obstacle.Stands (s : σ) : Obstacle → Prop where
  | noBattery : (answer .batteryPresent s).1 = false → Stands s .noBattery
  | noController : (answer .batteryPresent s).1 = true →
      (answer .controllerPresent (answer .batteryPresent s).2).1 = false → Stands s .noController
  | refused : Equipped answer s →
      (∀ n < tries, Refuses answer ((asked answer interval)^[n] (ready answer s))) →
      Stands s .refused

/-- Nothing stands in the way, and then the device is left so. -/
def Starts (s u : σ) : Prop :=
  Equipped answer s ∧ Accepts answer interval tries (ready answer s) u

/-- What a look at the battery shows: does it discharge? -/
def sight (s : σ) : Except Failure Bool :=
  Except.map (fun _ => (answer .batteryDischarging (answer .refreshBattery s).2).1)
    (answer .refreshBattery s).1

/-- The device once it was looked at, and one interval was slept. -/
def watched (s : σ) : σ :=
  (answer (.pause interval) (answer .batteryDischarging (answer .refreshBattery s).2).2).2

/-- What becomes of the looks at the battery as long as they are in vain, so often at most. -/
def Shows (looks : Nat) (s : σ) (results : List (Except Failure Unit)) : Prop :=
  Drawn (fun n => (answer .refreshBattery ((watched answer interval)^[n] s)).1)
    (fun n => sight answer ((watched answer interval)^[n] s) = .ok false) looks results

/-- Behind some looks in vain, fewer than there may be, a look at the battery fails so. -/
def Fails (looks : Nat) (s : σ) (f : Failure) : Prop :=
  Reaches (fun n => sight answer ((watched answer interval)^[n] s) = .ok false) looks fun n =>
    sight answer ((watched answer interval)^[n] s) = .error f

end

section
variable {σ : Type} {answer : (q : Request) → σ → q.Reply × σ} {interval : Nat}

theorem accepts_succ_iff {tries : Nat} {s u : σ} :
    Accepts answer interval (tries + 1) s u ↔
      (∃ out, answer (.run (charging false)) s = (.ok out, u)) ∨
        Refuses answer s ∧ Accepts answer interval tries (asked answer interval s) u :=
  reaches_succ_iff

theorem fails_succ_iff {looks : Nat} {s : σ} {f : Failure} :
    Fails answer interval (looks + 1) s f ↔
      sight answer s = .error f ∨
        sight answer s = .ok false ∧ Fails answer interval looks (watched answer interval s) f :=
  reaches_succ_iff

theorem not_refuses {s : σ} {out : Output} (h : response answer s = .ok out) :
    ¬ Refuses answer s := by
  rintro ⟨f, hf⟩
  cases h.symm.trans hf

/-- The controller accepts in one way only. -/
theorem Accepts.unique {tries : Nat} {s u u' : σ} (h : Accepts answer interval tries s u)
    (h' : Accepts answer interval tries s u') : u = u' := by
  have hstops : ∀ {u} n,
      (∃ out, answer (.run (charging false)) ((asked answer interval)^[n] s) = (.ok out, u)) →
        ¬ Refuses answer ((asked answer interval)^[n] s) :=
    fun n ⟨out, hout⟩ => not_refuses (congrArg Prod.fst hout)
  obtain ⟨n, ⟨out, hout⟩, out', hout'⟩ := h.meet hstops hstops h'
  exact congrArg Prod.snd (hout.symm.trans hout')

/-! ### Asking the controller -/

section
variable {n : Nat} {s t u : σ} {log : Log} {r : Except Failure Bool}

theorem chargeControl_of_refused {f : Failure} (h : response answer s = .error f)
    (rest : (ExceptT.run (chargeControl interval false true n)).Goes answer
      (asked answer interval s) log r u) :
    (ExceptT.run (chargeControl interval false true (n + 1))).Goes answer s
      (refusal interval false f ++ log) r u := by
  rw [chargeControl_succ]
  exact .ask (Prod.ext h rfl) (.ask rfl rest)

theorem chargeControl_of_accepted {out : Output}
    (h : answer (.run (charging false)) s = (.ok out, t)) :
    (ExceptT.run (chargeControl interval false true (n + 1))).Goes answer s
      [ended (charging false) (.ok out)] (.ok true) t := by
  rw [chargeControl_succ]
  exact .ask h goes_pure

end

/-- The controller is asked as long as it refuses, so often at most. -/
theorem chargeControl_goes (answer : (q : Request) → σ → q.Reply × σ) (interval n : Nat) (s : σ) :
    ∃ (log : Log) (r : Except Failure Bool) (u : σ),
      (ExceptT.run (chargeControl interval false true n)).Goes answer s log r u ∧
      Answers answer interval n s log.replies ∧ log.looks = [] ∧
      (r = .ok true ∧ Accepts answer interval n s u ∨
        r = .ok false ∧ ∀ m < n, Refuses answer ((asked answer interval)^[m] s)) := by
  induction n generalizing s with
  | zero =>
    exact ⟨[], .ok false, s, goes_pure, drawn_zero, rfl,
      .inr ⟨rfl, fun m hm => absurd hm (Nat.not_lt_zero m)⟩⟩
  | succ n ih =>
    rcases hreply : answer (.run (charging false)) s with ⟨f | out, t⟩
    · have hresponse : response answer s = .error f := congrArg Prod.fst hreply
      have hrefuses : Refuses answer s := ⟨f, hresponse⟩
      obtain ⟨log, r, u, hgoes, hdrawn, hlooks, hend⟩ := ih (asked answer interval s)
      refine ⟨_, r, u, chargeControl_of_refused hresponse hgoes, hdrawn.cons hrefuses hresponse,
        hlooks, hend.imp ?_ ?_⟩
      · exact fun ⟨hok, haccepts⟩ => ⟨hok, accepts_succ_iff.mpr (.inr ⟨hrefuses, haccepts⟩)⟩
      · exact fun ⟨hok, hall⟩ => ⟨hok, Nat.forall_lt_succ_left.mpr ⟨hrefuses, hall⟩⟩
    · have hresponse : response answer s = .ok out := congrArg Prod.fst hreply
      exact ⟨_, .ok true, t, chargeControl_of_accepted hreply,
        drawn_once (not_refuses hresponse) hresponse, rfl,
        .inl ⟨rfl, accepts_succ_iff.mpr (.inl ⟨out, hreply⟩)⟩⟩

/-! ### Looking at the battery -/

section
variable {n : Nat} {s t t' v : σ} {u : Unit} {log : Log} {r : Except Failure Bool}

theorem awaitDischarge_of_failed {f : Failure} (h : answer .refreshBattery s = (.error f, t)) :
    (ExceptT.run (awaitDischarge interval (n + 1))).Goes answer s [looked (.error f)]
      (.error f) t := by
  rw [awaitDischarge_succ]
  exact .error (goes_question h)

theorem awaitDischarge_of_shown (h : answer .refreshBattery s = (.ok u, t))
    (hshow : answer .batteryDischarging t = (true, t')) :
    (ExceptT.run (awaitDischarge interval (n + 1))).Goes answer s [looked (.ok u), showed true]
      (.ok true) t' := by
  rw [awaitDischarge_succ]
  exact Goes.ok (goes_question h) (.ask hshow goes_pure)

theorem awaitDischarge_of_vain (h : answer .refreshBattery s = (.ok u, t))
    (hshow : answer .batteryDischarging t = (false, t'))
    (rest : (ExceptT.run (awaitDischarge interval n)).Goes answer
      (watched answer interval s) log r v) :
    (ExceptT.run (awaitDischarge interval (n + 1))).Goes answer s (vain interval ++ log) r v := by
  have hpause : answer (.pause interval) t' = ((), watched answer interval s) := by
    rw [watched, h, hshow]
    rfl
  rw [awaitDischarge_succ]
  change Goes answer _ s ([looked (.ok u)] ++ showed false :: slept interval :: log) r v
  exact Goes.ok (goes_question h) (.ask hshow (.ask hpause rest))

end

/-- The battery is looked at as long as the looks are in vain, so often at most. -/
theorem awaitDischarge_goes (answer : (q : Request) → σ → q.Reply × σ) (interval n : Nat) (s : σ) :
    ∃ (log : Log) (r : Except Failure Bool) (u : σ),
      (ExceptT.run (awaitDischarge interval n)).Goes answer s log r u ∧
      Shows answer interval n s log.looks ∧ log.replies = [] ∧
      ∀ f, r = .error f ↔ Fails answer interval n s f := by
  induction n generalizing s with
  | zero =>
    exact ⟨[], .ok false, s, goes_pure, drawn_zero, rfl,
      fun f => iff_of_false nofun not_reaches_zero⟩
  | succ n ih =>
    simp only [fails_succ_iff]
    rcases hlook : answer .refreshBattery s with ⟨f | u, t⟩
    · have hsight : sight answer s = .error f := by
        rw [sight, hlook]
        rfl
      refine ⟨_, .error f, t, awaitDischarge_of_failed hlook,
        drawn_once ?_ (congrArg Prod.fst hlook), rfl, fun f' => by simp [hsight]⟩
      rw [Function.iterate_zero_apply, hsight]
      exact nofun
    rcases hshow : answer .batteryDischarging t with ⟨discharging, t'⟩
    have hsight : sight answer s = .ok discharging := by
      rw [sight, hlook]
      exact congrArg Except.ok (congrArg Prod.fst hshow)
    cases discharging with
    | true =>
      refine ⟨_, .ok true, t', awaitDischarge_of_shown hlook hshow,
        drawn_once ?_ (congrArg Prod.fst hlook), rfl, fun f => by simp [hsight]⟩
      rw [Function.iterate_zero_apply, hsight]
      exact nofun
    | false =>
      obtain ⟨log, r, v, hgoes, hdrawn, hreplies, hend⟩ := ih (watched answer interval s)
      exact ⟨_, r, v, awaitDischarge_of_vain hlook hshow hgoes,
        hdrawn.cons hsight (congrArg Prod.fst hlook), hreplies,
        fun f => (hend f).trans (by simp [hsight])⟩

/-! ### The attempt -/

/-- What an attempt asks is what there is to ask of the device. -/
structure Follows (answer : (q : Request) → σ → q.Reply × σ) (interval : Nat) (s : σ) (log : Log) :
    Prop where
  /-- The controller is asked if there is one, as long as it refuses. -/
  replies : Equipped answer s → Answers answer interval tries (ready answer s) log.replies
  no_replies : ¬ Equipped answer s → log.replies = []
  /-- The battery is looked at if nothing stands in the way, as long as that is in vain. -/
  results : ∀ u, Starts answer interval s u → Shows answer interval looks u log.looks
  no_results : (∀ u, ¬ Starts answer interval s u) → log.looks = []

/-- What an attempt finds is what the device has to show. -/
structure Meets (answer : (q : Request) → σ → q.Reply × σ) (interval : Nat) (s : σ) (log : Log)
    (found : Except Failure (Option Obstacle)) : Prop extends Follows answer interval s log where
  obstacle_iff : ∀ o : Obstacle, found = .ok (some o) ↔ o.Stands answer interval s
  failed_iff : ∀ f, found = .error f ↔
    ∃ u, Starts answer interval s u ∧ Fails answer interval looks u f

theorem Obstacle.Stands.not_starts {o : Obstacle} {s u : σ} (h : o.Stands answer interval s) :
    ¬ Starts answer interval s u := by
  rintro ⟨⟨hbattery, hcontroller⟩, n, hn, -, out, hout⟩
  cases h with
  | noBattery h => cases h.symm.trans hbattery
  | noController _ h => cases h.symm.trans hcontroller
  | refused _ hall => exact not_refuses (congrArg Prod.fst hout) (hall n hn)

theorem Obstacle.Stands.unique {o o' : Obstacle} {s : σ} (h : o.Stands answer interval s)
    (h' : o'.Stands answer interval s) : o = o' := by
  cases h with
  | noBattery h =>
    cases h' with
    | noBattery _ => rfl
    | noController hbattery _ => cases h.symm.trans hbattery
    | refused hequipped _ => cases h.symm.trans hequipped.battery
  | noController hbattery h =>
    cases h' with
    | noBattery h' => cases h'.symm.trans hbattery
    | noController _ _ => rfl
    | refused hequipped _ => cases h.symm.trans hequipped.controller
  | refused hequipped _ =>
    cases h' with
    | noBattery h' => cases h'.symm.trans hequipped.battery
    | noController _ h' => cases h'.symm.trans hequipped.controller
    | refused _ _ => rfl

section
variable {s u v : σ} {wait log : Log} {found : Except Failure (Option Obstacle)}
  {seen : Except Failure Bool}

theorem Meets.of_stands {o : Obstacle} (h : o.Stands answer interval s)
    (replies : Equipped answer s → Answers answer interval tries (ready answer s) log.replies)
    (no_replies : ¬ Equipped answer s → log.replies = []) (no_results : log.looks = []) :
    Meets answer interval s log (.ok (some o)) where
  replies := replies
  no_replies := no_replies
  results _ hstarts := absurd hstarts h.not_starts
  no_results _ := no_results
  obstacle_iff o' := by
    refine ⟨fun heq => ?_, fun h' => by rw [h.unique h']⟩
    cases heq
    exact h
  failed_iff f := iff_of_false nofun fun ⟨_, hstarts, _⟩ => h.not_starts hstarts

theorem Meets.of_starts (h : Starts answer interval s u)
    (replies : Answers answer interval tries (ready answer s) log.replies)
    (results : Shows answer interval looks u log.looks)
    (hseen : ∀ f, seen = .error f ↔ Fails answer interval looks u f) :
    Meets answer interval s log (seen.map fun _ => none) where
  replies _ := replies
  no_replies hno := absurd h.1 hno
  results u' h' := by rwa [← h.2.unique h'.2]
  no_results hno := absurd h (hno u)
  obstacle_iff o := iff_of_false (by cases seen <;> simp [Except.map]) fun ho => ho.not_starts h
  failed_iff f := by
    have hmap : (seen.map fun _ => (none : Option Obstacle)) = .error f ↔ seen = .error f := by
      cases seen <;> simp [Except.map]
    rw [hmap, hseen]
    exact ⟨fun hf => ⟨u, h, hf⟩, fun ⟨u', h', hf⟩ => h.2.unique h'.2 ▸ hf⟩

/-- The controller is asked behind the questions for a battery and for it. -/
theorem force_of_equipped (h : Equipped answer s)
    (rest : (ExceptT.run (chargeControl interval false true tries >>= fun accepted =>
      if !accepted then pure (some .refused)
      else awaitDischarge interval looks >>= fun _ => pure none)).Goes answer
        (ready answer s) log found u) :
    (ExceptT.run (force interval)).Goes answer s (equipped ++ log) found u := by
  rw [force_eq]
  exact .ask (Prod.ext h.battery rfl) (.ask (Prod.ext h.controller rfl) rest)

/-- The wait for a discharge ends the attempt, whatever it has seen. -/
theorem wait_ends (h : (ExceptT.run (awaitDischarge interval looks)).Goes answer u wait seen v) :
    (ExceptT.run (awaitDischarge interval looks >>= fun _ =>
      pure (none : Option Obstacle))).Goes answer u wait (seen.map fun _ => none) v := by
  cases seen with
  | error f => exact .error h
  | ok b =>
    rw [← List.append_nil wait]
    exact .ok h goes_pure

/-- An attempt finds what stands in the way, and asks what there is to ask until then. -/
theorem force_goes (answer : (q : Request) → σ → q.Reply × σ) (interval : Nat) (s : σ) :
    ∃ (log : Log) (found : Except Failure (Option Obstacle)) (u : σ),
      (ExceptT.run (force interval)).Goes answer s log found u ∧
        Meets answer interval s log found := by
  cases hbattery : (answer .batteryPresent s).1 with
  | false =>
    have hgoes : (ExceptT.run (force interval)).Goes answer s [⟨.batteryPresent, false⟩]
        (.ok (some .noBattery)) (answer .batteryPresent s).2 := by
      rw [force_eq]
      exact .ask (Prod.ext hbattery rfl) goes_pure
    exact ⟨_, _, _, hgoes, .of_stands (.noBattery hbattery)
      (fun h => by cases hbattery.symm.trans h.battery) (fun _ => rfl) rfl⟩
  | true =>
    cases hcontroller : (answer .controllerPresent (answer .batteryPresent s).2).1 with
    | false =>
      have hgoes : (ExceptT.run (force interval)).Goes answer s
          [⟨.batteryPresent, true⟩, ⟨.controllerPresent, false⟩] (.ok (some .noController))
          (ready answer s) := by
        rw [force_eq]
        exact .ask (Prod.ext hbattery rfl) (.ask (Prod.ext hcontroller rfl) goes_pure)
      exact ⟨_, _, _, hgoes, .of_stands (.noController hbattery hcontroller)
        (fun h => by cases hcontroller.symm.trans h.controller) (fun _ => rfl) rfl⟩
    | true =>
      have hequipped : Equipped answer s := ⟨hbattery, hcontroller⟩
      obtain ⟨asks, r, u, hasks, hreplies, hlooks, ⟨rfl, haccepts⟩ | ⟨rfl, hall⟩⟩ :=
        chargeControl_goes answer interval tries (ready answer s)
      · obtain ⟨wait, seen, v, hwait, hresults, hno, hfails⟩ :=
          awaitDischarge_goes answer interval looks u
        refine ⟨_, _, v, force_of_equipped hequipped (.ok hasks (wait_ends hwait)),
          .of_starts ⟨hequipped, haccepts⟩ ?replies ?results hfails⟩
        case replies =>
          rw [Log.replies_append, Log.replies_append, hno, List.append_nil]
          exact hreplies
        case results =>
          rw [Log.looks_append, Log.looks_append, hlooks]
          exact hresults
      · refine ⟨_, _, u, force_of_equipped hequipped (.ok hasks goes_pure),
          .of_stands (.refused hequipped hall) (fun _ => ?replies)
            (fun hno => absurd hequipped hno) ?results⟩
        case replies =>
          rw [Log.replies_append, Log.replies_append]
          exact (List.append_nil _).symm ▸ hreplies
        case results =>
          rw [Log.looks_append, Log.looks_append, hlooks]
          rfl

end

theorem force_meets (answer : (q : Request) → σ → q.Reply × σ) (interval : Nat) (s : σ) :
    Meets answer interval s (exchanges answer (ExceptT.run (force interval)) s)
      (run answer (ExceptT.run (force interval)) s).1 := by
  obtain ⟨log, found, u, ⟨rfl, hrun⟩, hmeets⟩ := force_goes answer interval s
  rwa [hrun]

end

end Discharge
end DeviceLab.Device
