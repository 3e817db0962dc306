import DeviceLab.Proofs.Poll
import DeviceLab.Proofs.Text

/-! What an answer about a service rests on.

The status of a service is polled until it names no stage of a start, and is then
asked for once more. That last status alone decides the answer, and whether the
service is restarted or started, even if it does name such a stage
(`decided_by_last_status`). -/
namespace DeviceLab.Device
open Dialogue

theorem Session.output_course_iff {log : Log} {c : Command} {r : Except Failure String} :
    Course (ExceptT.run (Session.output c)) log r ↔
      ∃ reply : Except Failure Output,
        log = [ended c reply] ∧ r = reply.map fun out => Text.trim out.out := by
  refine ⟨Session.output_course, ?_⟩
  rintro ⟨reply, rfl, rfl⟩
  cases reply with
  | error e => exact course_try_iff.mpr (.inl ⟨e, rfl, course_question_iff.mpr rfl⟩)
  | ok out =>
    exact course_try_iff.mpr (.inr ⟨[ended c (.ok out)], out, [], rfl, course_question_iff.mpr rfl,
      course_pure_iff.mpr ⟨rfl, rfl⟩⟩)

namespace Upstart

/-! ### Statuses -/

/-- The status of the service was asked for. -/
def asked (service : String) (reply : Except Failure Output) : Exchange Request.Reply :=
  ended (Command.of ["status", service]) reply

theorem running_trim (out : String) : running (Text.trim out) = running out :=
  Text.contains_trim (by decide) out

theorem starting_trim (out : String) : starting (Text.trim out) = starting out := by
  have hpre : "start/pre-start".toList.any Text.isBlank = false := by decide
  have hpost : "start/post-start".toList.any Text.isBlank = false := by decide
  rw [starting, starting, Text.contains_trim hpre, Text.contains_trim hpost]

/-- The service is in no stage of a start. -/
def settled (service : String) : Session Bool :=
  status service >>= fun out => pure !starting out

/-- The poll that waits for the service to settle. -/
def settling (settle : Poll) (service : String) : Poll :=
  { settle with desc := some (service ++ " to finish starting") }

/-- What restarts a service that runs, and starts any other. -/
def verb (service : String) (timeout : Option Nat) (up : Bool) : Command :=
  { Command.of [if up then "restart" else "start", service] with timeout }

theorem isRunning_eq (settle : Poll) (service : String) :
    isRunning settle service =
      ((settling settle service).wait (settled service) >>= fun _ =>
        Procedure.session (status service >>= fun out => pure (running out))) := rfl

theorem restart_eq (settle : Poll) (service : String) (timeout : Option Nat) :
    restart settle service timeout =
      (isRunning settle service >>= fun up =>
        Procedure.session (Session.output (verb service timeout up)) >>= fun _ => pure ()) := by
  refine congrArg (isRunning settle service >>= ·) (funext fun up => ?_)
  cases up <;> rfl

section
variable {service : String} {log : Log}

/-- One status is asked for, and tells what there is to tell, blanks around it or none. -/
theorem status_course_iff {tells : String → Bool} (trims : ∀ out, tells (Text.trim out) = tells out)
    {r : Except Failure Bool} :
    Course (ExceptT.run (status service >>= fun out => pure (tells out))) log r ↔
      ∃ reply : Except Failure Output,
        log = [asked service reply] ∧ r = reply.map fun out => tells out.out := by
  rw [course_try_iff]
  constructor
  · rintro (⟨e, rfl, hstatus⟩ | ⟨first, out, rest, rfl, hstatus, hend⟩)
    · obtain ⟨reply, rfl, hreply⟩ := Session.output_course hstatus
      cases reply with
      | error f =>
        cases hreply
        exact ⟨_, rfl, rfl⟩
      | ok out => cases hreply
    · obtain ⟨reply, rfl, hreply⟩ := Session.output_course hstatus
      obtain ⟨rfl, rfl⟩ := course_pure_iff.mp hend
      cases reply with
      | error f => cases hreply
      | ok printed =>
        obtain rfl := Except.ok.inj hreply
        exact ⟨_, rfl, congrArg Except.ok (trims printed.out)⟩
  · rintro ⟨reply, rfl, rfl⟩
    have hstatus : Course (ExceptT.run (status service)) [asked service reply] _ :=
      Session.output_course_iff.mpr ⟨reply, rfl, rfl⟩
    cases reply with
    | error f => exact .inl ⟨f, rfl, hstatus⟩
    | ok out =>
      exact .inr ⟨_, _, [], rfl, hstatus,
        course_pure_iff.mpr ⟨rfl, congrArg Except.ok (trims out.out).symm⟩⟩

theorem settled_course_iff {r : Except Failure Bool} :
    Course (ExceptT.run (settled service)) log r ↔
      ∃ reply : Except Failure Output,
        log = [asked service reply] ∧ r = reply.map fun out => !starting out.out :=
  status_course_iff fun out => by rw [starting_trim]

/-- A look that goes on has seen the service in a stage of a start. -/
theorem starting_of_look (h : Course (ExceptT.run (settled service)) log (.ok false)) :
    ∃ out, log = [asked service (.ok out)] ∧ starting out.out = true := by
  obtain ⟨reply, hlook, hseen⟩ := settled_course_iff.mp h
  cases reply with
  | error f => cases hseen
  | ok out => exact ⟨out, hlook, by simpa using (Except.ok.inj hseen).symm⟩

theorem look_of_starting {out : Output} (h : starting out.out = true) :
    Course (ExceptT.run (settled service)) [asked service (.ok out)] (.ok false) :=
  settled_course_iff.mpr ⟨.ok out, rfl, by simp [Except.map, h]⟩

theorem asked_inj {reply reply' : Except Failure Output}
    (h : asked service reply = asked service reply') : reply = reply' :=
  eq_of_heq (Sigma.mk.inj h).2

theorem starting_of_round {p : Poll} {start : Nat} {round : Poll.Round}
    (hfits : round.Fits p (settled service) start) {reply : Except Failure Output}
    (hmem : asked service reply ∈ round.log p) :
    ∃ out, reply = .ok out ∧ starting out.out = true := by
  obtain ⟨out, hlook, hstarting⟩ := starting_of_look hfits.looked
  rw [Poll.Round.log, hlook] at hmem
  simp only [List.cons_append, List.nil_append, List.mem_cons, List.not_mem_nil, or_false] at hmem
  rcases hmem with h | h | h
  · exact ⟨out, asked_inj h, hstarting⟩
  · cases congrArg Sigma.fst h
  · cases congrArg Sigma.fst h

end

/-! ### The wait for the service to settle -/

section
variable (settle : Poll) (service : String) (start : Nat)

/-- The log of rounds in which the service was starting, and of what came behind them. -/
structure Waits (rounds : List Poll.Round) (final log : Log) : Prop where
  fit : ∀ round ∈ rounds, round.Fits (settling settle service) (settled service) start
  log_eq : log =
    readAt start :: (rounds.flatMap (Poll.Round.log (settling settle service)) ++ final)

/-- The last look of the poll. -/
inductive Settles : Log → Except Abort Unit → Prop where
  | settled {polled : Output} : starting polled.out = false →
      Settles [asked service (.ok polled)] (.ok ())
  | unread {f : Failure} : Settles [asked service (.error f)] (.error (.failed f))
  | late {out : Output} {t : Nat} : starting out.out = true →
      t - start + settle.interval ≤ Seconds.longest →
      settle.timeout < t - start + settle.interval →
        Settles [asked service (.ok out), readAt t]
          (.error (.failed (settling settle service).timeoutFailure))
  | tooLong {out : Output} {t : Nat} : starting out.out = true →
      Seconds.longest < t - start + settle.interval →
        Settles [asked service (.ok out), readAt t] (.error Poll.overflow)

end

section
variable {settle : Poll} {service : String} {timeout : Option Nat} {start looks : Nat}
  {log final : Log}

theorem ends_iff_settles {r : Except Abort Unit} :
    (∃ seen, (settling settle service).Ends (settled service) start final seen r) ↔
      Settles settle service start final r := by
  constructor
  · rintro ⟨seen, hends⟩
    cases hends with
    | held hlook =>
      obtain ⟨reply, rfl, hreply⟩ := settled_course_iff.mp hlook
      cases reply with
      | error f => cases hreply
      | ok polled => exact .settled (by simpa using (Except.ok.inj hreply).symm)
    | failed hlook =>
      obtain ⟨reply, rfl, hreply⟩ := settled_course_iff.mp hlook
      cases reply with
      | error f =>
        cases hreply
        exact .unread
      | ok polled => cases hreply
    | late hlook htold hlate =>
      obtain ⟨out, rfl, hstarting⟩ := starting_of_look hlook
      exact .late hstarting htold hlate
    | tooLong hlook hlong =>
      obtain ⟨out, rfl, hstarting⟩ := starting_of_look hlook
      exact .tooLong hstarting hlong
  · intro hsettles
    cases hsettles with
    | @settled polled hsettled =>
      exact ⟨_, .held (settled_course_iff.mpr ⟨.ok polled, rfl, by simp [Except.map, hsettled]⟩)⟩
    | @unread f => exact ⟨_, .failed (settled_course_iff.mpr ⟨.error f, rfl, rfl⟩)⟩
    | late hstarting htold hlate => exact ⟨_, .late (look_of_starting hstarting) htold hlate⟩
    | tooLong hstarting hlong => exact ⟨_, .tooLong (look_of_starting hstarting) hlong⟩

/-- The poll goes through rounds until a look is the last one, or no more looks are allowed. -/
theorem settling_course_iff {r : Except Abort Unit} :
    Course (ExceptT.run ((settling settle service).waitWithin looks (settled service))) log r ↔
      ∃ start rounds final, Waits settle service start rounds final log ∧
        (rounds.length < looks ∧ Settles settle service start final r ∨
          rounds.length = looks ∧ final = [] ∧
            r = .error (.failed (settling settle service).timeoutFailure)) := by
  rw [Poll.waitWithin_course_iff]
  constructor
  · rintro ⟨start, rest, rfl, hloop⟩
    obtain ⟨rounds, final, hrounds, rfl, hfinal⟩ := Poll.loop_course_iff.mp hloop
    exact ⟨start, rounds, final, ⟨hrounds, rfl⟩,
      hfinal.imp_left (And.imp_right ends_iff_settles.mp)⟩
  · rintro ⟨start, rounds, final, ⟨hrounds, rfl⟩, hfinal⟩
    exact ⟨start, _, rfl, Poll.loop_course_iff.mpr ⟨rounds, final, hrounds, rfl,
      hfinal.imp_left (And.imp_right ends_iff_settles.mpr)⟩⟩

/-- A poll that ends well has seen stages of a start, and in the end none. -/
theorem settling_ok
    (h : Course (ExceptT.run ((settling settle service).wait (settled service))) log (.ok ())) :
    ∃ before polled, log = before ++ [asked service (.ok polled)] ∧
      starting polled.out = false ∧
      ∀ reply, asked service reply ∈ before → ∃ out, reply = .ok out ∧ starting out.out = true := by
  obtain ⟨start, rounds, final, ⟨hrounds, rfl⟩, ⟨-, hsettles⟩ | ⟨-, -, hout⟩⟩ :=
    settling_course_iff.mp h
  case inr => cases hout
  cases hsettles with
  | @settled polled hsettled =>
    refine ⟨readAt start :: rounds.flatMap (Poll.Round.log (settling settle service)), polled,
      rfl, hsettled, fun reply hmem => ?_⟩
    rcases List.mem_cons.mp hmem with hread | hmem
    · cases congrArg Sigma.fst hread
    · obtain ⟨round, hround, hmem⟩ := List.mem_flatMap.mp hmem
      exact starting_of_round (hrounds round hround) hmem

/-! ### Answers, and what is done by them -/

/-- The status that is asked for last, and what it tells. -/
theorem answer_course_iff {r : Except Abort Bool} :
    Course (ExceptT.run (Procedure.session (status service >>= fun out =>
        pure (running out)))) log r ↔
      ∃ reply : Except Failure Output, log = [asked service reply] ∧
        r = (reply.map fun out => running out.out).mapError .failed := by
  rw [session_course_iff]
  constructor
  · rintro ⟨r', hstatus, rfl⟩
    obtain ⟨reply, rfl, rfl⟩ := (status_course_iff running_trim).mp hstatus
    exact ⟨reply, rfl, rfl⟩
  · rintro ⟨reply, rfl, rfl⟩
    exact ⟨_, (status_course_iff running_trim).mpr ⟨reply, rfl, rfl⟩, rfl⟩

/-- What restarts or starts the service is run, and its end is the end. -/
theorem verb_course_iff {up : Bool} {r : Except Abort Unit} :
    Course (ExceptT.run (Procedure.session (Session.output (verb service timeout up)) >>= fun _ =>
        pure ())) log r ↔
      ∃ reply : Except Failure Output, log = [ended (verb service timeout up) reply] ∧
        r = (reply.map fun _ => ()).mapError .failed := by
  rw [Poll.look_course_iff]
  constructor
  · rintro (⟨f, rfl, hout⟩ | ⟨first, out, rest, rfl, hout, hend⟩)
    · obtain ⟨reply, rfl, hreply⟩ := Session.output_course hout
      refine ⟨reply, rfl, ?_⟩
      cases reply with
      | error e => cases hreply; rfl
      | ok printed => cases hreply
    · obtain ⟨reply, rfl, hreply⟩ := Session.output_course hout
      obtain ⟨rfl, rfl⟩ := course_pure_iff.mp hend
      refine ⟨reply, rfl, ?_⟩
      cases reply with
      | error e => cases hreply
      | ok printed => rfl
  · rintro ⟨reply, rfl, rfl⟩
    have hout : Course (ExceptT.run (Session.output (verb service timeout up)))
      [ended (verb service timeout up) reply] _ := Session.output_course_iff.mpr ⟨reply, rfl, rfl⟩
    cases reply with
    | error f => exact .inl ⟨f, rfl, hout⟩
    | ok out => exact .inr ⟨_, _, [], rfl, hout, course_pure_iff.mpr ⟨rfl, rfl⟩⟩

/-- Once the service has settled, one more status is the answer. -/
theorem isRunning_ok_iff {up : Bool} :
    Course (ExceptT.run (isRunning settle service)) log (.ok up) ↔
      ∃ waited last, log = waited ++ [asked service (.ok last)] ∧ up = running last.out ∧
        Course (ExceptT.run ((settling settle service).wait (settled service))) waited
          (.ok ()) := by
  rw [isRunning_eq, course_try_iff]
  constructor
  · rintro (⟨f, hf, -⟩ | ⟨waited, _, rest, rfl, hwait, hstatus⟩)
    · cases hf
    obtain ⟨reply, rfl, hreply⟩ := answer_course_iff.mp hstatus
    cases reply with
    | error f => cases hreply
    | ok last => exact ⟨waited, last, rfl, Except.ok.inj hreply, hwait⟩
  · rintro ⟨waited, last, rfl, rfl, hwait⟩
    exact .inr ⟨waited, (), _, rfl, hwait, answer_course_iff.mpr ⟨_, rfl, rfl⟩⟩

/-- The service is restarted or started if there is an answer, and left alone if there is none. -/
theorem act_course_iff {answer : Procedure Bool} {r : Except Abort Unit} :
    Course (ExceptT.run (answer >>= fun up =>
        Procedure.session (Session.output (verb service timeout up)) >>= fun _ => pure ())) log r ↔
      (∃ e, r = .error e ∧ Course (ExceptT.run answer) log (.error e)) ∨
        ∃ before up reply, log = before ++ [ended (verb service timeout up) reply] ∧
          r = (reply.map fun _ => ()).mapError .failed ∧
          Course (ExceptT.run answer) before (.ok up) := by
  rw [course_try_iff]
  refine or_congr Iff.rfl ⟨?_, ?_⟩
  · rintro ⟨before, up, rest, rfl, hanswer, hverb⟩
    obtain ⟨reply, rfl, rfl⟩ := verb_course_iff.mp hverb
    exact ⟨before, up, reply, rfl, rfl, hanswer⟩
  · rintro ⟨before, up, reply, rfl, rfl, hanswer⟩
    exact ⟨before, up, _, rfl, hanswer, verb_course_iff.mpr ⟨reply, rfl, rfl⟩⟩

theorem restart_course_iff {r : Except Abort Unit} :
    Course (ExceptT.run (restart settle service timeout)) log r ↔
      (∃ e, r = .error e ∧ Course (ExceptT.run (isRunning settle service)) log (.error e)) ∨
        ∃ before up reply, log = before ++ [ended (verb service timeout up) reply] ∧
          r = (reply.map fun _ => ()).mapError .failed ∧
          Course (ExceptT.run (isRunning settle service)) before (.ok up) := by
  rw [restart_eq]
  exact act_course_iff

/-- To answer, nothing is done but to ask for the status, and to wait. -/
theorem asked_of_mem {r : Except Abort Bool}
    (h : Course (ExceptT.run (isRunning settle service)) log r) {x : Exchange Request.Reply}
    (hx : x ∈ log) :
    (∃ reply, x = asked service reply) ∨ x.1 = Request.now ∨ ∃ span, x.1 = Request.pause span := by
  have hpoll : ∀ {waited : Log} {r : Except Abort Unit},
      Course (ExceptT.run ((settling settle service).wait (settled service))) waited r →
      x ∈ waited →
      (∃ reply, x = asked service reply) ∨ x.1 = Request.now ∨
        ∃ span, x.1 = Request.pause span := by
    intro waited r hwait hmem
    refine (Poll.wait_only hwait hmem).imp_left fun ⟨look, _, hcourse, hin⟩ => ?_
    obtain ⟨reply, rfl, -⟩ := settled_course_iff.mp hcourse
    exact ⟨reply, List.mem_singleton.mp hin⟩
  rw [isRunning_eq] at h
  obtain ⟨f, -, hwait⟩ | ⟨waited, _, rest, rfl, hwait, hstatus⟩ := course_try_iff.mp h
  · exact hpoll hwait hx
  · rcases List.mem_append.mp hx with hx | hx
    · exact hpoll hwait hx
    · obtain ⟨reply, rfl, -⟩ := answer_course_iff.mp hstatus
      exact .inl ⟨reply, List.mem_singleton.mp hx⟩

theorem verb_ne_status (up : Bool) : verb service timeout up ≠ Command.of ["status", service] := by
  intro h
  have := congrArg Command.argv h
  cases up <;> simp [verb, Command.of] at this

theorem verb_inj {up up' : Bool} (h : verb service timeout up = verb service timeout up') :
    up = up' := by
  have := congrArg Command.argv h
  cases up <;> cases up' <;> simp [verb, Command.of] at this ⊢

/-- To answer, the service is not touched. -/
theorem not_ran_verb {r : Except Abort Bool}
    (h : Course (ExceptT.run (isRunning settle service)) log r) (up : Bool) :
    ¬ log.Ran (verb service timeout up) := by
  rintro ⟨x, hx, hrun⟩
  rcases asked_of_mem h hx with ⟨reply, rfl⟩ | hnow | ⟨span, hpause⟩
  · exact verb_ne_status up (Request.run.inj hrun).symm
  · cases hnow.symm.trans hrun
  · cases hpause.symm.trans hrun

end

/-! ### What decides -/

/-- What is read before there is an answer: statuses that name stages of a start, then
one that names none, and then the last one. -/
structure Read (service : String) (log before : Log) (polled last : Output) : Prop where
  log_eq : log = before ++ [asked service (.ok polled), asked service (.ok last)]
  starts : ∀ reply, asked service reply ∈ before → ∃ out, reply = .ok out ∧ starting out.out = true
  settled : starting polled.out = false

theorem read_of_answer {settle : Poll} {service : String} {log : Log} {up : Bool}
    (h : Course (ExceptT.run (isRunning settle service)) log (.ok up)) :
    ∃ before polled last, Read service log before polled last ∧ up = running last.out ∧
      ∀ other, Course (ExceptT.run (isRunning settle service))
        (before ++ [asked service (.ok polled), asked service (.ok other)])
        (.ok (running other.out)) := by
  obtain ⟨waited, last, rfl, hup, hwait⟩ := isRunning_ok_iff.mp h
  obtain ⟨before, polled, rfl, hsettled, hstarts⟩ := settling_ok hwait
  refine ⟨before, polled, last, ⟨by simp, hstarts, hsettled⟩, hup, fun other => ?_⟩
  exact isRunning_ok_iff.mpr ⟨_, other, by simp, rfl, hwait⟩

/-- **The last status decides, whatever it names.** Before there is an answer, the service
has been seen to be settled, but it is the status behind that which tells whether it is
running; any other would have been taken as well. So an answer is given in the middle of
a start, and `start` issued there, if the last status names a stage of one: nothing is
done if the service has begun to start between the two. -/
theorem decided_by_last_status (settle : Poll) (service : String) :
    (∀ (log : Log) up, Course (ExceptT.run (isRunning settle service)) log (.ok up) →
      ∃ before polled last, Read service log before polled last ∧ up = running last.out ∧
        ∀ other, Course (ExceptT.run (isRunning settle service))
          (before ++ [asked service (.ok polled), asked service (.ok other)])
          (.ok (running other.out))) ∧
    ∀ timeout (log : Log) r, Course (ExceptT.run (restart settle service timeout)) log r →
      (log.Ran (verb service timeout false) ↔
        ∃ asks reply before polled last,
          log = asks ++ [ended (verb service timeout false) reply] ∧
          Read service asks before polled last ∧ running last.out = false) := by
  refine ⟨fun log up => read_of_answer, fun timeout log r h => ⟨fun hran => ?_, ?_⟩⟩
  · rcases restart_course_iff.mp h with ⟨f, -, hanswer⟩ | ⟨asks, up, reply, rfl, -, hanswer⟩
    · exact absurd hran (not_ran_verb hanswer false)
    · have hlast : Log.Ran [ended (verb service timeout up) reply] (verb service timeout false) :=
        (Log.ran_append.mp hran).resolve_left (not_ran_verb hanswer false)
      obtain ⟨x, hx, hrun⟩ := hlast
      obtain rfl := List.mem_singleton.mp hx
      obtain rfl : up = false := verb_inj (Request.run.inj hrun)
      obtain ⟨before, polled, last, hread, hup, -⟩ := read_of_answer hanswer
      exact ⟨asks, reply, before, polled, last, rfl, hread, hup.symm⟩
  · rintro ⟨asks, reply, -, -, -, rfl, -⟩
    exact Log.ran_append.mpr
      (.inr ⟨ended (verb service timeout false) reply, List.mem_singleton_self _, rfl⟩)

/-- A command that ended well, and what it wrote. -/
def wrote (out : String) : Output := ⟨"", some 0, out, ""⟩

/-- A service that begins to start behind the status that shows it settled is started. -/
theorem decided_by_last_status_pre_start :
    let polled := wrote "ui stop/waiting"
    let last := wrote "ui start/pre-start, process 10"
    let asks : Log := [readAt 0, asked "ui" (.ok polled), asked "ui" (.ok last)]
    let log : Log := asks ++ [ended (verb "ui" none false) (.ok (wrote ""))]
    starting last.out = true ∧
      Course (ExceptT.run (isRunning usualSettle "ui")) asks (.ok false) ∧
      Course (ExceptT.run (restart usualSettle "ui" none)) log (.ok ()) ∧
      log.Ran (verb "ui" none false) := by
  intro polled last asks log
  have hsettled : starting polled.out = false := by decide +kernel
  have hdown : running last.out = false := by decide +kernel
  have hlook : Course (ExceptT.run (settled "ui")) [asked "ui" (.ok polled)] (.ok true) :=
    (status_course_iff fun out => by rw [starting_trim]).mpr
      ⟨.ok polled, rfl, congrArg (fun b => Except.ok !b) hsettled.symm⟩
  have hwait : Course (ExceptT.run ((settling usualSettle "ui").wait (settled "ui")))
      [readAt 0, asked "ui" (.ok polled)] (.ok ()) :=
    Poll.wait_course_iff.mpr ⟨0, _, rfl, Poll.loop_course_iff.mpr
      ⟨[], _, by simp, rfl, .inl ⟨by decide, _, .held hlook⟩⟩⟩
  have hasks : Course (ExceptT.run (isRunning usualSettle "ui")) asks (.ok false) :=
    isRunning_ok_iff.mpr ⟨_, last, rfl, hdown.symm, hwait⟩
  have hlog : Course (ExceptT.run (restart usualSettle "ui" none)) log (.ok ()) :=
    restart_course_iff.mpr (.inr ⟨asks, false, .ok (wrote ""), rfl, rfl, hasks⟩)
  have hread : Read "ui" asks [readAt 0] polled last :=
    ⟨rfl, fun _ h => (nomatch congrArg Sigma.fst (List.mem_singleton.mp h)), hsettled⟩
  refine ⟨by decide +kernel, hasks, hlog, ?_⟩
  exact ((decided_by_last_status usualSettle "ui").2 none log _ hlog).mpr
    ⟨asks, .ok (wrote ""), [readAt 0], polled, last, rfl, hread, hdown⟩

end Upstart
end DeviceLab.Device
