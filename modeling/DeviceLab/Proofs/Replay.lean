import DeviceLab.Device.Rehearsal
import DeviceLab.Machine
import DeviceLab.Proofs.Restart

/-! Recorded conversations come to the same again.

While commands run in processes, it can be written down how each process ended and what
it left. A script of these notes, each under all the arguments of its command, leads the
conversation through the same exchanges to the same end, and is then used up. Of any
script, recorded or not, a command sees the one expectation that has its turn
(`replay_faithful`). -/
namespace DeviceLab.Device
open Dialogue
variable {σ τ α : Type}

/-- The same rehearsal with another runner. -/
def Rehearsal.on (s : Rehearsal σ) (runner : τ) : Rehearsal τ :=
  ⟨runner, s.clock, s.controller, s.battery, s.installed⟩

namespace Log

/-- The commands that were run, each with what became of it. -/
def outcomes (log : Log) : List (Command × Except Failure Output) :=
  log.filterMap fun
    | ⟨.run c, r⟩ => some (c, r)
    | _ => none

theorem outcomes_append (log other : Log) :
    outcomes (log ++ other) = log.outcomes ++ other.outcomes :=
  List.filterMap_append

end Log

/-! ### Recordings -/

/-- The note of a process: how it ended and what it wrote. There is none if it could not be
started or was stopped with its time up. -/
def recorded (c : Command) : Except OsError (Finish × Nat) → Option Expectation
  | .error _ => none
  | .ok (left, _) =>
    let note (exit : Option Int32) : Expectation :=
      ⟨c.argv, exit, Utf8.decode left.out, Utf8.decode left.err⟩
    match left.ending with
    | .exited code => some (note (some (Int32.ofNat code)))
    | .killed _ => some (note none)
    | .overdue => none

/-- A note of all the arguments of a command is for this command, and merges what it was
to merge. -/
theorem reply_own {c : Command} {exit : Option Int32} {out err : String} :
    Script.reply c (some ⟨c.argv, exit, out, err⟩) =
      (⟨c.shellLine, exit, if c.mergeStderr then out ++ err else out, err⟩ : Output).check c := by
  have hlead : c.argv.isPrefixOf c.argv = true := List.isPrefixOf_iff_prefix.mpr List.prefix_rfl
  refine (if_pos hlead).trans ?_
  cases c.mergeStderr with
  | true => rfl
  | false => rfl

/-- A note replays what became of its command. -/
theorem reply_recorded {c : Command} {r : Except OsError (Finish × Nat)} {e : Expectation}
    (h : recorded c r = some e) : Script.reply c (some e) = Machine.reply c r := by
  rcases r with _ | ⟨⟨ending, out, err⟩, number⟩
  · cases h
  · cases ending with
    | exited code =>
      cases h
      exact reply_own
    | killed signal =>
      cases h
      exact reply_own
    | overdue => cases h

/-- What is noted of one request. -/
def notes (spawn : Machine.Spawn σ) : Request → Rehearsal σ → Option (List Expectation)
  | .run c, s => (recorded c (Machine.process spawn c s.runner).1).map ([·])
  | _, _ => some []

/-- The notes of a conversation whose commands run in processes, if all of these could be
started and ended in time. -/
def recording (spawn : Machine.Spawn σ) : Talk α → Rehearsal σ → Option (List Expectation)
  | .done _, _ => some []
  | .ask q next, s => do
    let first ← notes spawn q s
    let (r, s) := Rehearsal.answer (Machine.conduct spawn) q s
    return first ++ (← recording spawn (next r) s)

/-! ### Replaying -/

section
variable {spawn : Machine.Spawn σ}

/-- One request is answered from its notes as it was before. -/
theorem answer_replay {q : Request} {s s' : Rehearsal σ} {r : q.Reply} {first : List Expectation}
    (hnotes : notes spawn q s = some first)
    (hlive : Rehearsal.answer (Machine.conduct spawn) q s = (r, s'))
    (rest : List Expectation) (ran : List Command) :
    Rehearsal.answer Script.run q (s.on ⟨first ++ rest, ran⟩) =
      (r, s'.on ⟨rest, (Log.commands [⟨q, r⟩]).reverse ++ ran⟩) := by
  cases q with
  | run c =>
    obtain ⟨e, he, rfl⟩ := Option.map_eq_some_iff.mp hnotes
    cases hlive
    exact Prod.ext (reply_recorded he) rfl
  | _ =>
    cases hnotes
    cases hlive
    rfl

/-- The conversation takes the same course, and leaves the expectations behind its notes. -/
theorem talk_replay (t : Talk α) {s : Rehearsal σ} {tape : List Expectation}
    (h : recording spawn t s = some tape) (rest : List Expectation) (ran : List Command) :
    let live := Rehearsal.talk (Machine.conduct spawn) t s
    let log : Log := t.exchanges (Rehearsal.answer (Machine.conduct spawn)) s
    t.exchanges (Rehearsal.answer Script.run) (s.on ⟨tape ++ rest, ran⟩) = log ∧
      Rehearsal.talk Script.run t (s.on ⟨tape ++ rest, ran⟩) =
        (live.1, live.2.on ⟨rest, log.commands.reverse ++ ran⟩) := by
  induction t generalizing s tape ran with
  | done a =>
    cases h
    exact ⟨rfl, rfl⟩
  | ask q next ih =>
    simp only [recording, Option.bind_eq_bind, Option.bind_eq_some_iff] at h
    obtain ⟨first, hnotes, last, hlast, htape⟩ := h
    obtain rfl := Option.some.inj htape
    obtain ⟨r, s', hlive⟩ : ∃ r s', Rehearsal.answer (Machine.conduct spawn) q s = (r, s') :=
      ⟨_, _, rfl⟩
    rw [hlive] at hlast
    obtain ⟨hlog, hrun⟩ := ih r hlast ((Log.commands [⟨q, r⟩]).reverse ++ ran)
    have hreplay := answer_replay hnotes hlive (last ++ rest) ran
    simp only [exchanges, Rehearsal.talk, run, List.append_assoc, hreplay, hlive] at hrun ⊢
    refine ⟨congrArg _ hlog, ?_⟩
    rw [hrun, ← List.append_assoc, ← List.reverse_append, ← Log.commands_append]
    rfl

end

/-! ### Scripts -/

/-- What a script has to say to the commands of a log, and what becomes of it. -/
structure Scripted (before : Script) (log : Log) (after : Script) : Prop where
  outcomes : log.outcomes =
    log.commands.mapIdx fun i c => (c, Script.reply c before.expected[i]?)
  expected : after.expected = before.expected.drop log.commands.length
  ran : after.ran = log.commands.reverse ++ before.ran

theorem Scripted.append {script script' script'' : Script} {log log' : Log}
    (h : Scripted script log script') (h' : Scripted script' log' script'') :
    Scripted script (log ++ log') script'' where
  outcomes := by
    rw [Log.outcomes_append, Log.commands_append, List.mapIdx_append, h.outcomes, h'.outcomes,
      h.expected]
    simp only [List.getElem?_drop, Nat.add_comm]
  expected := by
    rw [h'.expected, h.expected, List.drop_drop, Log.commands_append, List.length_append]
  ran := by
    rw [h'.ran, h.ran, Log.commands_append, List.reverse_append, List.append_assoc]

theorem scripted_answer (q : Request) (s : Rehearsal Script) :
    Scripted s.runner [⟨q, (Rehearsal.answer Script.run q s).1⟩]
      (Rehearsal.answer Script.run q s).2.runner := by
  cases q with
  | run c =>
    have hturn : [(c, Script.reply c s.runner.expected.head?)] =
        [(c, Script.reply c s.runner.expected[0]?)] := by
      rw [List.head?_eq_getElem?]
    exact ⟨hturn, List.drop_one.symm, rfl⟩
  | _ => exact ⟨rfl, rfl, rfl⟩

/-- Each command is told what the expectation whose turn it is has for it. -/
theorem scripted_talk (t : Talk α) (s : Rehearsal Script) :
    Scripted s.runner (t.exchanges (Rehearsal.answer Script.run) s)
      (Rehearsal.talk Script.run t s).2.runner := by
  induction t generalizing s with
  | done a => exact ⟨rfl, rfl, rfl⟩
  | ask q next ih => exact (scripted_answer q s).append (ih _ _)

/-- **A recorded conversation comes to the same when it is replayed.** A conversation may
run any commands, each chosen by what came before, wherever processes are started: if all
of them can be started and end in time, the script of what their processes left takes it
through the same exchanges, the same commands among them, to the same end, and is used up.
Of any script, a command is told what the expectation at its own position has for it,
whether that matches or not. -/
theorem replay_faithful (t : Talk α) :
    (∀ {σ : Type} (spawn : Machine.Spawn σ) (s : Rehearsal σ) (tape : List Expectation),
      recording spawn t s = some tape →
      let log : Log := t.exchanges (Rehearsal.answer (Machine.conduct spawn)) s
      let replay := Rehearsal.talk Script.run t (s.on (Script.of tape))
      replay.1 = (Rehearsal.talk (Machine.conduct spawn) t s).1 ∧
        t.exchanges (Rehearsal.answer Script.run) (s.on (Script.of tape)) = log ∧
        replay.2.runner.seen = log.commands ∧ replay.2.runner.exhausted = true) ∧
    ∀ (script : List Expectation) (s : Rehearsal Script), s.runner = Script.of script →
      let log : Log := t.exchanges (Rehearsal.answer Script.run) s
      let after := (Rehearsal.talk Script.run t s).2.runner
      after.seen = log.commands ∧
        (∀ (i : Nat) (c : Command) (r : Except Failure Output), log.outcomes[i]? = some (c, r) →
          r = Script.reply c script[i]?) ∧
        (after.exhausted = true ↔ script.length ≤ log.commands.length) := by
  constructor
  · intro σ spawn s tape h
    obtain ⟨hlog, htalk⟩ := talk_replay t h [] []
    rw [List.append_nil] at hlog htalk
    dsimp only [Script.of]
    rw [htalk]
    exact ⟨rfl, hlog, by simp [Script.seen, Rehearsal.on], rfl⟩
  · intro script s hs log after
    obtain ⟨houtcomes, hexpected, hran⟩ := scripted_talk t s
    rw [hs] at houtcomes hexpected hran
    refine ⟨by simp [Script.seen, Script.of, after, log, hran], fun i c r hi => ?_, ?_⟩
    · simp only [log, houtcomes, List.getElem?_mapIdx, Option.map_eq_some_iff, Prod.mk.injEq] at hi
      obtain ⟨_, -, rfl, rfl⟩ := hi
      rfl
    · rw [Script.exhausted, hexpected, List.isEmpty_iff, List.drop_eq_nil_iff]
      rfl

/-- The second and the third command are about what the one before them said. -/
def inspection : Talk (Except Failure String) := ExceptT.run do
  let release ← Session.output (Command.of ["uname", "-r"]).mergingStderr
  let found ← Session.run (Command.of ["find", release]).ignoringStatus
  Session.system (Command.of ["rm", found.out])
  return release

/-- The processes leave what is listed, one after the other. -/
def listed : Machine.Spawn (List Finish)
  | _, _, [] => (.error .notFound, [])
  | _, _, left :: rest => (.ok (left, 0), rest)

theorem replay_faithful_inspection :
    let s : Rehearsal (List Finish) :=
      ⟨[⟨.exited 0, "6".toUTF8, ".1\n".toUTF8⟩, ⟨.killed 9, "x".toUTF8, .empty⟩,
        ⟨.exited 2, .empty, "busy".toUTF8⟩], 0, false, ⟨true, none, none, 0⟩, fun _ => false⟩
    let tape : List Expectation :=
      [⟨["uname", "-r"], some 0, "6", ".1\n"⟩, ⟨["find", "6.1"], none, "x", ""⟩,
        ⟨["rm", "x"], some 2, "", "busy"⟩]
    recording listed inspection s = some tape ∧
      (Rehearsal.talk Script.run inspection (s.on (Script.of tape))).1 =
        .error (.command "rm x" (some 2) "" "busy") := by
  intro s tape
  have hrecording : recording listed inspection s = some tape := by
    rfl
  refine ⟨hrecording, ((replay_faithful _).1 listed s tape hrecording).1.trans ?_⟩
  rfl

end DeviceLab.Device
