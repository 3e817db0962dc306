import DeviceLab.Device.Services
import DeviceLab.Proofs.Upstart
import Mathlib.Order.BooleanAlgebra.Set

/-! Stopping services and starting them again.

A device is what runs on it: a status tells whether a service runs, a stop ends
it and a start brings it up, each unless it fails, and nothing else changes what
runs. Behind any sequence of stops and restorations the stopper remembers exactly
what it has taken down, and a restoration brings back the services that ran in
the beginning (`services_restored`). -/
namespace DeviceLab.Device.Stopper
open Dialogue

/-! ### The device -/

def statusOf (service : String) : Command :=
  (Command.of ["status", service]).ignoringStatus

def stopOf (service : String) : Command :=
  Command.of ["stop", service]

def startOf (service : String) : Command :=
  (Command.of ["start", service]).ignoringStatus

@[simp] theorem argv_statusOf (service : String) :
    (statusOf service).argv = ["status", service] := rfl

@[simp] theorem argv_stopOf (service : String) : (stopOf service).argv = ["stop", service] := rfl

@[simp] theorem argv_startOf (service : String) :
    (startOf service).argv = ["start", service] := rfl

/-- The command ended, and with the status of success. -/
def Succeeded (r : Except Failure Output) : Prop :=
  ∃ out, r = .ok out ∧ out.success = true

/-- What runs before and behind an exchange with the device. -/
structure Reacts (up : Set String) (x : Exchange Request.Reply) (up' : Set String) : Prop where
  /-- Only a status that succeeds can name a running service. -/
  status : ∀ service out, x = ended (statusOf service) (.ok out) →
    (Upstart.running out.out = true ↔ out.success = true ∧ service ∈ up)
  stop : ∀ service out, x = ended (stopOf service) (.ok out) → up' = up \ {service}
  start : ∀ service r, x = ended (startOf service) r → Succeeded r → up' = insert service up
  /-- What fails changes nothing, nor does anything else. -/
  still : (∀ service out, x ≠ ended (stopOf service) (.ok out)) →
    (∀ service r, Succeeded r → x ≠ ended (startOf service) r) → up' = up

/-- What runs before and behind a whole log. -/
inductive Runs : Set String → Log → Set String → Prop where
  | nil (up : Set String) : Runs up [] up
  | cons {up up' up'' : Set String} {x : Exchange Request.Reply} {log : Log} :
      Reacts up x up' → Runs up' log up'' → Runs up (x :: log) up''

/-- Every start succeeded. -/
def StartsSucceed (log : Log) : Prop :=
  ∀ service r, ended (startOf service) r ∈ log → Succeeded r

/-- The service could not be told to run, or could not be stopped. -/
def Refused (log : Log) (service : String) : Prop :=
  (∃ r, ended (statusOf service) r ∈ log ∧ ¬ Succeeded r) ∨
    ∃ e, ended (stopOf service) (.error e) ∈ log

/-- The service that was stopped. -/
def stopped? : Exchange Request.Reply → Option String
  | ⟨.run ⟨["stop", service], _, _, _⟩, reply⟩ =>
    match (show Except Failure Output from reply) with
    | .ok _ => some service
    | .error _ => none
  | _ => none

/-- The services that were stopped, in that order. -/
def stops (log : Log) : List String :=
  log.filterMap stopped?

section
variable {up up' up'' : Set String} {log : Log} {service : String}

theorem runs_iff_moves : Runs up log up' ↔ Moves Reacts up log up' := by
  constructor
  · intro h
    induction h with
    | nil up => exact .nil up
    | cons hx _ ih => exact .cons hx ih
  · intro h
    induction h with
    | nil up => exact .nil up
    | cons hx _ ih => exact .cons hx ih

theorem runs_nil_iff : Runs up [] up' ↔ up' = up :=
  runs_iff_moves.trans moves_nil_iff

theorem runs_append_iff {a b : Log} :
    Runs up (a ++ b) up'' ↔ ∃ up', Runs up a up' ∧ Runs up' b up'' := by
  simp only [runs_iff_moves, moves_append_iff]

theorem runs_singleton_iff {x : Exchange Request.Reply} : Runs up [x] up' ↔ Reacts up x up' :=
  runs_iff_moves.trans moves_singleton_iff

theorem ended_ne {c c' : Command} {r r' : Except Failure Output} (h : c.argv ≠ c'.argv) :
    ended c r ≠ ended c' r' := by
  intro heq
  exact h (congrArg Command.argv (ended_inj heq).1)

/-- To ask for a status changes nothing. -/
theorem Reacts.of_status {r : Except Failure Output}
    (h : Reacts up (ended (statusOf service) r) up') : up' = up :=
  h.still (fun _ _ => ended_ne (by simp)) fun _ _ _ => ended_ne (by simp)

/-- A stop that fails changes nothing. -/
theorem Reacts.of_refused {e : Failure}
    (h : Reacts up (ended (stopOf service) (.error e)) up') : up' = up := by
  refine h.still (fun s out heq => ?_) fun _ _ _ => ended_ne (by simp)
  cases (ended_inj heq).2

theorem Refused.mono {log' : Log} (h : Refused log service) (hsub : ∀ x ∈ log, x ∈ log') :
    Refused log' service :=
  h.imp (fun ⟨r, hmem, hr⟩ => ⟨r, hsub _ hmem, hr⟩) fun ⟨e, hmem⟩ => ⟨e, hsub _ hmem⟩

/-! ### What the stopper does in one call -/

/-- The status is asked for, and a service that runs by it is asked to stop. -/
theorem stopOne_cases {done : Bool} (h : Course (stopOne service) log done) :
    (∃ status : Except Failure Output, log = [ended (statusOf service) status] ∧ done = false ∧
      ∀ out, status = .ok out → Upstart.running out.out = false) ∨
      ∃ (out : Output) (reply : Except Failure Output), Upstart.running out.out = true ∧
        log = [ended (statusOf service) (.ok out), ended (stopOf service) reply] ∧
        done = reply.isOk := by
  obtain ⟨asked, status, rest, rfl, hstatus, hrest⟩ := course_bind_iff.mp h
  obtain ⟨reply, rfl, rfl⟩ := Session.output_course hstatus
  cases reply with
  | error e =>
    obtain ⟨rfl, rfl⟩ := course_done_iff.mp hrest
    exact .inl ⟨.error e, rfl, rfl, nofun⟩
  | ok out =>
    dsimp only [Except.map] at hrest
    rw [Upstart.running_trim] at hrest
    split at hrest
    case isFalse hrunning =>
      obtain ⟨rfl, rfl⟩ := course_done_iff.mp hrest
      refine .inl ⟨.ok out, rfl, rfl, ?_⟩
      rintro _ ⟨⟩
      simpa using hrunning
    case isTrue hrunning =>
      obtain ⟨asked, reply, rest, rfl, hstop, hend⟩ := course_bind_iff.mp hrest
      obtain rfl := course_question_iff.mp hstop
      obtain ⟨rfl, rfl⟩ := course_done_iff.mp hend
      exact .inr ⟨out, reply, hrunning, rfl, rfl⟩

/-- A service is stopped, or left alone: then it does not run, or is refused. -/
theorem stopOne_downs {done : Bool} (h : Course (stopOne service) log done)
    (hup : Runs up log up') :
    (done = false ∧ up' = up ∧ stops log = [] ∧ (service ∈ up → Refused log service)) ∨
      (done = true ∧ service ∈ up ∧ up' = up \ {service} ∧ stops log = [service]) := by
  obtain ⟨status, rfl, rfl, hdown⟩ | ⟨out, reply, hrunning, rfl, rfl⟩ := stopOne_cases h
  · have hreacts := runs_singleton_iff.mp hup
    refine .inl ⟨rfl, hreacts.of_status, rfl, fun hservice => .inl ⟨_, List.mem_cons_self, ?_⟩⟩
    rintro ⟨out, rfl, hsuccess⟩
    have hrunning := (hreacts.status service out rfl).mpr ⟨hsuccess, hservice⟩
    rw [hdown out rfl] at hrunning
    cases hrunning
  · obtain ⟨up₁, hfirst, hsecond⟩ := runs_append_iff (a := [_]).mp hup
    have hreacts := runs_singleton_iff.mp hfirst
    have hstopped := runs_singleton_iff.mp hsecond
    obtain rfl := hreacts.of_status
    cases reply with
    | error e =>
      exact .inl ⟨rfl, hstopped.of_refused, rfl, fun _ =>
        .inr ⟨e, List.mem_cons_of_mem _ List.mem_cons_self⟩⟩
    | ok out' =>
      exact .inr ⟨rfl, ((hreacts.status service out rfl).mp hrunning).2,
        hstopped.stop service out' rfl, rfl⟩

/-- What it is to go once through the services and stop them. -/
structure Downs (services : List String) (up : Set String) (log : Log) (done : List String)
    (up' : Set String) : Prop where
  nodup : done.Nodup
  ran : ∀ s ∈ done, s ∈ up
  up_eq : up' = up \ {s | s ∈ done}
  /-- Those that were stopped are told in the order of stopping. -/
  stops_eq : stops log = done
  left : ∀ s ∈ services, s ∈ up' → Refused log s

theorem stopEach_downs {services done : List String} (h : Course (stopEach services) log done)
    (hup : Runs up log up') : Downs services up log done up' := by
  induction services generalizing log done up with
  | nil =>
    obtain ⟨rfl, rfl⟩ := course_done_iff.mp h
    obtain rfl := runs_nil_iff.mp hup
    exact ⟨List.nodup_nil, by simp, by simp, rfl, by simp⟩
  | cons service services ih =>
    obtain ⟨first, one, rest, rfl, hone, hrest⟩ := course_bind_iff.mp h
    obtain ⟨each, others, last, rfl, hothers, hlast⟩ := course_bind_iff.mp hrest
    obtain ⟨rfl, rfl⟩ := course_done_iff.mp hlast
    rw [List.append_nil] at hup ⊢
    obtain ⟨up₁, hfirst, hsecond⟩ := runs_append_iff.mp hup
    obtain ⟨hnodup, hran, rfl, hstops, hleft⟩ := ih hothers hsecond
    have hlater : ∀ s ∈ services, s ∈ up₁ \ {s | s ∈ others} → Refused (first ++ each) s :=
      fun s hs hup' => (hleft s hs hup').mono fun _ => List.mem_append_right _
    have hlog : stops (first ++ each) = stops first ++ others := by
      rw [stops, List.filterMap_append, ← stops, ← stops, hstops]
    rcases stopOne_downs hone hfirst with ⟨rfl, rfl, hone, hrefused⟩ | ⟨rfl, hservice, rfl, hone⟩
    · refine ⟨hnodup, hran, rfl, by rw [hlog, hone]; rfl, List.forall_mem_cons.mpr ⟨?_, hlater⟩⟩
      exact fun hup' => (hrefused hup'.1).mono fun _ => List.mem_append_left _
    · have hnew : service ∉ others := fun hin => (hran service hin).2 rfl
      refine ⟨List.nodup_cons.mpr ⟨hnew, hnodup⟩, ?_, ?_, by rw [hlog, hone]; rfl,
        List.forall_mem_cons.mpr ⟨fun hup' => absurd rfl hup'.1.2, hlater⟩⟩
      · exact List.forall_mem_cons.mpr ⟨hservice, fun s hs => (hran s hs).1⟩
      · ext s
        simp [and_assoc]

/-- Each service is asked for to be started once, and nothing else is. -/
theorem startEach_asks {services : List String} (h : Course (startEach services) log ()) :
    log.map Sigma.fst = services.map fun s => Request.run (startOf s) := by
  induction services generalizing log with
  | nil =>
    obtain ⟨rfl, -⟩ := course_done_iff.mp h
    rfl
  | cons service services ih =>
    obtain ⟨first, reply, rest, rfl, hfirst, hrest⟩ := course_bind_iff.mp h
    obtain rfl := course_question_iff.mp hfirst
    simp [ih hrest, startOf]

/-- Each service is started, if none of the starts fails. -/
theorem startEach_ups {services : List String} (h : Course (startEach services) log ())
    (hup : Runs up log up') (hstarts : StartsSucceed log) : up' = up ∪ {s | s ∈ services} := by
  induction services generalizing log up with
  | nil =>
    obtain ⟨rfl, -⟩ := course_done_iff.mp h
    obtain rfl := runs_nil_iff.mp hup
    simp
  | cons service services ih =>
    obtain ⟨first, reply, rest, rfl, hfirst, hrest⟩ := course_bind_iff.mp h
    obtain rfl := course_question_iff.mp hfirst
    obtain ⟨up₁, hone, hothers⟩ := runs_append_iff.mp hup
    obtain rfl := ih hrest hothers fun s r hr => hstarts s r (List.mem_append_right _ hr)
    obtain rfl := (runs_singleton_iff.mp hone).start service reply rfl
      (hstarts service reply List.mem_cons_self)
    ext s
    simp [or_left_comm, or_assoc]

end

/-! ### Histories -/

inductive Call where
  | stop
  | restore
  deriving DecidableEq

/-- What a stopper does when it is called. -/
def Call.talk : Call → Stopper → Talk Stopper
  | .stop, s => s.stop
  | .restore, s => s.restore

/-- One call: the stopper before, what passed between it and the device, and the
stopper after. -/
structure Turn where
  call : Call
  before : Stopper
  log : Log
  after : Stopper

/-- The call went one of the ways it may go. -/
def Turn.Taken (t : Turn) : Prop :=
  Course (t.call.talk t.before) t.log t.after

/-- Calls of a stopper one after another, with the stopper and what runs at the end. -/
inductive History (first : Stopper) (up₀ : Set String) :
    List Turn → Stopper → Set String → Prop where
  | nil : History first up₀ [] first up₀
  | snoc {turns : List Turn} {t : Turn} {up up' : Set String} :
      History first up₀ turns t.before up → t.Taken → Runs up t.log up' →
        History first up₀ (turns ++ [t]) t.after up'

/-- The turns behind the last restoration. -/
def sinceRestore (turns : List Turn) : List Turn :=
  (turns.reverse.takeWhile fun t => t.call ≠ .restore).reverse

theorem sinceRestore_snoc (turns : List Turn) (t : Turn) :
    sinceRestore (turns ++ [t]) = if t.call = .restore then [] else sinceRestore turns ++ [t] := by
  unfold sinceRestore
  split <;> simp_all

/-- The stopper remembers what it has taken down. -/
structure Accounted (up₀ : Set String) (s : Stopper) (up : Set String) : Prop where
  nodup : s.stopped.Nodup
  /-- Those that are remembered are those that ran in the beginning and do not run now. -/
  down : ∀ service, service ∈ s.stopped ↔ service ∈ up₀ ∧ service ∉ up
  subset : up ⊆ up₀

section
variable {up₀ up up' : Set String} {s s' : Stopper} {log : Log} {t : Turn}

/-- Stopping takes down what it remembers behind all that is remembered already. -/
theorem Accounted.stop (h : Accounted up₀ s up) (hstop : Course s.stop log s')
    (hup : Runs up log up') :
    Accounted up₀ s' up' ∧ s'.services = s.services ∧ s'.stopped = s.stopped ++ stops log ∧
      ∀ service ∈ s.services, service ∈ up' → Refused log service := by
  obtain ⟨each, more, rest, rfl, heach, hrest⟩ := course_bind_iff.mp hstop
  obtain ⟨rfl, rfl⟩ := course_done_iff.mp hrest
  rw [List.append_nil] at hup ⊢
  obtain ⟨hnodup, hmem, rfl, hstops, hleft⟩ := stopEach_downs heach hup
  refine ⟨⟨?nodup, fun service => ?down, ?subset⟩, rfl, by rw [hstops], hleft⟩
  case nodup =>
    refine List.nodup_append.mpr ⟨h.nodup, hnodup, ?_⟩
    rintro service hs _ hm rfl
    exact ((h.down service).mp hs).2 (hmem service hm)
  case down =>
    have hdown := h.down service
    have hnew := hmem service
    have hsubset := @h.subset service
    rw [List.mem_append, Set.mem_sdiff, Set.mem_ofPred_eq]
    grind
  case subset => exact fun service hs => h.subset hs.1

/-- Restoring starts what is remembered, the latest first, and then everything
runs that did in the beginning. -/
theorem Accounted.restore (h : Accounted up₀ s up) (hrestore : Course s.restore log s')
    (hup : Runs up log up') (hstarts : StartsSucceed log) :
    up' = up₀ ∧ s' = { s with stopped := [] } ∧
      log.map Sigma.fst = s.stopped.reverse.map fun service => Request.run (startOf service) := by
  obtain ⟨each, done, rest, rfl, heach, hrest⟩ := course_bind_iff.mp hrestore
  obtain ⟨rfl, rfl⟩ := course_done_iff.mp hrest
  rw [List.append_nil] at hup hstarts ⊢
  obtain rfl := startEach_ups heach hup hstarts
  refine ⟨?_, rfl, startEach_asks heach⟩
  ext service
  have hdown := h.down service
  have hsubset := @h.subset service
  rw [Set.mem_union, Set.mem_ofPred_eq, List.mem_reverse]
  grind

end

/-! ### The whole -/

/-- What holds of the calls of a new stopper on a device where `up₀` runs. -/
structure Restores (services : List String) (up₀ : Set String) (turns : List Turn)
    (s : Stopper) (up : Set String) : Prop extends Accounted up₀ s up where
  services_eq : s.services = services
  /-- What is remembered is in the order in which it was stopped. -/
  order : s.stopped = (sinceRestore turns).flatMap fun t => stops t.log
  /-- A restoration starts those that are remembered, the latest first, and asks
  for nothing else. -/
  restores : ∀ t ∈ turns, t.call = .restore →
    t.log.map Sigma.fst = t.before.stopped.reverse.map fun service => Request.run (startOf service)
  /-- Behind a stop none of the services runs but those that were refused. -/
  left : ∀ t, turns.getLast? = some t → t.call = .stop →
    ∀ service ∈ services, service ∈ up → Refused t.log service
  /-- Behind a restoration everything is as it was in the beginning. -/
  restored : ∀ t, turns.getLast? = some t → t.call = .restore → up = up₀ ∧ s.stopped = []

theorem restores_of (services : List String) (up₀ : Set String) :
    Restores services up₀ [] (Stopper.of services) up₀ where
  nodup := List.nodup_nil
  down := by simp [Stopper.of]
  subset := subset_rfl
  services_eq := rfl
  order := rfl
  restores := by simp
  left := by simp
  restored := by simp

/-- One more call. -/
theorem Restores.snoc {services : List String} {up₀ up up' : Set String} {turns : List Turn}
    {t : Turn} (h : Restores services up₀ turns t.before up) (htaken : t.Taken)
    (hup : Runs up t.log up') (hstarts : StartsSucceed t.log) :
    Restores services up₀ (turns ++ [t]) t.after up' := by
  obtain ⟨call, before, log, after⟩ := t
  cases call with
  | stop =>
    obtain ⟨haccounted, hservices, hstopped, hleft⟩ := h.toAccounted.stop htaken hup
    refine ⟨haccounted, hservices.trans h.services_eq, ?order, ?restores, ?left, by simp⟩
    case left =>
      rintro t ht - service hservice
      obtain rfl : _ = t := by simpa using ht
      exact hleft service (h.services_eq ▸ hservice)
    case order =>
      rw [hstopped, h.order, sinceRestore_snoc]
      simp
    case restores =>
      rintro t ht hcall
      rcases List.mem_append.mp ht with ht | ht
      · exact h.restores t ht hcall
      · obtain rfl := List.mem_singleton.mp ht
        cases hcall
  | restore =>
    obtain ⟨rfl, hafter, hlog⟩ := h.toAccounted.restore htaken hup hstarts
    obtain rfl : after = { before with stopped := [] } := hafter
    refine ⟨⟨List.nodup_nil, by simp, subset_rfl⟩, h.services_eq, ?order, ?restores, by simp,
      fun _ _ _ => ⟨rfl, rfl⟩⟩
    case order =>
      rw [sinceRestore_snoc]
      simp
    case restores =>
      rintro t ht hcall
      rcases List.mem_append.mp ht with ht | ht
      · exact h.restores t ht hcall
      · obtain rfl := List.mem_singleton.mp ht
        exact hlog

/-- **Restoring brings back the services that were stopped**, whatever sequence of
calls came before, however often a service is named, and whatever fails but the
starts. -/
theorem services_restored {services : List String} {up₀ up : Set String} {turns : List Turn}
    {s : Stopper} (h : History (Stopper.of services) up₀ turns s up)
    (hstarts : ∀ t ∈ turns, StartsSucceed t.log) : Restores services up₀ turns s up := by
  induction h with
  | nil => exact restores_of services up₀
  | snoc _ htaken hup ih =>
    obtain ⟨hbefore, hlast⟩ := List.forall_mem_append.mp hstarts
    exact (ih hbefore).snoc htaken hup (hlast _ (List.mem_singleton_self _))

/-! ### A device -/

/-- A device with what runs on it and, from the next command on, which of its
answers to a status or a stop are failures. -/
structure Board where
  up : List String
  fails : List Bool

namespace Board

def running (w : Board) : Set String :=
  {service | service ∈ w.up}

/-- A command that succeeds. -/
def prints (out : String) : Except Failure Output :=
  .ok ⟨"", some 0, out, ""⟩

def refuses : Except Failure Output :=
  .error (.command "" (some 1) "" "")

/-- What becomes of a command, and which services are up then. -/
def command (w : Board) (c : Command) : Except Failure Output × List String :=
  match c, w.fails.headD false with
  | ⟨["status", service], none, true, false⟩, false =>
    (prints (if service ∈ w.up then "start/running" else "stop/waiting"), w.up)
  | ⟨["stop", service], none, false, false⟩, false => (prints "", w.up.filter (· ≠ service))
  | ⟨["start", service], none, true, false⟩, _ => (prints "", service :: w.up)
  | _, _ => (refuses, w.up)

/-- How the device answers. -/
def answer : (q : Request) → Board → q.Reply × Board
  | .run c, w => ((w.command c).1, ⟨(w.command c).2, w.fails.tail⟩)
  | .now, w => (Nat.zero, w)
  | .pause _, w => ((), w)
  | .jobInstalled _, w | .controllerPresent, w | .batteryPresent, w | .batteryDischarging, w =>
    (false, w)
  | .openBattery, w | .refreshBattery, w | .record _, w => (.ok (), w)

theorem command_statusOf (w : Board) (service : String) :
    w.command (statusOf service) = (if w.fails.headD false then refuses
      else prints (if service ∈ w.up then "start/running" else "stop/waiting"), w.up) := by
  unfold command statusOf
  cases w.fails.headD false <;> rfl

theorem command_stopOf (w : Board) (service : String) :
    w.command (stopOf service) = if w.fails.headD false then (refuses, w.up)
      else (prints "", w.up.filter (· ≠ service)) := by
  unfold command stopOf
  cases w.fails.headD false <;> rfl

theorem command_startOf (w : Board) (service : String) :
    w.command (startOf service) = (prints "", service :: w.up) := by
  unfold command startOf
  cases w.fails.headD false <;> rfl

theorem running_prints (p : Prop) [Decidable p] :
    Upstart.running (if p then "start/running" else "stop/waiting") = true ↔ p := by
  have hup : Upstart.running "start/running" = true := by decide
  have hdown : Upstart.running "stop/waiting" = false := by decide
  split <;> simp [*]

/-- The device reacts as devices do. -/
theorem reacts_answer (q : Request) (w : Board) :
    Reacts w.running ⟨q, (answer q w).1⟩ (answer q w).2.running where
  status service out h := by
    obtain ⟨rfl, hreply⟩ := Sigma.mk.inj h
    have hreply : (w.command (statusOf service)).1 = .ok out := eq_of_heq hreply
    rw [command_statusOf] at hreply
    dsimp only at hreply
    split at hreply
    · cases hreply
    · obtain rfl := Except.ok.inj hreply
      rw [running_prints]
      simp [Output.success, running]
  stop service out h := by
    obtain ⟨rfl, hreply⟩ := Sigma.mk.inj h
    have hreply : (w.command (stopOf service)).1 = .ok out := eq_of_heq hreply
    have hup : (answer (.run (stopOf service)) w).2.up = (w.command (stopOf service)).2 := rfl
    rw [running, hup]
    rw [command_stopOf] at hreply ⊢
    cases hfails : w.fails.headD false with
    | true =>
      rw [hfails] at hreply
      cases hreply
    | false =>
      ext s
      simp [running]
  start service r h _ := by
    obtain ⟨rfl, -⟩ := Sigma.mk.inj h
    have hup : (answer (.run (startOf service)) w).2.up = (w.command (startOf service)).2 := rfl
    rw [running, hup, command_startOf]
    ext s
    simp [running]
  still hstop hstart := by
    cases q with
    | run c =>
      have hup : (answer (.run c) w).2.up = (w.command c).2 := rfl
      rw [running, hup]
      unfold command
      split
      case h_1 | h_4 => rfl
      case h_2 service hfails =>
        refine absurd ?_ (hstop service ⟨"", some 0, "", ""⟩)
        have hcommand := w.command_stopOf service
        rw [hfails] at hcommand
        exact congrArg (ended (stopOf service)) (congrArg Prod.fst hcommand)
      case h_3 _ service =>
        refine absurd ?_ (hstart service (prints "") ⟨_, rfl, rfl⟩)
        exact congrArg (ended (startOf service)) (congrArg Prod.fst (w.command_startOf service))
    | _ => rfl

variable {α : Type}

theorem runs_exchanges (d : Talk α) (w : Board) :
    Runs w.running (d.exchanges answer w) (d.run answer w).2.running :=
  runs_iff_moves.mpr
    (moves_run (fun _ _ (h : True) => h) (fun q w _ => reacts_answer q w) d trivial)

theorem startsSucceed_exchanges (d : Talk α) (w : Board) :
    StartsSucceed (d.exchanges answer w) := by
  induction d generalizing w with
  | done a => simp [StartsSucceed, exchanges]
  | ask q next ih =>
    intro service r hmem
    rcases List.mem_cons.mp hmem with heq | hrest
    · obtain ⟨rfl, hreply⟩ := Sigma.mk.inj heq
      have hreply : r = (w.command (startOf service)).1 := eq_of_heq hreply
      rw [hreply, command_startOf]
      exact ⟨_, rfl, rfl⟩
    · exact ih _ _ service r hrest

/-- A call of a stopper on the device, and the device after it. -/
def turn (w : Board) (s : Stopper) (c : Call) : Turn × Board :=
  let (s', w') := (c.talk s).run answer w
  (⟨c, s, (c.talk s).exchanges answer w, s'⟩, w')

/-- More calls behind those of the past. -/
def turnsOf : List Call → List Turn → Stopper → Board → List Turn × Stopper × Board
  | [], past, s, w => (past, s, w)
  | c :: calls, past, s, w =>
    let (t, w') := w.turn s c
    turnsOf calls (past ++ [t]) t.after w'

theorem history_turnsOf {first : Stopper} {up₀ : Set String} (calls : List Call)
    {past : List Turn} {s : Stopper} {w : Board} (h : History first up₀ past s w.running)
    (hstarts : ∀ t ∈ past, StartsSucceed t.log) :
    History first up₀ (turnsOf calls past s w).1 (turnsOf calls past s w).2.1
      (turnsOf calls past s w).2.2.running ∧
    ∀ t ∈ (turnsOf calls past s w).1, StartsSucceed t.log := by
  induction calls generalizing past s w with
  | nil => exact ⟨h, hstarts⟩
  | cons c calls ih =>
    refine ih (.snoc (t := (w.turn s c).1) h (course_run answer _ w) (runs_exchanges _ w)) ?_
    exact List.forall_mem_append.mpr
      ⟨hstarts, List.forall_mem_singleton.mpr (startsSucceed_exchanges _ w)⟩

end Board

/-- A stop that fails is tried again, a service that is named twice is stopped once,
and in the end both are brought back. -/
theorem services_restored_behind_failures :
    let run := Board.turnsOf [.stop, .stop, .restore] [] (Stopper.of ["ui", "powerd", "powerd"])
      ⟨["powerd", "shill", "ui"], [false, true]⟩
    run.1.map (fun t => t.after.stopped) = [["powerd"], ["powerd", "ui"], []] ∧
    Restores ["ui", "powerd", "powerd"] {service | service ∈ ["powerd", "shill", "ui"]} run.1
      run.2.1 run.2.2.running :=
  have history := Board.history_turnsOf [.stop, .stop, .restore] .nil (by simp)
  ⟨by decide +kernel, services_restored history.1 history.2⟩

end DeviceLab.Device.Stopper
