import DeviceLab.Proofs.Services
import Mathlib.Data.List.Nodup

/-! The services around a measurement of power.

Services that draw power are stopped, then the controller is asked, and in the end
every service that was stopped is started again, whatever came between
(`services_restarted`). -/
namespace DeviceLab.Device
open Dialogue

/-! ### The commands of a log -/

/-- The commands that were run, in that order. -/
def Log.commands (log : Log) : List Command :=
  log.filterMap fun
    | ⟨.run c, _⟩ => some c
    | _ => none

namespace Log
variable {log other : Log} {c : Command}

theorem commands_append : commands (log ++ other) = log.commands ++ other.commands :=
  List.filterMap_append

theorem mem_commands_iff : c ∈ log.commands ↔ log.Ran c := by
  refine List.mem_filterMap.trans (exists_congr fun x => and_congr_right fun _ => ?_)
  obtain ⟨q, r⟩ := x
  cases q with
  | run c' => simp
  | _ => simp

theorem commands_eq_nil (h : ∀ c, ¬ log.Ran c) : log.commands = [] :=
  List.eq_nil_iff_forall_not_mem.mpr fun c hc => h c (mem_commands_iff.mp hc)

theorem commands_eq {commands : List Command}
    (h : log.map Sigma.fst = commands.map Request.run) : log.commands = commands := by
  induction log generalizing commands with
  | nil => exact (List.map_eq_nil_iff.mp h.symm).symm
  | cons x log ih =>
    cases commands with
    | nil => cases h
    | cons c commands =>
      obtain ⟨hx, hrest⟩ := List.cons.inj h
      obtain ⟨q, r⟩ := x
      obtain rfl : q = Request.run c := hx
      exact congrArg (c :: ·) (ih hrest)

end Log

namespace Stopper

theorem startOf_injective : Function.Injective startOf := by
  intro service service' h
  simpa using congrArg Command.argv h

/-! ### Stopping -/

section
variable {log other : Log} {service : String}

theorem stops_append : stops (log ++ other) = stops log ++ stops other :=
  List.filterMap_append

theorem mem_stops (h : service ∈ stops log) :
    ∃ c out, ended c (.ok out) ∈ log ∧ c.argv = ["stop", service] := by
  obtain ⟨⟨q, r⟩, hx, hs⟩ := List.mem_filterMap.mp h
  unfold stopped? at hs
  split at hs
  case h_1 reply heq =>
    cases heq
    cases reply with
    | ok out =>
      obtain rfl := Option.some.inj hs
      exact ⟨_, out, hx, rfl⟩
    | error e => cases hs
  case h_2 => cases hs

/-- Nothing is stopped where no stop is asked for. -/
theorem stops_eq_nil (h : ∀ c, log.Ran c → c.program ≠ "stop") : stops log = [] := by
  refine List.eq_nil_iff_forall_not_mem.mpr fun service hs => ?_
  obtain ⟨c, out, hmem, hargv⟩ := mem_stops hs
  refine h c ⟨_, hmem, rfl⟩ ?_
  rw [Command.program, hargv]
  rfl

end

/-- What passes when services are stopped, and which are. -/
structure Stopping (services : List String) (log : Log) (done : List String) : Prop where
  asked : ∀ service ∈ services, log.Ran (statusOf service)
  only : ∀ c, log.Ran c → ∃ service ∈ services, c = statusOf service ∨ c = stopOf service
  stops_eq : stops log = done
  sublist : done.Sublist services

theorem stopOne_stopping {service : String} {log : Log} {done : Bool}
    (h : Course (stopOne service) log done) :
    log.Ran (statusOf service) ∧ (∀ c, log.Ran c → c = statusOf service ∨ c = stopOf service) ∧
      stops log = if done then [service] else [] := by
  obtain ⟨status, rfl, rfl, -⟩ | ⟨out, reply, -, rfl, rfl⟩ := stopOne_cases h
  · refine ⟨⟨_, List.mem_cons_self, rfl⟩, ?_, rfl⟩
    rintro c ⟨x, hx, hc⟩
    obtain rfl := List.mem_singleton.mp hx
    exact .inl (Request.run.inj hc).symm
  · refine ⟨⟨_, List.mem_cons_self, rfl⟩, ?_, by cases reply <;> rfl⟩
    rintro c ⟨x, hx, hc⟩
    simp only [List.mem_cons, List.not_mem_nil, or_false] at hx
    rcases hx with rfl | rfl
    · exact .inl (Request.run.inj hc).symm
    · exact .inr (Request.run.inj hc).symm

theorem stopEach_stopping {services done : List String} {log : Log}
    (h : Course (stopEach services) log done) : Stopping services log done := by
  induction services generalizing log done with
  | nil =>
    obtain ⟨rfl, rfl⟩ := course_done_iff.mp h
    exact ⟨by simp, by simp [Log.Ran], rfl, .slnil⟩
  | cons service services ih =>
    obtain ⟨first, one, rest, rfl, hfirst, hrest⟩ := course_bind_iff.mp h
    obtain ⟨later, others, last, rfl, hlater, hlast⟩ := course_bind_iff.mp hrest
    obtain ⟨rfl, rfl⟩ := course_done_iff.mp hlast
    obtain ⟨hasked, honly, hstops⟩ := stopOne_stopping hfirst
    obtain ⟨haskeds, honlys, rfl, hsublist⟩ := ih hlater
    rw [List.append_nil]
    refine ⟨List.forall_mem_cons.mpr ⟨?_, fun s hs => ?_⟩, fun c hc => ?_, ?_, ?_⟩
    · exact Log.ran_append.mpr (.inl hasked)
    · exact Log.ran_append.mpr (.inr (haskeds s hs))
    · rcases Log.ran_append.mp hc with hc | hc
      · exact ⟨service, List.mem_cons_self, honly c hc⟩
      · obtain ⟨s, hs, hc⟩ := honlys c hc
        exact ⟨s, List.mem_cons_of_mem _ hs, hc⟩
    · rw [stops_append, hstops]
      cases one <;> rfl
    · cases one with
      | true => exact hsublist.cons_cons service
      | false => exact hsublist.cons service

end Stopper
end DeviceLab.Device

namespace DeviceLab.Catalog.Power
open Dialogue Device Device.Stopper Device.Discharge

/-! ### The whole test -/

/-- Services are stopped, the controller is asked, and then those services that were
stopped are started again, the latest first. -/
structure Restarts (log : Log) : Prop where
  /-- The stops began with the first of the services, and went through all of them. -/
  asked : ∀ service ∈ powerDraw, statusOf service ∈ log.commands
  commands_eq : ∃ stopping controls,
    log.commands = stopping ++ controls ++ (stops log).reverse.map startOf ∧
    (∀ c ∈ stopping, ∃ service ∈ powerDraw, c = statusOf service ∨ c = stopOf service) ∧
    ∀ c ∈ controls, ∃ charge, c = charging charge
  /-- The services that were stopped are those whose stop did not fail. -/
  stops_iff : ∀ service, service ∈ stops log ↔ log.Accepted (stopOf service)
  once : ∀ service,
    log.commands.count (startOf service) = if service ∈ stops log then 1 else 0

/-- What passes in the three parts of a measurement: services are stopped, the controller
is asked, and services are started. -/
structure Parts (stopping controls starts : Log) (done : List String) : Prop where
  stops : Stopping powerDraw stopping done
  asks : ∀ c, controls.Ran c → ∃ charge, c = charging charge
  starts_eq : starts.commands = done.reverse.map startOf

section
variable {before after stopping controls starts log : Log} {done : List String}

theorem Parts.commands_eq (h : Parts stopping controls starts done) :
    (stopping ++ controls ++ starts).commands =
      stopping.commands ++ controls.commands ++ done.reverse.map startOf := by
  rw [Log.commands_append, Log.commands_append, h.starts_eq]

theorem Parts.stops_eq (h : Parts stopping controls starts done) :
    Stopper.stops (stopping ++ controls ++ starts) = done := by
  have hcontrols : Stopper.stops controls = [] := stops_eq_nil fun c hc => by
    obtain ⟨charge, rfl⟩ := h.asks c hc
    show "ectool" ≠ "stop"
    decide
  have hstarts : Stopper.stops starts = [] := stops_eq_nil fun c hc => by
    rw [← Log.mem_commands_iff, h.starts_eq] at hc
    obtain ⟨service, -, rfl⟩ := List.mem_map.mp hc
    show "start" ≠ "stop"
    decide
  rw [stops_append, stops_append, h.stops.stops_eq, hcontrols, hstarts, List.append_nil,
    List.append_nil]

/-- What runs before the starts. -/
theorem Parts.front (h : Parts stopping controls starts done) {c : Command}
    (hc : c ∈ stopping.commands ++ controls.commands) :
    (∃ service ∈ powerDraw, c = statusOf service ∨ c = stopOf service) ∨
      ∃ charge, c = charging charge := by
  rw [List.mem_append, Log.mem_commands_iff, Log.mem_commands_iff] at hc
  exact hc.imp (h.stops.only c) (h.asks c)

/-- Only one command stops a service. -/
theorem Parts.eq_stopOf (h : Parts stopping controls starts done) {c : Command} {service : String}
    (hc : c ∈ (stopping ++ controls ++ starts).commands) (hargv : c.argv = ["stop", service]) :
    c = stopOf service := by
  rw [h.commands_eq, List.mem_append] at hc
  rcases hc with hc | hc
  · obtain ⟨s, -, rfl | rfl⟩ | ⟨charge, rfl⟩ := h.front hc
    · simp at hargv
    · rw [argv_stopOf] at hargv
      simpa [stopOf, Command.of] using hargv
    · simp [charging, Command.of] at hargv
  · obtain ⟨s, -, rfl⟩ := List.mem_map.mp hc
    simp at hargv

theorem Parts.startOf_not_mem (h : Parts stopping controls starts done) (service : String) :
    startOf service ∉ stopping.commands ++ controls.commands := by
  intro hc
  obtain ⟨s, -, hc | hc⟩ | ⟨charge, hc⟩ := h.front hc
  · simpa using congrArg Command.argv hc
  · simpa using congrArg Command.argv hc
  · simpa [charging, Command.of] using congrArg Command.argv hc

/-- In the three parts a service is started once if it was stopped. -/
theorem Parts.restarts (h : Parts stopping controls starts done) :
    Restarts (stopping ++ controls ++ starts) := by
  refine ⟨?asked, ?commands_eq, fun service => ⟨?stopped, ?accepted⟩, ?once⟩
  case asked =>
    intro service hs
    rw [Log.mem_commands_iff, Log.ran_append, Log.ran_append]
    exact .inl (.inl (h.stops.asked service hs))
  case commands_eq =>
    rw [h.stops_eq]
    exact ⟨_, _, h.commands_eq, fun c hc => h.stops.only c (Log.mem_commands_iff.mp hc),
      fun c hc => h.asks c (Log.mem_commands_iff.mp hc)⟩
  case stopped =>
    intro hs
    obtain ⟨c, out, hmem, hargv⟩ := mem_stops hs
    obtain rfl := h.eq_stopOf (Log.mem_commands_iff.mpr ⟨_, hmem, rfl⟩) hargv
    exact ⟨out, hmem⟩
  case accepted =>
    rintro ⟨out, hmem⟩
    exact List.mem_filterMap.mpr ⟨_, hmem, rfl⟩
  case once =>
    intro service
    have hnodup : (done.reverse.map startOf).Nodup :=
      (List.nodup_reverse.mpr (h.stops.sublist.nodup (by decide))).map startOf_injective
    rw [h.commands_eq, h.stops_eq, List.count_append,
      List.count_eq_zero.mpr (h.startOf_not_mem service), hnodup.count, Nat.zero_add]
    simp only [List.mem_map_of_injective startOf_injective, List.mem_reverse]

/-- What runs no command does not matter. -/
theorem Restarts.around (h : Restarts log) (hbefore : ∀ c, ¬ before.Ran c)
    (hafter : ∀ c, ¬ after.Ran c) : Restarts (before ++ (log ++ after)) := by
  have hstops : stops (before ++ (log ++ after)) = stops log := by
    rw [stops_append, stops_append, stops_eq_nil fun c hc => absurd hc (hbefore c),
      stops_eq_nil fun c hc => absurd hc (hafter c), List.append_nil, List.nil_append]
  have hcommands : (before ++ (log ++ after)).commands = log.commands := by
    rw [Log.commands_append, Log.commands_append, Log.commands_eq_nil hbefore,
      Log.commands_eq_nil hafter, List.append_nil, List.nil_append]
  have haccepted : ∀ c, (before ++ (log ++ after)).Accepted c ↔ log.Accepted c := fun c => by
    rw [Log.accepted_append, Log.accepted_append, or_iff_right fun h => hbefore c h.ran,
      or_iff_left fun h => hafter c h.ran]
  refine ⟨?_, ?_, ?_, ?_⟩
  · rw [hcommands]
    exact h.asked
  · rw [hcommands, hstops]
    exact h.commands_eq
  · simp only [hstops, haccepted]
    exact h.stops_iff
  · rw [hcommands, hstops]
    exact h.once

end

theorem measure_restarts {setting : Setting} {log : Log} {r : Except Failure Bool}
    (h : Course (measure setting) log r) : Restarts log := by
  rw [measure_eq] at h
  obtain ⟨stopping, stopper, rest, rfl, hstop, hrest⟩ := course_bind_iff.mp h
  obtain ⟨applies, forced, rest, rfl, happly, hforced⟩ := course_bind_iff.mp hrest
  obtain ⟨restores, restored, rest, rfl, hrestore, hrestored⟩ := course_bind_iff.mp hforced
  obtain ⟨starts, started, rest, rfl, hstart, hend⟩ := course_bind_iff.mp hrestored
  obtain ⟨rfl, rfl⟩ := course_done_iff.mp hend
  obtain ⟨stopping, done, rest, rfl, heach, hstopped⟩ := course_bind_iff.mp hstop
  obtain ⟨rfl, rfl⟩ := course_done_iff.mp hstopped
  obtain ⟨starts, _, rest, rfl, hstarts, hstarted⟩ := course_bind_iff.mp hstart
  obtain ⟨rfl, rfl⟩ := course_done_iff.mp hstarted
  have hcontrols : ∀ c, Log.Ran (applies ++ restores) c → ∃ charge, c = charging charge := by
    intro c hc
    rcases Log.ran_append.mp hc with hc | hc
    · exact ⟨false, apply_ran happly hc⟩
    cases forced with
    | error f =>
      obtain ⟨rfl, -⟩ := course_done_iff.mp hrestore
      exact absurd hc Log.not_ran_nil
    | ok success => exact ⟨true, restore_ran hrestore hc⟩
  have hcommands : Log.commands starts = done.reverse.map startOf := by
    refine Log.commands_eq ?_
    rw [startEach_asks hstarts, List.map_map]
    rfl
  simpa using Parts.restarts ⟨stopEach_stopping heach, hcontrols, hcommands⟩

/-- **Every service that was stopped is started again**, on every path through the test and
whatever fails. A test that gives up before the first stop runs no command. -/
theorem services_restarted {params : List String} {log : Log} {r : Except Abort Unit}
    (h : Course (ExceptT.run (forceDischarge params)) log r) :
    (Declined params log r ∧ log.commands = []) ∨ (Measured params log r ∧ Restarts log) := by
  rcases forceDischarge_cases h with hdeclined | hmeasured
  · refine .inl ⟨hdeclined, ?_⟩
    cases hdeclined with
    | unreadable _ => rfl
    | unset _ => rfl
  · refine .inr ⟨hmeasured, ?_⟩
    have hopen : ∀ c, ¬ Log.Ran [⟨.openBattery, .ok ()⟩] c := by
      simp [Log.Ran]
    cases hmeasured with
    | failed _ hcourse =>
      simpa using (measure_restarts hcourse).around hopen fun _ => Log.not_ran_nil
    | noted _ hcourse =>
      exact (measure_restarts hcourse).around hopen (by simp [Log.Ran])

/-- Surroundings in which every service runs and every command succeeds, and looks at the
battery end so. -/
def busy (look : Except Failure Unit) : (q : Request) → Unit → q.Reply × Unit
  | .run _, _ => (Board.prints "start/running", ())
  | q, s => ready look q s

/-- The first look at the battery fails, and the services are started again all the same. -/
theorem services_restarted_behind_failure :
    let f := Failure.error "the battery is gone"
    let log : Log := (ExceptT.run (forceDischarge ["TRUE"])).exchanges (busy (.error f)) ()
    log.commands = powerDraw.flatMap (fun service => [statusOf service, stopOf service]) ++
      [charging false] ++ powerDraw.reverse.map startOf ∧ Restarts log := by
  intro f log
  have h : Course (ExceptT.run (forceDischarge ["TRUE"])) log (.error (.failed f)) :=
    course_run (busy (.error f)) _ ()
  have hcommands : log.commands = powerDraw.flatMap (fun service => [statusOf service,
      stopOf service]) ++ [charging false] ++ powerDraw.reverse.map startOf := by
    decide +kernel
  refine ⟨hcommands, ?_⟩
  rcases services_restarted h with ⟨-, hnone⟩ | ⟨-, hrestarts⟩
  · cases hnone.symm.trans hcommands
  · exact hrestarts

end DeviceLab.Catalog.Power
