import DeviceLab.Device.Session
import DeviceLab.Script

/-! Rehearsals: devices that answer as prepared.

Commands go to a runner of its own, a script or anything else. The battery
starts to discharge at the look it is told to, and one look may fail. The clock
moves with pauses, and by a nanosecond whenever it is read. -/
namespace DeviceLab.Device

structure Battery where
  present : Bool
  /-- The look from which on it discharges. -/
  dischargesFrom : Option Nat
  /-- The look that fails, and how. -/
  failsAt : Option (Nat × Failure)
  /-- How often it has been looked at. -/
  looks : Nat

namespace Battery

def discharging (b : Battery) : Bool :=
  b.dischargesFrom.any (· ≤ b.looks)

/-- Looks at the battery. -/
def look (b : Battery) : Except Failure Unit × Battery :=
  let b := { b with looks := b.looks + 1 }
  match b.failsAt with
  | some (n, f) => if n == b.looks then (.error f, b) else (.ok (), b)
  | none => (.ok (), b)

end Battery

structure Rehearsal (σ : Type) where
  runner : σ
  clock : Nat
  controller : Bool
  battery : Battery
  installed : String → Bool

namespace Rehearsal
variable {σ : Type}

/-- The replies of a rehearsal whose commands are run as given. Nothing is noted. -/
def answer (run : Command → σ → Except Failure Output × σ) :
    (r : Request) → Rehearsal σ → r.Reply × Rehearsal σ
  | .run c, s =>
    let (r, runner) := run c s.runner
    (r, { s with runner })
  | .now, s => (s.clock, { s with clock := s.clock + 1 })
  | .pause span, s => ((), { s with clock := s.clock + span })
  | .jobInstalled service, s => (s.installed service, s)
  | .controllerPresent, s => (s.controller, s)
  | .openBattery, s => (.ok (), s)
  | .refreshBattery, s =>
    let (r, battery) := s.battery.look
    (r, { s with battery })
  | .batteryPresent, s => (s.battery.present, s)
  | .batteryDischarging, s => (s.battery.discharging, s)
  | .record _, s => (.ok (), s)

/-- A rehearsal of a conversation. -/
def talk {α : Type} (run : Command → σ → Except Failure Output × σ) (t : Talk α)
    (s : Rehearsal σ) : α × Rehearsal σ :=
  t.run (answer run) s

end Rehearsal

/-- The replies of a rehearsal beside which a host keeps what is noted. -/
def Rehearsal.answerNoting {σ τ : Type} (run : Command → σ → Except Failure Output × σ)
    (note : List (String × String) → τ → Except Failure Unit × τ) :
    (r : Request) → Rehearsal σ × τ → r.Reply × (Rehearsal σ × τ)
  | .record pairs, (s, t) =>
    let (r, t) := note pairs t
    (r, (s, t))
  | r, (s, t) =>
    let (a, s) := answer run r s
    (a, (s, t))

end DeviceLab.Device
