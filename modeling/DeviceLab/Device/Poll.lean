import DeviceLab.Decimal.Binary64
import DeviceLab.Device.Session

/-! Polling: waiting until a condition holds.

The condition is looked at once at least. Between two looks lies one interval of
sleep, and no sleep begins whose planned end is past the time limit. Spans of time
are bounded, and a planned end that no span can tell is a panic. -/
namespace DeviceLab.Device

structure Poll where
  timeout : Nat
  interval : Nat
  /-- What is waited for, in the message of a poll that runs out of time. -/
  desc : Option String
  /-- The failure of a poll that runs out of time, instead of the usual one. -/
  failure : Option Failure

namespace Poll

/-- Ten seconds, looking ten times a second. -/
def usual : Poll :=
  ⟨10 * Seconds.second, 100 * Seconds.millisecond, none, none⟩

def timeoutFailure (p : Poll) : Failure :=
  match p.failure, p.desc with
  | some f, _ => f
  | none, some desc => .timeout ("Timed out waiting for condition: " ++ desc)
  | none, none => .timeout "Timed out waiting for unnamed condition"

/-- How often the condition can be looked at, on a clock that moves on by the
interval, and by a nanosecond at least, from one look to the next. -/
def looks (p : Poll) : Nat :=
  p.timeout / max p.interval 1 + 1

def overflow : Abort :=
  .panicked (some "overflow when adding durations")

/-- Looks at the condition until it holds, `looks` times at most. -/
def loop (p : Poll) (condition : Session Bool) (start : Nat) : (looks : Nat) → Procedure Unit
  | 0 => Procedure.fail p.timeoutFailure
  | looks + 1 => do
    if ← Procedure.session condition then return
    let t ← Session.now
    match Seconds.sum? (t - start) p.interval with
    | none => throw overflow
    | some planned =>
      if planned > p.timeout then Procedure.fail p.timeoutFailure
      else
        Session.pause p.interval
        loop p condition start looks

/-- Waits until the condition holds. A failure of the condition ends the wait. -/
def wait (p : Poll) (condition : Session Bool) : Procedure Unit := do
  let start ← Session.now
  p.loop condition start p.looks

end Poll
end DeviceLab.Device
