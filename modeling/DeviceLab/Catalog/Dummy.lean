import DeviceLab.Decimal.Reading
import DeviceLab.Decimal.Binary64
import DeviceLab.Decimal.Shortest
import DeviceLab.Trial.Body

/-! Tests that exercise the bench itself. -/
namespace DeviceLab.Catalog.Dummy

/-- Always passes. -/
def pass (params : List String) : Procedure Unit :=
  Procedure.record [("dummy_pass", toString params.length)]

/-- Always fails, with the first parameter as the message if there is one. -/
def fail (params : List String) : Procedure Unit :=
  Procedure.fail (.fail (params.headD "This test always fails."))

/-- Always panics. -/
def panic (params : List String) : Procedure Unit :=
  throw (.panicked (some (params.headD "This test always panics.")))

/-- A number of seconds as a span: neither negative nor 2^64 or more, rounded to nanoseconds. -/
def spanOf (secs : Float) : Option Nat :=
  match Binary64.parts secs with
  | .finite negative m q =>
    if negative && m != 0 then none
    else if q ≥ 0 && m * Nat.pow 2 q.toNat ≥ UInt64.size then none
    else if q ≥ 0 then some (m * Nat.pow 2 q.toNat * Seconds.second)
    else some (Binary64.roundDiv (m * Seconds.second) (Nat.pow 2 (-q).toNat))
  | _ => none

def invalidDuration (secs : String) : Failure :=
  .error ("invalid sleep duration '" ++ secs ++ "'")

/-- The number of seconds to sleep, one if nothing is said. -/
def secondsOf (params : List String) : Except Failure Float :=
  match params with
  | [] => .ok 1.0
  | secs :: _ =>
    match Reading.float? secs with
    | some x => .ok x
    | none => .error (invalidDuration secs)

/-- Sleeps for the seconds of the first parameter, then passes. -/
def sleep (params : List String) : Procedure Unit := do
  let secs ← Procedure.need (secondsOf params)
  match spanOf secs with
  | none => Procedure.fail (invalidDuration (Shortest.text secs))
  | some span =>
    Procedure.session (ExceptT.lift (Device.Session.pause span))
    Procedure.record [("dummy_slept_secs", Shortest.text secs)]

end DeviceLab.Catalog.Dummy
