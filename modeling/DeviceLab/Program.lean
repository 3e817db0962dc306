import DeviceLab.Decimal.Binary64
import DeviceLab.Host

/-! Programs, and the processes that run them.

A process works on the host of the one that has started it, with a number and a
working directory of its own. If its time is limited, it is looked at now and
then, and stopped at the first look that finds it running with its time up. -/
namespace DeviceLab

/-- How a process ended: by itself, by a signal, or not before its time was up. -/
inductive Ending where
  | exited (code : Nat)
  | killed (signal : Nat)
  | overdue
  deriving DecidableEq

/-- What a process has left: how it ended and what it wrote. -/
structure Finish where
  ending : Ending
  out : ByteArray
  err : ByteArray

/-- A program that can be started with arguments, if it can. -/
abbrev Program := List String → Host → Except OsError Finish × Host

/-- A time limit, and how often a process with one is looked at. -/
structure Watch where
  limit : Nat
  interval : Nat

/-- The look at which a process that still runs is stopped, after its start. -/
def Watch.lastLook (w : Watch) : Nat :=
  (w.limit + w.interval - 1) / w.interval * w.interval

namespace Program

/-- The time it takes to start a process. -/
def startup : Nat := 2 * Seconds.millisecond

/-- The earlier of two deadlines. -/
def earlier : Option Nat → Option Nat → Option Nat
  | some a, some b => some (min a b)
  | some a, none => some a
  | none, b => b

/-- The starting process after the other has ended, or was stopped at a look. The
working directory, the number, the variables and the deadline are its own. -/
def resume (parent child : Host) (watch : Option Watch) (done : Finish) : Finish × Host :=
  let own :=
    { child with
      cwd := parent.cwd
      pid := parent.pid
      environment := parent.environment
      deadline := parent.deadline }
  match watch with
  | none => (done, own)
  | some w =>
    let last := parent.clock + w.lastLook
    if child.clock > last || done.ending == .overdue then
      ({ done with ending := .overdue }, { own with clock := last })
    else (done, own)

/-- No argument may be as long as this, in bytes. -/
def maxArgument : Nat := 131072

/-- Why no process can be started with the arguments, if that is so. -/
def refusedArgument (args : List String) : Option OsError :=
  if args.any (·.toList.contains '\x00') then some .nulInArgument
  else if args.any (·.utf8ByteSize ≥ maxArgument) then some .argumentsTooLong
  else none

/-- The process that is started next, before it has done anything. -/
def started (watch : Option Watch) (h : Host) : Host :=
  { h with
    pid := h.nextPid
    nextPid := h.nextPid + 1
    clock := h.clock + startup
    deadline := earlier h.deadline (watch.map fun w => h.clock + w.lastLook) }

/-- Runs a program in a process; gives what that left and its number. -/
def spawn (program : Program) (argv : List String) (watch : Option Watch) (h : Host) :
    Except OsError (Finish × Nat) × Host :=
  match refusedArgument argv with
  | some e => (.error e, h)
  | none =>
    match program argv (started watch h) with
    | (.error e, _) => (.error e, h)
    | (.ok done, child) =>
      let (done, h') := resume h child watch done
      (.ok (done, h.nextPid), h')

end Program
end DeviceLab
