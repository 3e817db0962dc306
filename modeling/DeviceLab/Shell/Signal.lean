import DeviceLab.Decimal.Reading
import DeviceLab.Text.Cut

/-! Signals, by number and by name. -/
namespace DeviceLab.Shell.Signal

def names : List (String × Nat) :=
  [("HUP", 1), ("INT", 2), ("QUIT", 3), ("ILL", 4), ("TRAP", 5), ("ABRT", 6), ("BUS", 7),
   ("FPE", 8), ("KILL", 9), ("USR1", 10), ("SEGV", 11), ("USR2", 12), ("PIPE", 13),
   ("ALRM", 14), ("TERM", 15), ("CHLD", 17), ("CONT", 18), ("STOP", 19), ("TSTP", 20),
   ("TTIN", 21), ("TTOU", 22), ("URG", 23), ("XCPU", 24), ("XFSZ", 25), ("VTALRM", 26),
   ("PROF", 27), ("WINCH", 28), ("IO", 29), ("PWR", 30), ("SYS", 31)]

/-- The number of a signal given by its number or its name. -/
def of? (s : String) : Option Nat :=
  match Reading.digits? s.toList with
  | some n => if n ≤ 64 then some n else none
  | none =>
    let name := s.toUpper
    names.lookup ((Text.dropStart? "SIG" name).getD name)

/-- What is said of a process that a signal has ended. Of some nothing is said. -/
def remark? (n : Nat) : Option String :=
  match n with
  | 1 => some "Hangup"
  | 3 => some "Quit"
  | 4 => some "Illegal instruction"
  | 6 => some "Aborted"
  | 7 => some "Bus error"
  | 8 => some "Floating point exception"
  | 9 => some "Killed"
  | 10 => some "User defined signal 1"
  | 11 => some "Segmentation fault"
  | 12 => some "User defined signal 2"
  | 14 => some "Alarm clock"
  | 15 => some "Terminated"
  | _ => none

/-- What a process does that has said nothing about the signal. -/
inductive Effect where
  | nothing
  | stops
  | ends

def effect (n : Nat) : Effect :=
  if [0, 17, 18, 23, 28].contains n then .nothing
  else if [19, 20, 21, 22].contains n then .stops
  else .ends

end DeviceLab.Shell.Signal
