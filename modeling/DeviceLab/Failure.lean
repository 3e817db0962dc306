import DeviceLab.Text.Blank

/-! Failures: what a test, a command or the bench itself may end with.

A failure is a cause with the texts that belong to it. All but one of the causes
are raised on purpose; `unhandled` wraps whatever was not, such as a panic. -/
namespace DeviceLab

inductive Failure where
  /-- The test or the bench could not do its job. -/
  | error (message : String)
  /-- The device behaved incorrectly. -/
  | fail (message : String)
  /-- The test does not apply to the device. -/
  | notApplicable (message : String)
  | unhandled (message : String)
  /-- A command did not end with status zero. One that a signal ended has no status. -/
  | command (line : String) (exit : Option Int32) (out err : String)
  | timeout (message : String)
  | io (message : String)
  | parse (what detail : String)
  | config (message : String)
  deriving DecidableEq, Inhabited

namespace Failure

/-- The name of the cause, as status logs show it. -/
def kind : Failure → String
  | .error _ => "TestError"
  | .fail _ => "TestFail"
  | .notApplicable _ => "TestNA"
  | .unhandled _ => "UnhandledError"
  | .command .. => "CmdError"
  | .timeout _ => "TimeoutError"
  | .io _ => "IOError"
  | .parse .. => "ParseError"
  | .config _ => "ConfigError"

/-- How a command ended: its status, or that it was killed. -/
def exitText : Option Int32 → String
  | some code => toString code.toInt
  | none => "killed"

/-- What the command wrote about its failure, if anything. -/
def complaint (err : String) : String :=
  let err := Text.trim err
  if err.isEmpty then "" else "\n* stderr: " ++ err

def message : Failure → String
  | .error m | .fail m | .notApplicable m | .timeout m => m
  | .unhandled m => "Unhandled " ++ m
  | .command line exit _ err =>
    "Command <" ++ line ++ "> failed, rc=" ++ exitText exit ++ complaint err
  | .io m => "I/O error: " ++ m
  | .parse what detail => "could not parse " ++ what ++ ": " ++ detail
  | .config m => "configuration error: " ++ m

/-- Was the failure raised on purpose? -/
def deliberate : Failure → Bool
  | .unhandled _ => false
  | _ => true

/-- The code a diagnostic report files the failure under. -/
def code : Failure → String
  | .error _ => "autotest::test_error"
  | .fail _ => "autotest::test_fail"
  | .notApplicable _ => "autotest::test_na"
  | .unhandled _ => "autotest::unhandled"
  | .command .. => "autotest::cmd"
  | .timeout _ => "autotest::timeout"
  | .io _ => "autotest::io"
  | .parse .. => "autotest::parse"
  | .config _ => "autotest::config"

/-- Advice for whoever reads the report. -/
def help : Failure → Option String
  | .notApplicable _ => some "the test does not apply to this device"
  | _ => none

end Failure

/-- How a test, or what it calls, is cut short. A panic may or may not say something. -/
inductive Abort where
  | failed (f : Failure)
  | panicked (message : Option String)
  deriving DecidableEq

end DeviceLab
