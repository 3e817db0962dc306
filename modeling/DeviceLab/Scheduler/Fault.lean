import DeviceLab.Failure

/-! What may go wrong in the scheduler. -/
namespace DeviceLab.Scheduler

inductive Fault where
  /-- The scheduler cannot go on from the state it is in. -/
  | inconsistentState (message : String)
  /-- The database cannot be reached. -/
  | database (name message : String)
  | logging (message : String)
  /-- A failure of another part of the bench. -/
  | failure (f : Failure)
  deriving DecidableEq

namespace Fault

def message : Fault → String
  | .inconsistentState m => "inconsistent scheduler state: " ++ m
  | .database name m => "database [" ++ name ++ "]: " ++ m
  | .logging m => "scheduler logging: " ++ m
  | .failure f => f.message

def code : Fault → String
  | .inconsistentState _ => "autotest::scheduler::state"
  | .database .. => "autotest::scheduler::database"
  | .logging _ => "autotest::scheduler::logging"
  | .failure f => f.code

end Fault
end DeviceLab.Scheduler
