import DeviceLab.Datum.Record
import DeviceLab.Decimal.Reading
import DeviceLab.Decimal.Binary64
import DeviceLab.Host
import DeviceLab.Toml.Document

/-! The configuration of the bench.

It is a document with a section each for the database, the scheduler and the
client. Whatever it leaves out has a value of its own. -/
namespace DeviceLab

/-- How to reach the database. -/
structure Database where
  host : String
  database : String
  user : String
  password : String
  /-- Read from a copy that cannot be written. -/
  readonly : Bool
  deriving DecidableEq

namespace Database

/-- The section that describes the database. -/
def sectionName : String := "AUTOTEST_WEB"

def standard : Database :=
  ⟨"localhost", "chromeos_autotest_db", "chromeosqa-admin", "", false⟩

def of? (d : Datum) : Option Database := do
  let r ← Record.of? ["host", "database", "user", "password", "readonly"] d
  let host ← r.withDefault "host" standard.host Datum.text?
  let database ← r.withDefault "database" standard.database Datum.text?
  let user ← r.withDefault "user" standard.user Datum.text?
  let password ← r.withDefault "password" standard.password Datum.text?
  let readonly ← r.withDefault "readonly" standard.readonly Datum.bool?
  return ⟨host, database, user, password, readonly⟩

end Database

structure Config where
  database : Database
  logDir : String
  resultsDir : String
  /-- The seconds after which a test in a process of its own is stopped. -/
  childSeconds : Option Nat
  deriving DecidableEq

namespace Config

def standard : Config :=
  ⟨.standard, "logs", "results", none⟩

/-- The time limit of a test in a process of its own. -/
def childTimeout (c : Config) : Option Nat :=
  c.childSeconds.map (· * Seconds.second)

def logDirOf? (d : Datum) : Option String := do
  let r ← Record.of? ["log_dir"] d
  r.withDefault "log_dir" standard.logDir Datum.text?

def clientOf? (d : Datum) : Option (String × Option Nat) := do
  let r ← Record.of? ["results_dir", "child_timeout_secs"] d
  let resultsDir ← r.withDefault "results_dir" standard.resultsDir Datum.text?
  let seconds ← r.nullable "child_timeout_secs" (Datum.nat? Reading.maxWord64)
  return (resultsDir, seconds)

def of? (d : Datum) : Option Config := do
  let r ← Record.of? [Database.sectionName, "SCHEDULER", "CLIENT"] d
  let database ← r.withDefault Database.sectionName .standard Database.of?
  let logDir ← r.withDefault "SCHEDULER" standard.logDir logDirOf?
  let (resultsDir, childSeconds) ←
    r.withDefault "CLIENT" (standard.resultsDir, standard.childSeconds) clientOf?
  return ⟨database, logDir, resultsDir, childSeconds⟩

/-- The configuration a text describes. -/
def read (text : String) : Except Failure Config :=
  match (Toml.read? text).bind of? with
  | some c => .ok c
  | none => .error (.config "the text is no configuration")

/-- The configuration in a file. -/
def ofFile (path : String) (h : Host) : Except Failure Config :=
  match h.tree.readText h.cwd path with
  | .ok text => read text
  | .error e => .error (.config ("cannot read '" ++ path ++ "': " ++ e.text))

/-- The variable that names the file of the configuration. -/
def variableName : String := "AUTOTEST_CONFIG"

/-- The configuration in the file that is named, or else in the one that a variable
of the host names, or else the standard one. -/
def load (path : Option String) (h : Host) : Except Failure Config :=
  match path, h.valueOf? variableName with
  | some path, _ => ofFile path h
  | none, some path => if path.isEmpty then .ok standard else ofFile path h
  | none, none => .ok standard

end Config
end DeviceLab
