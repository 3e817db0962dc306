import DeviceLab.Decimal.Reading
import DeviceLab.Device.Session
import DeviceLab.Dict
import DeviceLab.Text.Cut
import DeviceLab.Text.Utf8
import DeviceLab.Unicode.Property

/-! The trusted platform module, through its command line clients.

The clients print reports meant for people; what is read out of them is found by
the first place that has the form of the field in question. -/
namespace DeviceLab.Device.Tpm

def client : String := "/usr/bin/tpm_manager_client"
def versionClient : String := "tpm_version"

/-- Runs a client whatever its status, with complaints behind its output. -/
def ask (argv : List String) : Session String :=
  Session.output (Command.of argv).ignoringStatus.mergingStderr

/-! ### Ownership -/

structure Status where
  enabled : Bool
  owned : Bool
  deriving DecidableEq

/-- A module that is enabled and owned is ready. -/
def Status.ready (s : Status) : Bool :=
  s.enabled && s.owned

/-- The truth value behind the first occurrence of the label that has one. -/
def flagAfter (label : List Char) : List Char → Option Bool
  | [] => none
  | c :: cs =>
    match Text.afterStart label (c :: cs) with
    | none => flagAfter label cs
    | some rest =>
      if (Text.afterStart ['t', 'r', 'u', 'e'] rest).isSome then some true
      else if (Text.afterStart ['f', 'a', 'l', 's', 'e'] rest).isSome then some false
      else flagAfter label cs

def flag (label out : String) : Session Bool :=
  match flagAfter label.toList out.toList with
  | some b => return b
  | none => throw (.error ("Invalid TPM status: \"" ++ out ++ "\"."))

def status : Session Status := do
  let out ← ask [client, "status"]
  let enabled ← flag "enabled: " out
  let owned ← flag "owned: " out
  return ⟨enabled, owned⟩

def takeOwnership : Session Unit := do
  let _ ← ask [client, "take_ownership"]

/-! ### Dictionary attacks -/

/-- A value of the report on dictionary attacks. -/
inductive Attribute where
  | flag (b : Bool)
  | count (n : Nat)
  | text (s : String)
  deriving DecidableEq

def Attribute.shown : Attribute → String
  | .flag b => if b then "true" else "false"
  | .count n => toString n
  | .text s => s

/-- Truth values and counts are told from texts by their form. A count may be
followed by a remark in parentheses, and a number too large is no count. -/
def attributeOf (raw : String) : Attribute :=
  let word := Text.trim raw
  if word == "false" then .flag false
  else if word == "true" then .flag true
  else
    let number := Text.dropBlankEnd (Text.dropBlank (raw.toList.takeWhile (· != '(')))
    match (Reading.digits? number).filter (· ≤ Reading.maxWord64) with
    | some n => .count n
    | none => .text (Text.trimBoth (fun c => c == ' ' || c == '"') raw)

/-- The report by the names of its attributes. -/
abbrev Report := Dict Attribute

/-- A line with exactly one colon names an attribute. -/
def entryOf (line : String) : Option (String × Attribute) :=
  match Text.pieces ':' (Text.trim line) with
  | [key, raw] => some (Text.trim key, attributeOf raw)
  | _ => none

/-- The first and the last line frame the report. -/
def reportOf (out : String) : Report :=
  Dict.ofList ((Text.lines out).tail.dropLast.filterMap entryOf)

def count? (r : Report) (key : String) : Option Nat :=
  match r.get? key with
  | some (.count n) => some n
  | _ => none

def counter (r : Report) : Option Nat :=
  count? r "dictionary_attack_counter"

def threshold (r : Report) : Option Nat :=
  count? r "dictionary_attack_threshold"

def secondsRemaining (r : Report) : Option Nat :=
  count? r "dictionary_attack_lockout_seconds_remaining"

/-- Is a lockout in effect, if the report says? -/
def lockout (r : Report) : Option Bool :=
  match r.get? "dictionary_attack_lockout_in_effect" with
  | some (.flag b) => some b
  | _ => none

def report : Session Report := do
  return reportOf (← ask [client, "get_da_info"])

def lockoutInEffect : Session (Option Bool) := do
  return lockout (← report)

/-! ### Version -/

/-- The digits behind the first label that blanks and a digit follow. -/
def revisionDigits : List Char → Option (List Char)
  | [] => none
  | c :: cs =>
    match Text.afterStart "Spec Revision: ".toList (c :: cs) with
    | none => revisionDigits cs
    | some rest =>
      match (rest.dropWhile (· == ' ')).takeWhile Unicode.isDecimalDigit with
      | [] => revisionDigits cs
      | digits => some digits

def specRevision : Session Nat := do
  let out ← ask [versionClient]
  let digits := (revisionDigits out.toList).bind Reading.digits?
  match digits.filter (· ≤ Reading.maxWord32) with
  | some n => return n
  | none => throw (.error ("Unexpected tpm_version output: " ++ out))

/-! ### Owner password -/

def hexDigit? (c : Char) : Option Nat :=
  if '0' ≤ c && c ≤ '9' then some (c.toNat - 48)
  else if 'a' ≤ c && c ≤ 'f' then some (c.toNat - 87)
  else if 'A' ≤ c && c ≤ 'F' then some (c.toNat - 55)
  else none

/-- The value of the digits of base sixteen, or nothing if a character is none. -/
def hexFrom? (acc : Nat) : List Char → Option Nat
  | [] => some acc
  | c :: cs => (hexDigit? c).bind fun d => hexFrom? (16 * acc + d) cs

/-- One or more digits of base sixteen and nothing else, a plus sign allowed in front. -/
def hex? : List Char → Option Nat
  | [] | ['+'] => none
  | '+' :: cs => hexFrom? 0 cs
  | cs => hexFrom? 0 cs

/-- The character whose code two bytes spell, if they are text at all. -/
def pairChar? (a b : UInt8) : Option Char :=
  (Utf8.decode? ⟨#[a, b]⟩).bind fun digits => (hex? digits.toList).map Char.ofNat

/-- The characters that bytes spell two by two, wherever the characters of their text end. -/
def decodeHex : List UInt8 → Option (List Char)
  | [] => some []
  | a :: b :: rest => do
    let c ← pairChar? a b
    let cs ← decodeHex rest
    return c :: cs
  | [_] => none

/-- The password that hexadecimal digits encode. -/
def passwordOf (hex : String) : Except Failure String :=
  let bytes := (Utf8.encode hex).data.toList
  if bytes.length % 2 != 0 then
    .error (.parse "TPM owner password" ("odd-length hex '" ++ hex ++ "'"))
  else
    match decodeHex bytes with
    | some cs => .ok (String.ofList cs)
    | none => .error (.parse "TPM owner password" ("invalid hex '" ++ hex ++ "'"))

/-- The word behind the first password label, of the characters that count for words. -/
def passwordWord (isWord : Char → Bool) (out : String) : Option String :=
  (Text.afterFirst "owner_password: ".toList out.toList).map fun rest =>
    String.ofList (rest.takeWhile isWord)

/-- The owner password, empty when none is reported. -/
def password (isWord : Char → Bool) : Session String := do
  let out ← ask [client, "status"]
  match passwordWord isWord out with
  | some hex => ExceptT.mk (pure (passwordOf hex))
  | none => return ""

end DeviceLab.Device.Tpm
