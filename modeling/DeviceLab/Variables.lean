import DeviceLab.Host
import DeviceLab.Json.Reader

/-! Variables that depend on the device under test.

A document gives each variable a value, or conditions with a value each. A
condition is a table of patterns, under the names of facts that are known from
outside; all of its patterns have to be found in the facts. The first condition
that is met gives the variable its value, which may be conditional again. How
patterns are written and found is left to a `Matcher`. -/
namespace DeviceLab.Variables

/-- What is known from outside, by name. -/
abbrev Facts := Dict String

/-- Reads a pattern, which is then looked for in texts. Of a text that is no pattern
it says why. -/
abbrev Matcher := String → Except String (String → Bool)

/-- The name under which a condition has its value. -/
def valueName : String := "value"

def badPattern (name : String) (d : Datum) : Failure :=
  .config ("Condition pattern for '" ++ name ++ "' must be a string but got " ++ d.kindName)

/-- Is a pattern found in a fact? -/
def found (matcher : Matcher) (name : String) (d : Datum) (fact : String) : Except Failure Bool :=
  match d with
  | .text s =>
    match matcher s with
    | .ok finds => .ok (finds fact)
    | .error reason => .error (.parse ("condition pattern for '" ++ name ++ "'") reason)
  | d => .error (badPattern name d)

/-- Are all patterns found? One for a fact that is not known is not, and what
stands behind a pattern that is not found does not matter. -/
def allFound (matcher : Matcher) (facts : Facts) : List (String × Datum) → Except Failure Bool
  | [] => .ok true
  | (name, d) :: rest =>
    if name = valueName then allFound matcher facts rest
    else
      match facts.get? name with
      | none => .ok false
      | some fact =>
        match found matcher name d fact with
        | .ok true => allFound matcher facts rest
        | r => r

/-- Is the condition met? Its patterns are tried in the order of their names. -/
def met (matcher : Matcher) (facts : Facts) (condition : List (String × Datum)) :
    Except Failure Bool :=
  allFound matcher facts (Dict.ofList condition).entries

def hasValue (condition : List (String × Datum)) : Bool :=
  condition.any (·.1 == valueName)

mutual

/-- The value of a variable. -/
def resolve (matcher : Matcher) (facts : Facts) : Datum → Except Failure Datum
  | .list conditions => choose matcher facts conditions
  | .null => .error (.config ("Conditions must be an array but got " ++ Datum.kindName .null))
  | .table fields =>
    .error (.config ("Conditions must be an array but got " ++ Datum.kindName (.table fields)))
  | d => .ok d

/-- The value of the first condition that is met. -/
def choose (matcher : Matcher) (facts : Facts) : List Datum → Except Failure Datum
  | [] => .error (.config "Condition did not match any external vars")
  | .table fields :: rest =>
    if hasValue fields then
      match met matcher facts fields with
      | .ok true => valueOf matcher facts fields
      | .ok false => choose matcher facts rest
      | .error f => .error f
    else .error (.config "Missing mandatory \"value\" key from condition")
  | d :: _ => .error (.config ("Condition must be a dictionary but got " ++ d.kindName))

/-- The value of a condition. If it has several the last counts. -/
def valueOf (matcher : Matcher) (facts : Facts) : List (String × Datum) → Except Failure Datum
  | [] => .ok .null
  | (name, d) :: rest =>
    if name = valueName ∧ !hasValue rest then resolve matcher facts d
    else valueOf matcher facts rest

end

/-- The values of variables in their order; the first that has none ends it. -/
def resolveEach (matcher : Matcher) (facts : Facts) :
    List (String × Datum) → Except Failure (List (String × Datum))
  | [] => .ok []
  | (name, d) :: rest => do
    let value ← resolve matcher facts d
    let values ← resolveEach matcher facts rest
    return (name, value) :: values

/-- The variables of a document with their values. -/
def ofDatum (matcher : Matcher) (facts : Facts) : Datum → Except Failure (Dict Datum)
  | .table fields => (resolveEach matcher facts (Dict.ofList fields).entries).map Dict.ofList
  | d =>
    .error (.config
      ("Top level configuration object must be a dictionary but got " ++ d.kindName))

/-- The variables a text describes. -/
def read (matcher : Matcher) (facts : Facts) (text : String) : Except Failure (Dict Datum) :=
  match (Json.read? text).filter Json.keepable with
  | some d => ofDatum matcher facts d
  | none => .error (.parse "config JSON" "the text is no document")

/-- The variables a file describes. -/
def ofFile (matcher : Matcher) (facts : Facts) (path : String) (h : Host) :
    Except Failure (Dict Datum) :=
  match h.tree.readText h.cwd path with
  | .ok text => read matcher facts text
  | .error e => .error (.io e.text)

end DeviceLab.Variables
