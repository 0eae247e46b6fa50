import SourceGrade.Feedback.Answer
import SourceGrade.Feedback.Client
import SourceGrade.Listing
import SourceGrade.Text.Case
/-!
# Test cases

A language model is asked for test cases of some code, and to run the code on an input in its head.
A case passes when the outcome of its dry run is the expected one up to blanks and case.
-/

namespace SourceGrade

/-- A test case, with the outcome of its dry run when there was one. -/
structure TestCase where
  input : CodePoints
  expected : CodePoints
  description : CodePoints
  actual? : Option Text := none
  passed? : Option Bool := none
  deriving DecidableEq, Repr

namespace TestCase

def generationInstructions (language : Text) (count : Int) : Text :=
  "You are a test case generator. For the following " ++ language ++ " code, generate " ++
    Text.ofInt count ++
    " test cases: a simple case, an edge case and a corner case first. " ++
    "Reply with a JSON object: \x7b\"test_cases\": [\x7b\"input\": \"...\", " ++
    "\"expected_output\": \"...\", \"description\": \"...\"\x7d]\x7d."

/-- A value that is not null. -/
def present? : Option Json → Option Json
  | some .null => none
  | v => v

/-- The case that an entry of an answer describes. It needs an input and an expected output. -/
def ofEntry? (entry : Json) : Option TestCase := do
  let members ← entry.textMembers?
  let input ← present? (Json.member? "input" members)
  let expected ← present? (Json.member? "expected_output" members)
  let description : CodePoints :=
    match Json.member? "description" members with
    | some d => if d.isNothing then [] else d.shown
    | none => []
  some ⟨input.shown, expected.shown, description, none, none⟩

/-- The cases that an answer describes. -/
def ofAnswer (t : Text) : Except AnswerError (List TestCase) := do
  match (← answeredObject? t).bind (Json.member? "test_cases") with
  | some (.list entries) => return entries.filterMap ofEntry?
  | _ => return []

/-- Asks for test cases. -/
def generate (c : ChatClient) (code language : Text) (count : Int) :
    Except AnswerError (List TestCase) × ChatClient :=
  let (answer, c) := c.chat ChatClient.writingTemperature
    (ChatClient.task (generationInstructions language count) code)
  match answer with
  | .ok t => ((ofAnswer t).map (Listing.upTo count), c)
  | .error _ => (.ok [], c)

def runInstructions (language : Text) : Text :=
  "You are a code dry-runner. Simulate executing the following " ++ language ++
    " code with the provided input and return only the output. Do not explain and do not show code."

/-- The outcome of a dry run without an answer. -/
def executionFailed : Text := "Execution Failed"

/-- Asks for the output of some code on an input. -/
def execute (c : ChatClient) (code : Text) (input : CodePoints) (language : Text) :
    Text × ChatClient :=
  let (answer, c) := c.chat ChatClient.exactTemperature
    (ChatClient.task (runInstructions language)
      (CodePoints.ofText ("Code:\n" ++ code ++ "\n\nInput:\n") ++ input))
  match answer with
  | .ok t => (t, c)
  | .error _ => (executionFailed, c)

/-- An output without its blanks and in lower case. -/
def normalizeOutput (t : Text) : Text := Text.lower (t.filter fun c => !Text.isBlank c)

/-- A case with the outcome of its dry run. An outcome is a text, so that only a text is expected
rightly. -/
def judged (t : TestCase) (actual : Text) : TestCase :=
  { t with
    actual? := some actual
    passed? := some (actual != executionFailed && t.expected.toText?.any fun expected =>
      normalizeOutput actual == normalizeOutput expected) }

/-- Dry-runs cases one after the other. -/
def runAll (c : ChatClient) (code language : Text) : List TestCase → List TestCase × ChatClient
  | [] => ([], c)
  | t :: ts =>
    let (actual, c) := execute c code t.input language
    let (rest, c) := runAll c code language ts
    (t.judged actual :: rest, c)

/-- The number of cases to ask for. -/
def defaultCount : Int := 3

/-- Asks for test cases and dry-runs each. -/
def evaluate (c : ChatClient) (code language : Text) :
    Except AnswerError (List TestCase) × ChatClient :=
  let (cases, c) := generate c code language defaultCount
  match cases with
  | .error e => (.error e, c)
  | .ok cases =>
    let (judged, c) := runAll c code language cases
    (.ok judged, c)

end TestCase

end SourceGrade
