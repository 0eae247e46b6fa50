import SourceGrade.Json.Basic
/-!
# Talking to a language model

A client answers one call after the other and keeps a record of the calls. A call can fail on the
way, bring no choice of answers, or bring an answer that holds nothing.
-/

namespace SourceGrade

structure ChatMessage where
  role : Text
  content : CodePoints
  deriving DecidableEq, Repr

/-- What is sent in one call. -/
structure ChatCall where
  model : Text
  temperature : Float
  messages : List ChatMessage

/-- What comes back from one call. -/
inductive ChatReply where
  | content (text? : Option Text)
  | failure (reason : Text)
  | noChoices
  deriving DecidableEq, Repr

/-- A client for a language model, with the replies that it will get and the calls so far. Without
access no call is made. -/
structure ChatClient where
  hasAccess : Bool
  model : Text
  replies : List ChatReply
  calls : List ChatCall := []

/-- Why there is no answer. -/
inductive ChatError where
  | noAccess
  | failed (reason : Text)
  | noChoices
  | emptyAnswer
  deriving DecidableEq, Repr

namespace ChatError

/-- The step that failed. -/
def operation : ChatError → Text
  | noAccess => "create_client"
  | _ => "chat"

def reason : ChatError → Text
  | noAccess => "no access"
  | failed reason => reason
  | noChoices => "list index out of range"
  | emptyAnswer => "empty response"

def message (e : ChatError) : Text :=
  "Collaborator call " ++ e.operation ++ " failed (operation=" ++ e.operation ++ ", reason=" ++
    e.reason ++ ")"

end ChatError

/-- The answer in a reply, without the blanks around it. -/
def ChatReply.answer : ChatReply → Except ChatError Text
  | content none => .error .emptyAnswer
  | content (some t) => if Text.allBlank t then .error .emptyAnswer else .ok (Text.strip t)
  | failure reason => .error (.failed reason)
  | noChoices => .error .noChoices

namespace ChatClient

/-- A client that cannot reach any model. -/
def unreachable : ChatClient := ⟨false, [], [], []⟩

/-- The next reply and the replies after it. When all are used up, calls fail. -/
def nextReply : List ChatReply → ChatReply × List ChatReply
  | [] => (.failure "no reply left", [])
  | r :: rs => (r, rs)

/-- Makes a call. -/
def chat (c : ChatClient) (temperature : Float) (messages : List ChatMessage) :
    Except ChatError Text × ChatClient :=
  if c.hasAccess then
    let (reply, replies) := nextReply c.replies
    (reply.answer,
      { c with replies := replies, calls := c.calls ++ [⟨c.model, temperature, messages⟩] })
  else (.error .noAccess, c)

/-- The temperature of calls that ask for a text. -/
def writingTemperature : Float := 0.2

/-- The temperature of calls that ask for a computation. -/
def exactTemperature : Float := 0

/-- The messages of a task: instructions, and what they apply to. -/
def task (system : Text) (user : CodePoints) : List ChatMessage :=
  [⟨"system", system⟩, ⟨"user", user⟩]

end ChatClient

end SourceGrade
