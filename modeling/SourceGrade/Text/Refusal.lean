/-!
# Refused texts

Why a text that should write values cannot be read: it is not written as it should be, a number in
it is too long, or its values are nested too deeply. The first reason in the text counts.
-/

namespace SourceGrade

/-- Values that hold other values. -/
inductive Container where
  | list | object
  deriving DecidableEq, Repr

inductive Refusal where
  | malformed
  | tooManyDigits (count : Nat)
  /-- A container is below too many others. -/
  | tooDeep (container : Container)
  deriving DecidableEq, Repr

/-- What was read, or the refusal of what is not written as it should be. -/
def Refusal.unless {β : Type} : Option β → Except Refusal β
  | some v => .ok v
  | none => .error .malformed

end SourceGrade
