import SourceGrade.Text.Basic
/-!
# A memory of normalized texts

Texts are normalized once and looked up afterwards.
-/

namespace SourceGrade

/-- The texts that are normalized already, each with its normal form. -/
structure NormalizationCache where
  entries : List (Text × Text)
  deriving DecidableEq, Repr

namespace NormalizationCache

def empty : NormalizationCache := ⟨[]⟩

def size (c : NormalizationCache) : Nat := c.entries.length

def find? (c : NormalizationCache) (key : Text) : Option Text := c.entries.lookup key

/-- Adds an entry unless the key has one. -/
def insertNew (c : NormalizationCache) (key value : Text) : NormalizationCache :=
  if (c.find? key).isSome then c else ⟨(key, value) :: c.entries⟩

/-- The normal form of a text, computed when it is not known, and the memory after that. -/
def getOrCompute (c : NormalizationCache) (compute : Text → Text) (key : Text) :
    Text × NormalizationCache :=
  match c.find? key with
  | some value => (value, c)
  | none => (compute key, c.insertNew key (compute key))

end NormalizationCache

end SourceGrade
