import SourceGrade.Cache.Normalization
/-!
# Calls that share a memory

Several callers may ask one memory at the same time. A call looks its text up, computes the normal
form when none is known, and adds it unless another call was faster. The memory is locked while it is
read and while it is written, but not during the computation: the steps of the calls come in any
order, and the memory may be cleared between them. A caller that asks for several texts one after
another makes several calls.
-/

namespace SourceGrade

/-- How far a call has come. -/
inductive CallStage where
  | asking
  /-- The text was not known. -/
  | missing
  | computed (value : Text)
  | answered (value : Text)
  deriving DecidableEq, Repr

/-- A call that asks a memory for the normal form of a text. -/
structure MemoryCall where
  key : Text
  stage : CallStage := .asking
  deriving DecidableEq, Repr

namespace MemoryCall

/-- The answer of a call that has ended. -/
def answer? (m : MemoryCall) : Option Text :=
  match m.stage with
  | .answered value => some value
  | _ => none

/-- The next step of a call, and the memory after it. A call that has ended takes no more steps. -/
def advance (compute : Text → Text) (m : MemoryCall) (c : NormalizationCache) :
    MemoryCall × NormalizationCache :=
  match m.stage with
  | .asking =>
    match c.find? m.key with
    | some value => ({ m with stage := .answered value }, c)
    | none => ({ m with stage := .missing }, c)
  | .missing => ({ m with stage := .computed (compute m.key) }, c)
  | .computed value => ({ m with stage := .answered value }, c.insertNew m.key value)
  | .answered _ => (m, c)

/-- The steps after which a call has ended at the latest. -/
def maxSteps : Nat := 3

end MemoryCall

/-- A memory and the calls that share it. -/
structure Sharing where
  memory : NormalizationCache
  calls : List MemoryCall
  deriving DecidableEq, Repr

namespace Sharing

/-- What happens next: a step of a call, or a clearing of the memory. -/
inductive Move where
  | call (index : Nat)
  | clear
  deriving DecidableEq, Repr

/-- An empty memory, and a call for each text. -/
def ofKeys (keys : List Text) : Sharing := ⟨.empty, keys.map fun key => { key }⟩

def step (compute : Text → Text) (s : Sharing) : Move → Sharing
  | .clear => { s with memory := .empty }
  | .call i =>
    match s.calls[i]? with
    | none => s
    | some m =>
      let (m, memory) := m.advance compute s.memory
      ⟨memory, s.calls.set i m⟩

/-- The state after some moves. -/
def run (compute : Text → Text) (s : Sharing) (moves : List Move) : Sharing :=
  moves.foldl (step compute) s

/-- The answer of a call, when it has ended. -/
def answer? (s : Sharing) (i : Nat) : Option Text := s.calls[i]?.bind MemoryCall.answer?

theorem step_call (compute : Text → Text) {s : Sharing} {i : Nat} {m : MemoryCall}
    (h : s.calls[i]? = some m) :
    s.step compute (.call i) =
      ⟨(m.advance compute s.memory).2, s.calls.set i (m.advance compute s.memory).1⟩ := by
  rw [step, h]

theorem run_uninterrupted (compute : Text → Text) {s : Sharing} {i : Nat} {key : Text}
    (h : s.calls[i]? = some { key }) :
    s.run compute (List.replicate MemoryCall.maxSteps (.call i)) =
      ⟨(s.memory.getOrCompute compute key).2,
        s.calls.set i { key, stage := .answered (s.memory.getOrCompute compute key).1 }⟩ := by
  have hi : i < s.calls.length := (List.getElem?_eq_some_iff.mp h).1
  have hset (m : MemoryCall) : (s.calls.set i m)[i]? = some m := List.getElem?_set_self hi
  change ((s.step compute (.call i)).step compute (.call i)).step compute (.call i) = _
  have hnext (c : NormalizationCache) (m : MemoryCall) :
      step compute ⟨c, s.calls.set i m⟩ (.call i) =
        ⟨(m.advance compute c).2, s.calls.set i (m.advance compute c).1⟩ := by
    rw [step_call compute (hset m), List.set_set]
  rw [step_call compute h, hnext, hnext]
  cases hfind : s.memory.find? key <;>
    simp [MemoryCall.advance, NormalizationCache.getOrCompute, hfind]

end Sharing

end SourceGrade
