import SourceGrade.Text.Basic
/-!
# UTF-8

Bytes are decoded strictly, so that the first sequence that is no character is an error, or
leniently, so that each such sequence becomes one replacement character. A sequence that is no
character is as long as it could still have begun one.
-/

namespace SourceGrade.Utf8

/-- Why bytes are no character. -/
inductive Fault where
  | start | continuation | truncated
  deriving DecidableEq, Repr

/-- What some bytes begin with: a character, or a number of bytes that are none. -/
inductive Step where
  | char (c : Char)
  | fault (length : Nat) (kind : Fault)
  deriving DecidableEq, Repr

/-- What the first byte of a character says: its own bits, the number of bytes that follow, and the
bounds of the second byte. -/
structure Lead where
  bits : Nat
  following : Nat
  low : Nat := 0x80
  high : Nat := 0xBF

/-- The lead of a byte that begins a character of several bytes. -/
def lead? (b : Nat) : Option Lead :=
  if b < 0xC2 then none
  else if b < 0xE0 then some { bits := b - 0xC0, following := 1 }
  else if b = 0xE0 then some { bits := 0, following := 2, low := 0xA0 }
  else if b = 0xED then some { bits := 0xD, following := 2, high := 0x9F }
  else if b < 0xF0 then some { bits := b - 0xE0, following := 2 }
  else if b = 0xF0 then some { bits := 0, following := 3, low := 0x90 }
  else if b < 0xF4 then some { bits := b - 0xF0, following := 3 }
  else if b = 0xF4 then some { bits := 4, following := 3, high := 0x8F }
  else none

/-- Reads the bytes after the first of a character, `length` bytes being read already. -/
def continueWith (length bits low high : Nat) : (following : Nat) → List UInt8 → Step
  | 0, _ => .char (Char.ofNat bits)
  | _ + 1, [] => .fault length .truncated
  | following + 1, b :: bs =>
    let n := b.toNat
    if low ≤ n ∧ n ≤ high then
      continueWith (length + 1) (bits * 64 + n % 64) 0x80 0xBF following bs
    else .fault length .continuation

/-- The character, or the sequence that is none, which begins with `b`. -/
def step (b : UInt8) (bs : List UInt8) : Step :=
  if b < 0x80 then .char (Char.ofNat b.toNat)
  else
    match lead? b.toNat with
    | none => .fault 1 .start
    | some l => continueWith 1 l.bits l.low l.high l.following bs

/-- The number of bytes of a step. -/
def Step.length : Step → Nat
  | char c => c.utf8Size
  | fault length _ => length

def replacement : Char := Char.ofNat 0xFFFD

/-- The text that bytes write, with replacement characters. The first `skip` bytes are read
already. -/
def lenientFrom : (skip : Nat) → List UInt8 → Text
  | _, [] => []
  | skip + 1, _ :: bs => lenientFrom skip bs
  | 0, b :: bs =>
    match step b bs with
    | .char c => c :: lenientFrom (c.utf8Size - 1) bs
    | .fault length _ => replacement :: lenientFrom (length - 1) bs

def decodeLenient (bytes : List UInt8) : Text := lenientFrom 0 bytes

/-- The first sequence that is no character. -/
structure DecodeError where
  position : Nat
  byte : UInt8
  length : Nat
  fault : Fault
  deriving DecidableEq, Repr

/-- The text that bytes write, `position` bytes being read already, of which `skip` are among these
bytes. -/
def strictFrom (position : Nat) : (skip : Nat) → List UInt8 → Except DecodeError Text
  | _, [] => .ok []
  | skip + 1, _ :: bs => strictFrom (position + 1) skip bs
  | 0, b :: bs =>
    match step b bs with
    | .char c => (strictFrom (position + 1) (c.utf8Size - 1) bs).map (c :: ·)
    | .fault length kind => .error ⟨position, b, length, kind⟩

def decode (bytes : List UInt8) : Except DecodeError Text := strictFrom 0 0 bytes

def Fault.message : Fault → Text
  | start => "invalid start byte"
  | continuation => "invalid continuation byte"
  | truncated => "unexpected end of data"

def DecodeError.message (e : DecodeError) : Text :=
  "'utf-8' codec can't decode " ++
    (if e.length = 1 then
      let digits := Nat.toDigits 16 e.byte.toNat
      ("byte 0x" : Text) ++ List.replicate (2 - digits.length) '0' ++ digits ++ " in position " ++
        Text.ofNat e.position
    else
      ("bytes in position " : Text) ++ Text.ofNat e.position ++ "-" ++
        Text.ofNat (e.position + e.length - 1)) ++
    ": " ++ e.fault.message

end SourceGrade.Utf8
