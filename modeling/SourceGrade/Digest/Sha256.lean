import SourceGrade.Number.Power
import SourceGrade.Text.Basic
/-!
# SHA-256

The 256-bit digest of a list of bytes: the padded message is cut into blocks of 64 bytes, each of
which is mixed into eight words.
-/

namespace SourceGrade.Sha256

/-- The fractions of the cube roots of the first 64 primes. -/
def roundConstants : Array UInt32 := #[
  0x428a2f98, 0x71374491, 0xb5c0fbcf, 0xe9b5dba5, 0x3956c25b, 0x59f111f1, 0x923f82a4, 0xab1c5ed5,
  0xd807aa98, 0x12835b01, 0x243185be, 0x550c7dc3, 0x72be5d74, 0x80deb1fe, 0x9bdc06a7, 0xc19bf174,
  0xe49b69c1, 0xefbe4786, 0x0fc19dc6, 0x240ca1cc, 0x2de92c6f, 0x4a7484aa, 0x5cb0a9dc, 0x76f988da,
  0x983e5152, 0xa831c66d, 0xb00327c8, 0xbf597fc7, 0xc6e00bf3, 0xd5a79147, 0x06ca6351, 0x14292967,
  0x27b70a85, 0x2e1b2138, 0x4d2c6dfc, 0x53380d13, 0x650a7354, 0x766a0abb, 0x81c2c92e, 0x92722c85,
  0xa2bfe8a1, 0xa81a664b, 0xc24b8b70, 0xc76c51a3, 0xd192e819, 0xd6990624, 0xf40e3585, 0x106aa070,
  0x19a4c116, 0x1e376c08, 0x2748774c, 0x34b0bcb5, 0x391c0cb3, 0x4ed8aa4a, 0x5b9cca4f, 0x682e6ff3,
  0x748f82ee, 0x78a5636f, 0x84c87814, 0x8cc70208, 0x90befffa, 0xa4506ceb, 0xbef9a3f7, 0xc67178f2]

/-- The fractions of the square roots of the first eight primes. -/
def initialWords : List UInt32 := [
  0x6a09e667, 0xbb67ae85, 0x3c6ef372, 0xa54ff53a, 0x510e527f, 0x9b05688c, 0x1f83d9ab, 0x5be0cd19]

def rotateRight (x : UInt32) (n : UInt32) : UInt32 := (x >>> n) ||| (x <<< (32 - n))

/-- Eight bytes of a number, the highest first. -/
def lengthBytes (n : Nat) : List UInt8 :=
  (List.range 8).map fun (i : Nat) => UInt8.ofNat (n / twoTo (56 - 8 * i))

/-- A message filled up to whole blocks: a set bit, zeros, and the length in bits. -/
def padded (message : List UInt8) : List UInt8 :=
  let zeros := (119 - message.length % 64) % 64
  message ++ 0x80 :: (List.replicate zeros 0 ++ lengthBytes (8 * message.length))

/-- The words of some bytes, four bytes each. -/
def wordsOf : List UInt8 → List UInt32
  | a :: b :: c :: d :: r =>
    ((a.toUInt32 <<< 24) ||| (b.toUInt32 <<< 16) ||| (c.toUInt32 <<< 8) ||| d.toUInt32) :: wordsOf r
  | _ => []

/-- Adds words to a schedule, each from four words before it. -/
def extend : (count : Nat) → Array UInt32 → Array UInt32
  | 0, w => w
  | count + 1, w =>
    let i := w.size
    let x := w.getD (i - 15) 0
    let y := w.getD (i - 2) 0
    let s := rotateRight x 7 ^^^ rotateRight x 18 ^^^ (x >>> 3)
    let u := rotateRight y 17 ^^^ rotateRight y 19 ^^^ (y >>> 10)
    extend count (w.push (w.getD (i - 16) 0 + s + w.getD (i - 7) 0 + u))

/-- The eight words in work. -/
structure State where
  a : UInt32
  b : UInt32
  c : UInt32
  d : UInt32
  e : UInt32
  f : UInt32
  g : UInt32
  h : UInt32
  deriving DecidableEq, Repr

namespace State

def ofWords : List UInt32 → State
  | [a, b, c, d, e, f, g, h] => ⟨a, b, c, d, e, f, g, h⟩
  | _ => ⟨0, 0, 0, 0, 0, 0, 0, 0⟩

def words (s : State) : List UInt32 := [s.a, s.b, s.c, s.d, s.e, s.f, s.g, s.h]

/-- Adds the words of two states. -/
def add (s t : State) : State :=
  ⟨s.a + t.a, s.b + t.b, s.c + t.c, s.d + t.d, s.e + t.e, s.f + t.f, s.g + t.g, s.h + t.h⟩

/-- One round with a constant and a word of the schedule. -/
def round (s : State) (k w : UInt32) : State :=
  let s1 := rotateRight s.e 6 ^^^ rotateRight s.e 11 ^^^ rotateRight s.e 25
  let choice := (s.e &&& s.f) ^^^ ((s.e ^^^ 0xffffffff) &&& s.g)
  let t1 := s.h + s1 + choice + k + w
  let s0 := rotateRight s.a 2 ^^^ rotateRight s.a 13 ^^^ rotateRight s.a 22
  let majority := (s.a &&& s.b) ^^^ (s.a &&& s.c) ^^^ (s.b &&& s.c)
  ⟨t1 + (s0 + majority), s.a, s.b, s.c, s.d + t1, s.e, s.f, s.g⟩

end State

/-- Mixes a block of sixteen words into a state. -/
def compress (s : State) (block : List UInt32) : State :=
  let schedule := extend 48 block.toArray
  ((roundConstants.toList.zip schedule.toList).foldl (fun t (k, w) => t.round k w) s).add s

/-- Mixes words into a state, sixteen at a time. -/
def compressAll : (fuel : Nat) → State → List UInt32 → State
  | 0, s, _ => s
  | _ + 1, s, [] => s
  | fuel + 1, s, w :: ws =>
    compressAll fuel (compress s ((w :: ws).take 16)) ((w :: ws).drop 16)

/-- The digest of a message, as eight words. -/
def digest (message : List UInt8) : List UInt32 :=
  let words := wordsOf (padded message)
  (compressAll words.length (.ofWords initialWords) words).words

/-- The eight hexadecimal digits of a word. -/
def hexWord (w : UInt32) : Text :=
  let digits := Nat.toDigits 16 w.toNat
  List.replicate (8 - digits.length) '0' ++ digits

/-- The digest of a text in UTF-8, in hexadecimal digits. -/
def hexDigest (t : Text) : Text :=
  (digest (String.ofList t).toUTF8.toList).flatMap hexWord

end SourceGrade.Sha256
