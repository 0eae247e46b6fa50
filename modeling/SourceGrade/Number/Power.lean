/-!
# Powers of two and ten

The powers of the two bases in which numbers are stored and written. An exponent below zero counts
as zero, so that a scale and its inverse are a pair of powers, one of which is one.
-/

namespace SourceGrade

def twoTo (k : Int) : Nat := Nat.pow 2 k.toNat

def tenTo (k : Int) : Nat := Nat.pow 10 k.toNat

theorem twoTo_pos (k : Int) : 0 < twoTo k := Nat.pow_pos (by decide)

theorem tenTo_pos (k : Int) : 0 < tenTo k := Nat.pow_pos (by decide)

end SourceGrade
