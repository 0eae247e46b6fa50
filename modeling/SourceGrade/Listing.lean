/-!
# Listings

Lists as they are shown: cut to a length, without repetitions, and as a total.
-/

namespace SourceGrade.Listing

/-- As many items as a number says from the first on; a negative number says how many to leave out
at the end. -/
def upTo {β : Type} (n : Int) (items : List β) : List β :=
  items.take (if n < 0 then items.length - n.natAbs else n.toNat)

/-- The items without repetitions, each at its first place. -/
def distinct {β : Type} [BEq β] (items : List β) : List β :=
  items.foldl (fun seen t => if seen.contains t then seen else seen ++ [t]) []

/-- The sum of some counts. -/
def total (counts : List Nat) : Nat := counts.foldr (· + ·) 0

end SourceGrade.Listing
