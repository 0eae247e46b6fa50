/-!
# Sorting by halving

A list is sorted by a test that tells whether an item belongs strictly before another. The items of
the first run, rising or falling, come first; each further item is put where halving the sorted part
leads. When the test is an order, items that it does not tell apart keep their places. The result is
a permutation for any test, so that it may also be used on numbers that have no order.
-/

namespace SourceGrade.Listing

variable {β : Type} (before : β → β → Bool)

/-- The items that go on with a run after its last item, and the items after them. In a falling run
every item belongs before the last one, in a rising run none does. -/
def continuedRun (falling : Bool) : (last : β) → List β → List β × List β
  | _, [] => ([], [])
  | last, x :: xs =>
    if before x last = falling then
      (x :: (continuedRun falling x xs).1, (continuedRun falling x xs).2)
    else ([], x :: xs)

/-- The first run of a list in rising order, and the items after it. -/
def firstRun : List β → List β × List β
  | [] => ([], [])
  | [x] => ([x], [])
  | x :: y :: ys =>
    let falling := before y x
    let (more, rest) := continuedRun before falling x (y :: ys)
    (if falling then (x :: more).reverse else x :: more, rest)

/-- The place of an item among sorted ones, between two places. -/
def place (x : β) (sorted : List β) (low high : Nat) : Nat :=
  if low < high then
    let middle := (low + high) / 2
    if sorted[middle]?.any (before x) then place x sorted low middle
    else place x sorted (middle + 1) high
  else low
termination_by high - low

/-- Puts an item among sorted ones. -/
def insertPlaced (sorted : List β) (x : β) : List β :=
  let p := place before x sorted 0 sorted.length
  sorted.take p ++ x :: sorted.drop p

/-- The items in the order of a test. -/
def sorted (items : List β) : List β :=
  let (run, rest) := firstRun before items
  rest.foldl (insertPlaced before) run

theorem continuedRun_append (falling : Bool) (last : β) (xs : List β) :
    (continuedRun before falling last xs).1 ++ (continuedRun before falling last xs).2 = xs := by
  induction xs generalizing last with
  | nil => rfl
  | cons x xs ih =>
    unfold continuedRun
    split
    · simp [ih]
    · rfl

theorem firstRun_perm (items : List β) :
    ((firstRun before items).1 ++ (firstRun before items).2).Perm items := by
  match items with
  | [] => exact .refl _
  | [x] => exact .refl _
  | x :: y :: ys =>
    have h := continuedRun_append before (before y x) x (y :: ys)
    simp only [firstRun]
    split
    · exact ((List.reverse_perm _).append_right _).trans (by rw [List.cons_append, h])
    · rw [List.cons_append, h]

theorem insertPlaced_perm (sorted : List β) (x : β) :
    (insertPlaced before sorted x).Perm (x :: sorted) := by
  unfold insertPlaced
  exact List.perm_middle.trans (by rw [List.take_append_drop])

theorem foldl_insertPlaced_perm (run rest : List β) :
    (rest.foldl (insertPlaced before) run).Perm (run ++ rest) := by
  induction rest generalizing run with
  | nil => simp
  | cons x xs ih =>
    exact (ih _).trans (((insertPlaced_perm before run x).append_right xs).trans
      List.perm_middle.symm)

theorem sorted_perm (items : List β) : (sorted before items).Perm items :=
  (foldl_insertPlaced_perm before _ _).trans (firstRun_perm before items)

end SourceGrade.Listing
