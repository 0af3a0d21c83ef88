/-!
How alike two words are. Letters match that are equal and not far apart; words are alike if many of
their letters match, and match in the same order.
-/

namespace Bundler.CommandLine

/-- The places of the letters of `b` that those of `a` match, in the order of `a`. Each letter takes
the first free one no farther than `reach` from its own place. -/
def matchedPlaces (reach : Nat) (b : List Char) : Nat → List Char → List Nat → List Nat
  | _, [], _ => []
  | place, c :: rest, taken =>
    let near (other : Char × Nat) : Bool :=
      place ≤ other.2 + reach && other.2 ≤ place + reach && other.1 = c && !taken.contains other.2
    match b.zipIdx.find? near with
    | some (_, found) => found :: matchedPlaces reach b (place + 1) rest (found :: taken)
    | none => matchedPlaces reach b (place + 1) rest taken

/-- The likeness of two words as a numerator and a denominator, from zero for nothing in common to one
for equal words. -/
def likeness (a b : String) : Nat × Nat :=
  let (xs, ys) := (a.toList, b.toList)
  if xs.isEmpty && ys.isEmpty then (1, 1)
  else
    let reach := max xs.length ys.length / 2 - 1
    let places := matchedPlaces reach ys 0 xs []
    let matched := places.length
    if matched = 0 then (0, 1)
    else
      let inOrder := places.mergeSort (· ≤ ·)
      let swapped := ((places.zip inOrder).countP fun (p, q) => ys[p]? ≠ ys[q]?) / 2
      (matched * matched * ys.length + matched * matched * xs.length
          + (matched - swapped) * xs.length * ys.length,
        3 * matched * xs.length * ys.length)

/-- Whether one ratio is above another. -/
def isAbove (a b : Nat × Nat) : Bool := b.1 * a.2 < a.1 * b.2

/-- The word that is most alike a given one, if any is alike enough. Of equals the last is taken. -/
def mostAlike? (word : String) (candidates : List String) : Option String :=
  let scored := (candidates.map fun c => (c, likeness word c)).filter fun (_, l) => isAbove l (7, 10)
  (scored.foldl (fun best next =>
    match best with
    | some (_, l) => if isAbove l next.2 then best else some next
    | none => some next) none).map (·.1)

end Bundler.CommandLine
