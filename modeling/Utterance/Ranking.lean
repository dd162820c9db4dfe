/-!
Putting things in order, the largest key first.
-/

namespace Utterance.Ranking

/-- `x` put in front of the first entry whose key is no larger. -/
def insert {α : Type} (key : α → Int) (x : α) : List α → List α
  | [] => [x]
  | y :: ys => if key y ≤ key x then x :: y :: ys else y :: insert key x ys

/-- The entries by falling keys; entries of one key stay in their order. -/
def descending {α : Type} (key : α → Int) : List α → List α
  | [] => []
  | x :: xs => insert key x (descending key xs)

end Utterance.Ranking
