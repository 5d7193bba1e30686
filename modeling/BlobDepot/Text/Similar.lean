set_option autoImplicit false

namespace BlobDepot.Text

structure Stretch where
  length : Nat
  left : Nat
  right : Nat
  deriving Repr, DecidableEq

def commonStart : List Char -> List Char -> Nat
  | a :: left, b :: right => if a = b then commonStart left right + 1 else 0
  | _, _ => 0

/-- The longest common stretch; of several, the first in the left word, and of these the first in
the right word. -/
def longestStretch (left right : List Char) : Stretch :=
  let places := (List.range left.length).flatMap (fun i =>
    (List.range right.length).map (fun j =>
      (⟨commonStart (left.drop i) (right.drop j), i, j⟩ : Stretch)))
  places.foldl (fun best place => if place.length > best.length then place else best) ⟨0, 0, 0⟩

def commonCharacters : Nat -> List Char -> List Char -> Nat
  | 0, _, _ => 0
  | cuts + 1, left, right =>
      let best := longestStretch left right
      if best.length = 0 then 0
      else
        commonCharacters cuts (left.take best.left) (right.take best.right) + best.length
          + commonCharacters cuts (left.drop (best.left + best.length))
              (right.drop (best.right + best.length))

def similarity (left right : String) : Nat × Nat :=
  (commonCharacters left.length left.toList right.toList, left.length + right.length)

/-- The words that are alike: of the characters of both words, three tenths or more are common
ones.  At most three words are given, the most alike ones, in alphabetical order. -/
def similarWords (word : String) (words : List String) : List String :=
  let rated := words.map (fun other => (similarity other word, other))
  let alike := rated.filter (fun entry => 3 * entry.1.2 <= 10 * entry.1.1)
  let better (first second : (Nat × Nat) × String) : Bool :=
    let one := first.1.1 * second.1.2
    let other := second.1.1 * first.1.2
    other < one || (one == other && !(first.2 < second.2))
  (((alike.mergeSort better).take 3).map Prod.snd).mergeSort (fun first second =>
    !(second < first))

end BlobDepot.Text
