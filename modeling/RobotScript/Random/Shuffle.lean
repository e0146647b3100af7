import RobotScript.Random.Stream

/-!
# Shuffling

A list is shuffled from its end: each item is swapped with one drawn among itself and those before
it. The indices come from a stream of random words. A word is refused if it would favour some
indices, and then the next one is drawn.
-/

namespace RobotScript.Random

/-- The largest low half with which a draw among `n` indices is accepted. -/
def acceptance (n : Nat) : Nat :=
  n * Nat.pow 2 (31 - n.log2) - 1

/-- How many words a draw may refuse. A word is refused with a chance below one half, so that this
many refusals in a row do not happen in practice. -/
def patience : Nat := 4096

/-- An index below `n`, and the stream after the words that it took. The word after the last refusal
is accepted whatever it is, where an unbounded draw would go on refusing. -/
def draw (n : Nat) : (refusals : Nat) → Stream → Nat × Stream
  | 0, stream =>
    let (word, stream) := stream.next
    (word.toNat * n / Nat.pow 2 32, stream)
  | refusals + 1, stream =>
    let (word, stream) := stream.next
    let product := word.toNat * n
    if product % Nat.pow 2 32 ≤ acceptance n then (product / Nat.pow 2 32, stream)
    else draw n refusals stream

/-- The indices drawn so far, followed by those with which the items at `last`, `last - 1`, down to
one are swapped. -/
def picksFrom (drawn : Array Nat) : (last : Nat) → Stream → Array Nat
  | 0, _ => drawn
  | last + 1, stream =>
    let (pick, stream) := draw (last + 2) patience stream
    picksFrom (drawn.push pick) last stream

/-- The indices with which the items at `last`, `last - 1`, down to one are swapped. -/
def picks (stream : Stream) (last : Nat) : List Nat :=
  (picksFrom #[] last stream).toList

/-- The items with the one at `last` swapped with the first pick, the one before it with the next,
and so on. -/
def swapDown {α : Type} : (last : Nat) → (picks : List Nat) → Array α → Array α
  | last + 1, pick :: picks, items => swapDown last picks (items.swapIfInBounds (last + 1) pick)
  | _, _, items => items

/-- The items in the order that the picks give. -/
def shuffle {α : Type} (items : List α) (picks : List Nat) : List α :=
  (swapDown (items.length - 1) picks items.toArray).toList

end RobotScript.Random
