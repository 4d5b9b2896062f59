import SchemaHistory.Pattern.Basic

/-!
Where a pattern matches.

The places of a text are the gaps between its characters, counted from zero at the start. A set of places
is a number whose bit `i` says whether place `i` is in it. Every pattern takes a set of places to the set
of places that it reaches from there: a set of characters moves every place in front of such a character
one further, an assertion keeps the places where it holds, and a repetition goes on until nothing new is
reached. A pattern is found in a text when it reaches some place from some place.
-/

namespace SchemaHistory

namespace Pattern

/-- The number whose bit `i` is the `i`-th of the list. -/
def bits (l : List Bool) : Nat := l.foldr (fun b n => 2 * n + b.toNat) 0

/-- The places in front of a character of the set. -/
def placesBefore (s : CharSet) (text : List Char) : Nat := bits (text.map s.contains)

/-- The characters before and after every place, with nothing at the two ends. -/
def neighbours (text : List Char) : List (Option Char × Option Char) :=
  (none :: text.map some).zip (text.map some ++ [none])

/-- Whether there is a character and it lies in the set. -/
def isIn (s : CharSet) : Option Char → Bool
  | some c => s.contains c
  | none => false

/-- Whether an assertion holds between two characters. -/
def holds (before after : Option Char) : Assertion → Bool
  | .textStart => before.isNone
  | .textEnd => after.isNone
  | .lineStart => before.isNone || before == some '\n'
  | .lineEnd => after.isNone || after == some '\n'
  | .anyLineStart =>
    before.isNone || before == some '\n' || (before == some '\r' && after != some '\n')
  | .anyLineEnd =>
    after.isNone || after == some '\r' || (after == some '\n' && before != some '\r')
  | .wordBoundary word => isIn word before != isIn word after
  | .noWordBoundary word => isIn word before == isIn word after
  | .wordStart word => !isIn word before && isIn word after
  | .wordEnd word => isIn word before && !isIn word after
  | .noWordBefore word => !isIn word before
  | .noWordAfter word => !isIn word after

/-- The places where an assertion holds. -/
def placesOf (a : Assertion) (text : List Char) : Nat :=
  bits ((neighbours text).map fun (before, after) => holds before after a)

/-- Takes a step a number of times. A step that changes nothing is not taken again. -/
def iterate (step : Nat → Nat) : Nat → Nat → Nat
  | 0, places => places
  | n + 1, places =>
    let next := step places
    if next == places then places else iterate step n next

/-- Adds the places that a step reaches, up to a number of times, or until nothing is added. -/
def gather (step : Nat → Nat) : Nat → Nat → Nat
  | 0, places => places
  | n + 1, places =>
    let next := places ||| step places
    if next == places then places else gather step n next

/-- The places that a pattern reaches from a set of places. No more than one round for every place of
the text adds anything. -/
def reach (text : List Char) : Pattern → Nat → Nat
  | empty, places => places
  | set s, places => (places &&& placesBefore s text) <<< 1
  | assertion a, places => places &&& placesOf a text
  | seq p q, places => reach text q (reach text p places)
  | either p q, places => reach text p places ||| reach text q places
  | captured p, places => reach text p places
  | repeated p least most, places =>
    let rounds := match most with
      | some most => most - least
      | none => text.length + 1
    gather (reach text p) rounds (iterate (reach text p) least places)

/-- Whether a pattern is found anywhere in a text. -/
def isFoundIn (p : Pattern) (text : List Char) : Bool :=
  reach text p ((1 <<< (text.length + 1)) - 1) != 0

end Pattern

end SchemaHistory
