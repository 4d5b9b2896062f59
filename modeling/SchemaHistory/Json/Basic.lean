/-!
JSON values.

A value keeps what its text says and no more: the members of an object in their order and with
repetitions, and a number digit by digit. A string can also name half of a surrogate pair by an escape;
such a string is no text, and is kept as `none`.
-/

namespace SchemaHistory

/-- A number as it is written. -/
structure Numeral where
  negative : Bool
  whole : Nat
  /-- The digits behind the point, if there is a point. -/
  fraction : Option (List Nat)
  exponent : Option Int
  deriving Repr, DecidableEq, Inhabited

namespace Numeral

/-- The numeral of a natural number. -/
def ofNat (n : Nat) : Numeral := ⟨false, n, none, none⟩

/-- The number that is written with digits alone. -/
def natural? (n : Numeral) : Option Nat :=
  if n.negative || n.fraction.isSome || n.exponent.isSome then none else some n.whole

/-- The digits of the number as one whole number, and the power of ten that it is to be taken with. -/
def scaled (n : Numeral) : Nat × Int :=
  let fraction := n.fraction.getD []
  (fraction.foldl (fun m d => m * 10 + d) n.whole, n.exponent.getD 0 - fraction.length)

/-- The least magnitude that rounds to no finite double-precision number: halfway between the largest
such number and the next power of two. -/
def overflowBound : Nat := Nat.pow 2 1024 - Nat.pow 2 970

/-- Whether the number rounds to a finite double-precision number. Powers of ten that settle the
question by themselves are not computed. -/
def fitsDouble (n : Numeral) : Bool :=
  let (digits, power) := n.scaled
  let length := (Nat.toDigits 10 digits).length
  if digits == 0 || power + length < 300 then true
  else if power + length > 310 then false
  else if power < 0 then digits < overflowBound * Nat.pow 10 (-power).toNat
  else digits * Nat.pow 10 power.toNat < overflowBound

end Numeral

/-- A JSON value. -/
inductive Json where
  | null
  | bool (b : Bool)
  | number (n : Numeral)
  | string (s : Option String)
  | array (items : List Json)
  | object (members : List (Option String × Json))
  deriving Repr, Inhabited

namespace Json

/-- The string value of a text. -/
def text (s : String) : Json := string (some s)

/-- The number value of a natural number. -/
def nat (n : Nat) : Json := number (.ofNat n)

/-- An object from named values. -/
def record (members : List (String × Json)) : Json :=
  object (members.map fun (name, value) => (some name, value))

end Json

end SchemaHistory
