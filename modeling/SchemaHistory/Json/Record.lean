import SchemaHistory.Json.Basic

/-!
Records read from JSON.

A record with named fields is written as an object with those members in any order, or as an array of
exactly the fields in theirs. Members with other names are passed over, whatever their value; a field
that is written twice is an error, and so is a name that is no text. A field that may be missing is
missing only from an object.

A value whose shape decides how it is read is taken in whole first. Then every string in it must be a
text, every number must be a finite double-precision number, and brackets may nest only so deep.
-/

namespace SchemaHistory.Json

/-- The text of a string. -/
def text? : Json → Option String
  | string s => s
  | _ => none

/-- The truth value. -/
def bool? : Json → Option Bool
  | bool b => some b
  | _ => none

/-- A whole number of at most sixty-four bits. -/
def nat64? : Json → Option Nat
  | number n => n.natural?.filter (· < UInt64.size)
  | _ => none

/-- The items of an array. -/
def list? : Json → Option (List Json)
  | array items => some items
  | _ => none

/-- The values of the members with a name. -/
def valuesOf (name : String) (members : List (Option String × Json)) : List Json :=
  (members.filter fun m => m.1 == some name).map (·.2)

/-- The value of a field that an object has at most once. -/
def field? (members : List (Option String × Json)) (name : String) : Option (Option Json) :=
  match valuesOf name members with
  | [] => some none
  | [v] => some (some v)
  | _ => none

/-- The fields of a record, in the order of their names. -/
def fields? (names : List String) : Json → Option (List (Option Json))
  | array items => if items.length == names.length then some (items.map some) else none
  | object members =>
    if members.all fun m => m.1.isSome then names.mapM (field? members) else none
  | _ => none

mutual

/-- Whether a value can be taken in whole where brackets may nest `depth` deep. -/
def wellFormed (depth : Nat) : Json → Bool
  | null => true
  | bool _ => true
  | number n => n.natural?.isSome || n.fitsDouble
  | string s => s.isSome
  | array items => match depth with
    | 0 => false
    | depth + 1 => wellFormedItems depth items
  | object members => match depth with
    | 0 => false
    | depth + 1 => wellFormedMembers depth members

/-- Whether all items are well formed. -/
def wellFormedItems (depth : Nat) : List Json → Bool
  | [] => true
  | v :: vs => wellFormed depth v && wellFormedItems depth vs

/-- Whether all members are well formed. -/
def wellFormedMembers (depth : Nat) : List (Option String × Json) → Bool
  | [] => true
  | (name, v) :: rest => name.isSome && wellFormed depth v && wellFormedMembers depth rest

end

end SchemaHistory.Json
