import Walkthrough.Decimal.Binary64

/-! # JSON values

A JSON value keeps the fields of an object in a given order; an integer is exact, and any other
number is a binary floating-point number.

* `Json.sorted` puts the fields of every object in the order of their keys; of two fields with one
  key the last remains. -/

namespace Walkthrough

/-- A JSON value. -/
inductive Json where
  | null
  | bool (b : Bool)
  | int (n : Int)
  | real (x : Decimal.Binary64)
  | str (s : String)
  | arr (items : List Json)
  | obj (fields : List (String × Json))
deriving Repr

namespace Json

/-- An optional text. -/
def optStr : Option String → Json
  | some s => str s
  | none => null

/-- A natural number. -/
def nat (n : Nat) : Json := int n

/-- Puts a field in its place among sorted ones, unless its key is there already. -/
def insertField (key : String) (value : Json) : List (String × Json) → List (String × Json)
  | [] => [(key, value)]
  | (k, v) :: fields =>
    if key < k then (key, value) :: (k, v) :: fields
    else if key = k then (k, v) :: fields
    else (k, v) :: insertField key value fields

mutual

/-- The value with the fields of every object in the order of their keys. -/
def sorted : Json → Json
  | arr items => arr (sortedItems items)
  | obj fields => obj (sortedFields fields)
  | null => null
  | bool b => bool b
  | int n => int n
  | real x => real x
  | str s => str s

/-- Sorts the items of an array, each in itself. -/
def sortedItems : List Json → List Json
  | [] => []
  | x :: xs => x.sorted :: sortedItems xs

/-- Sorts the fields of an object; of two with one key the last remains. -/
def sortedFields : List (String × Json) → List (String × Json)
  | [] => []
  | (k, v) :: fields => insertField k v.sorted (sortedFields fields)

end

/-- The value of the first field with the key. -/
def field? : Json → String → Option Json
  | obj fields, key => (fields.find? (·.1 == key)).map (·.2)
  | _, _ => none

end Json

end Walkthrough
