/-! # TOML values

The values of a TOML document, and the rules by which its tables are put together.

* A table remembers its `Origin`, for that decides whether it may still grow: by a header of its
  own, by dotted keys, or not at all;
* `assign?` puts a value under a dotted key, `descend?` follows the path of a header;
* `openTable?` and `openArray?` begin the section of a header, `closeTable?` and `closeArray?`
  put its fields where they belong. -/

namespace Walkthrough.Toml

/-- How a table came about. -/
inductive Origin where
  /-- by a header of its own, or in braces -/
  | explicit
  /-- by the header of a table below it -/
  | implied
  /-- by a dotted key -/
  | dotted
deriving DecidableEq, Repr

/-- The values of a document. -/
inductive Value where
  | str (s : String)
  | int (n : Int)
  | float (written : String)
  | bool (b : Bool)
  | datetime (written : String)
  | array (items : List Value)
  | inline (fields : List (String × Value))
  | table (origin : Origin) (fields : List (String × Value))
  | tables (items : List Value)
deriving Repr

/-- The fields of a table, in the order in which they came. -/
abbrev Fields := List (String × Value)

namespace Fields

/-- The value under a key. -/
def get? (key : String) (fields : Fields) : Option Value := (fields.find? (·.1 == key)).map (·.2)

/-- Puts a value under a key, in the place of what is there. -/
def set (key : String) (value : Value) : Fields → Fields
  | [] => [(key, value)]
  | (k, v) :: fields => if k = key then (k, value) :: fields else (k, v) :: set key value fields

/-- Takes the value under a key away. -/
def erase (key : String) (fields : Fields) : Fields := fields.filter (·.1 != key)

/-- Puts a value under a new key. -/
def add? (key : String) (value : Value) (fields : Fields) : Option Fields :=
  match get? key fields with
  | none => some (set key value fields)
  | some _ => none

/-! ### Dotted keys -/

/-- Puts a value under a dotted key.  On the way only tables are gone through that have no header
of their own yet, and the last one has to come from a dotted key. -/
def assignBelow? (key : String) (value : Value) :
    List String → Origin → Fields → Option Fields
  | [], origin, fields => if origin = .dotted then add? key value fields else none
  | k :: ks, _, fields =>
    match get? k fields with
    | none =>
      (assignBelow? key value ks .dotted []).map fun inner => set k (.table .dotted inner) fields
    | some (.table .explicit _) => none
    | some (.table origin inner) =>
      (assignBelow? key value ks origin inner).map fun inner => set k (.table origin inner) fields
    | some (.tables items) =>
      match items.getLast? with
      | some (.table origin inner) =>
        (assignBelow? key value ks origin inner).map fun inner =>
          set k (.tables (items.dropLast ++ [.table origin inner])) fields
      | _ => none
    | some _ => none

/-- Puts a value under a key with the given path before it. -/
def assign? (path : List String) (key : String) (value : Value) (fields : Fields) :
    Option Fields :=
  match path with
  | [] => add? key value fields
  | k :: ks => assignBelow? key value (k :: ks) .explicit fields

/-! ### Headers -/

/-- Changes the table that the path of a header leads to.  Missing tables on the way are implied,
and of an array of tables the last one is meant. -/
def descend? (change : Fields → Option Fields) : List String → Fields → Option Fields
  | [], fields => change fields
  | k :: ks, fields =>
    match get? k fields with
    | none => (descend? change ks []).map fun inner => set k (.table .implied inner) fields
    | some (.table origin inner) =>
      (descend? change ks inner).map fun inner => set k (.table origin inner) fields
    | some (.tables items) =>
      match items.getLast? with
      | some (.table origin inner) =>
        (descend? change ks inner).map fun inner =>
          set k (.tables (items.dropLast ++ [.table origin inner])) fields
      | _ => none
    | some _ => none

/-- Takes the implied table under a key out, to be continued under a header of its own. -/
def openTable? (key : String) (fields : Fields) : Option Fields :=
  match get? key fields with
  | none => some fields
  | some (.table .implied _) => some (erase key fields)
  | some _ => none

/-- Puts the table of a header under its key. -/
def closeTable? (key : String) (new fields : Fields) : Option Fields :=
  add? key (.table .explicit new) fields

/-- Makes sure that there is an array of tables under a key. -/
def openArray? (key : String) (fields : Fields) : Option Fields :=
  match get? key fields with
  | none => some (set key (.tables []) fields)
  | some (.tables _) => some fields
  | some _ => none

/-- Puts the table of a header at the end of the array of tables under its key. -/
def closeArray? (key : String) (new fields : Fields) : Option Fields :=
  match get? key fields with
  | some (.tables items) => some (set key (.tables (items ++ [.table .explicit new])) fields)
  | _ => none

/-- The fields at the end of the path of a header, if they are there. -/
def follow? : List String → Fields → Option Fields
  | [], fields => some fields
  | k :: ks, fields =>
    match get? k fields with
    | some (.table _ inner) => follow? ks inner
    | some (.tables items) =>
      match items.getLast? with
      | some (.table _ inner) => follow? ks inner
      | _ => none
    | _ => none

/-- What the table that a header opens holds already. -/
def continued (path : List String) (key : String) (root : Fields) : Fields :=
  match (follow? path root).bind (get? key) with
  | some (.table .implied inner) => inner
  | _ => []

end Fields

end Walkthrough.Toml
