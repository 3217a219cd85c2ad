import Walkthrough.Json.Reader

/-! # Requests

A request is a JSON text on one line: a command, and parameters that may be absent or `null`.  It
is an object, in which fields with other names do not matter, or an array of the command and the
parameters.

* `Request.read?` reads a request; a field of the two that stands twice makes it invalid, and other
  fields are only held to the form of JSON;
* `Request.nesting` is the number of levels of arrays and objects that a request may have. -/

namespace Walkthrough

/-- A request. -/
structure Request where
  command : String
  params : Option Json

namespace Request

open Json

/-- The number of levels of arrays and objects in a request, its own among them. -/
def nesting : Nat := 127

/-- The fields of a request that have been read. -/
structure Found where
  command : Option String := none
  params : Option Json := none

/-- Reads the parameters. -/
def paramsAt (cs : List Char) : Option (Json × List Char) := take? (nesting - 1) cs

/-- Reads the command. -/
def commandAt (cs : List Char) : Option (String × List Char) :=
  match dropBlanks cs with
  | '"' :: rest => stringAt .keep rest
  | _ => none

/-- Reads the value of a field. -/
def fieldAt (found : Found) (key : String) (cs : List Char) : Option (Found × List Char) :=
  if key = "command" then
    match found.command with
    | some _ => none
    | none => (commandAt cs).map fun r => ({ found with command := some r.1 }, r.2)
  else if key = "params" then
    match found.params with
    | some _ => none
    | none => (paramsAt cs).map fun r => ({ found with params := some r.1 }, r.2)
  else (skip? cs).map fun rest => (found, rest)

/-- Reads the fields of an object up to its closing brace. -/
def fieldsAt : Nat → Found → List Char → Option (Found × List Char)
  | 0, _, _ => none
  | fuel + 1, found, cs =>
    match keyAt .keep cs with
    | none => none
    | some (key, rest) =>
      match fieldAt found key rest with
      | none => none
      | some (found, rest) =>
        match dropBlanks rest with
        | ',' :: rest => fieldsAt fuel found rest
        | '\x7d' :: rest => some (found, rest)
        | _ => none

/-- Parameters that are `null` are absent. -/
def present : Json → Option Json
  | .null => none
  | j => some j

/-- The request of the fields, if there is a command among them. -/
def Found.request? (found : Found) : Option Request :=
  found.command.map fun command => ⟨command, found.params.bind present⟩

/-- Reads a request in the form of an object, after the opening brace. -/
def objectAt (cs : List Char) : Option (Request × List Char) := do
  let (found, rest) ← fieldsAt (steps cs) {} cs
  let request ← found.request?
  return (request, rest)

/-- Reads a request in the form of an array, after the opening bracket. -/
def arrayAt (cs : List Char) : Option (Request × List Char) := do
  let (command, rest) ← commandAt cs
  match dropBlanks rest with
  | ',' :: rest =>
    let (params, rest) ← paramsAt rest
    match dropBlanks rest with
    | ']' :: rest => some (⟨command, present params⟩, rest)
    | _ => none
  | _ => none

/-- Reads a request from a text with nothing else in it. -/
def read? (cs : List Char) : Option Request := do
  let (request, rest) ←
    match dropBlanks cs with
    | '\x7b' :: rest => objectAt rest
    | '[' :: rest => arrayAt rest
    | _ => none
  if (dropBlanks rest).isEmpty then some request else none

end Request

end Walkthrough
