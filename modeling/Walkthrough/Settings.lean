import Walkthrough.Files.Store
import Walkthrough.Report.Format
import Walkthrough.Toml.Reader
import Walkthrough.Walk.Limits
import Walkthrough.Wording

/-! # Settings

The settings come from an optional TOML document.  Each of its three sections, and each field of a
section, may be absent and then has a default; unknown keys do not matter.

* A section is a table, or an array of its fields in their order.
* `Settings.ofDocument?` decodes a document, `Store.settings` reads it from a file;
* `SettingsError` says what went wrong with the file. -/

namespace Walkthrough

/-- The settings of the service. -/
structure ServiceSettings where
  host : String := "127.0.0.1"
  port : Nat := 3000
  defaultSource : Option String := none
deriving DecidableEq, Repr

/-- All settings. -/
structure Settings where
  limits : Limits := {}
  service : ServiceSettings := {}
  format : Format := .json
deriving DecidableEq, Repr

namespace Toml.Value

/-- The fields of a section with the given field names, by name or in order.  A date counts as a
table without any of them. -/
def section? (names : List String) : Value → Option Fields
  | table _ fields => some fields
  | inline fields => some fields
  | array items => some (names.zip items)
  | tables items => some (names.zip items)
  | datetime _ => some []
  | _ => none

/-- A natural number. -/
def nat? : Value → Option Nat
  | int n => if 0 ≤ n then some n.toNat else none
  | _ => none

/-- A string. -/
def str? : Value → Option String
  | str s => some s
  | _ => none

/-- Does the value hold nothing? -/
def isVoid : Value → Bool
  | array items => items.isEmpty
  | tables items => items.isEmpty
  | table _ fields => fields.isEmpty
  | inline fields => fields.isEmpty
  | _ => false

/-- The name of a format: a string, or the only key of a table with nothing under it. -/
def format? : Value → Option Format
  | str s => Format.ofName? s
  | table _ [(name, v)] => if v.isVoid then Format.ofName? name else none
  | inline [(name, v)] => if v.isVoid then Format.ofName? name else none
  | _ => none

end Toml.Value

namespace Settings

open Toml

/-- Decodes a field, or takes the default if it is absent. -/
def fieldOr {α : Type} (fields : Fields) (key : String) (default : α)
    (decode : Value → Option α) : Option α :=
  match Fields.get? key fields with
  | none => some default
  | some v => decode v

/-- Decodes the section with the limits. -/
def limitsOf? (v : Value) : Option Limits := do
  let fields ← v.section? ["max_depth", "max_nodes"]
  let maxDepth ← fieldOr fields "max_depth" none fun v => v.nat?.map some
  let maxNodes ← fieldOr fields "max_nodes" none fun v => v.nat?.map some
  return ⟨maxDepth, maxNodes⟩

/-- A port is a number of 16 bits. -/
def port? (v : Value) : Option Nat := v.nat?.filter (· ≤ 65535)

/-- Decodes the section of the service. -/
def serviceOf? (v : Value) : Option ServiceSettings := do
  let fields ← v.section? ["host", "port", "default_source"]
  let host ← fieldOr fields "host" "127.0.0.1" Value.str?
  let port ← fieldOr fields "port" 3000 port?
  let defaultSource ← fieldOr fields "default_source" none fun v => v.str?.map some
  return ⟨host, port, defaultSource⟩

/-- Decodes the section with the format. -/
def formatOf? (v : Value) : Option Format := do
  let fields ← v.section? ["format"]
  fieldOr fields "format" .json Value.format?

/-- Decodes a document. -/
def ofDocument? (text : String) : Option Settings := do
  let root ← document? text
  let limits ← fieldOr root "analyzer" {} limitsOf?
  let service ← fieldOr root "server" {} serviceOf?
  let format ← fieldOr root "output" .json formatOf?
  return ⟨limits, service, format⟩

end Settings

/-- What went wrong with the file of the settings. -/
inductive SettingsError where
  | unreadable (path : String) (cause : FileError)
  | invalid (path cause : String)
deriving DecidableEq, Repr

/-- The wording, from the outermost context to the cause. -/
def SettingsError.chain : SettingsError → List String
  | unreadable path cause => ["Cannot read config file " ++ path, cause.message]
  | invalid path cause => ["Invalid config file " ++ path, cause]

/-- The settings in the file at a path, or the defaults if there is no path. -/
def Store.settings (s : Store) (wording : Wording) :
    Option String → Except SettingsError Settings
  | none => .ok {}
  | some path =>
    match s.readText? path with
    | .error cause => .error (.unreadable path cause)
    | .ok text =>
      match Settings.ofDocument? text with
      | none => .error (.invalid path (wording.settings text))
      | some settings => .ok settings

end Walkthrough
