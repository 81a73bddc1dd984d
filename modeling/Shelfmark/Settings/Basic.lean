import Shelfmark.Fault
import Shelfmark.Settings.Layer
import Shelfmark.Template.Value

/-!
# Settings

Where the catalogue is kept, how labels are evaluated, and what is logged. There
are defaults for all of it; a settings file is laid over them, and the environment
over the file.

Values are read with some tolerance: switches may be words or numbers, and texts
may be numbers or truth values. A section is an object, or a list of the values of
its fields in order. Unknown fields are ignored.
-/

namespace Shelfmark

open Shelfmark.Text
open Shelfmark.Settings

/-- The settings of the program. -/
structure Settings where
  path : Option String := none
  strict : Bool := false
  listSeparator : String := Template.defaultListSeparator
  dateFormat : String := Template.defaultDateFormat
  logFilter : String := "info"
  deriving DecidableEq, Repr

/-- Where a catalogue is kept. -/
inductive StoreMode where
  | inMemory
  | file (path : String)
  deriving DecidableEq, Repr

namespace Settings

/-- Where the catalogue is kept: in memory when no path is set, or a blank one. -/
def mode (s : Settings) : StoreMode :=
  match s.path with
  | none => .inMemory
  | some path => if (trim path).isEmpty then .inMemory else .file path

/-- The truth value that data stand for. -/
def readSwitch : Json → Except Fault Bool
  | .bool b => .ok b
  | .integer i => .ok (i != 0)
  | .number (.finite _ m _) => .ok (m != 0)
  | .number _ => .ok true
  | .text s =>
      let word := lowercase s
      if ["1", "true", "on", "yes"].contains word then .ok true
      else if ["0", "false", "off", "no"].contains word then .ok false
      else .error .settings
  | _ => .error .settings

/-- The text that data stand for. A number beyond signed words is shown as a double. -/
def readText : Json → Except Fault String
  | .text s => .ok s
  | .bool b => .ok (if b then "true" else "false")
  | .integer i =>
      if fitsInt64 i then .ok (writeInt i) else .ok (String.ofList (Binary64.ofInt i).positional)
  | .number x => .ok (String.ofList x.positional)
  | _ => .error .settings

/-- A text that may be null. -/
def readOptionalText : Json → Except Fault (Option String)
  | .null => .ok none
  | data => (readText data).map some

/-- The data of a section's field: by its name in an object, or by its position in a
list; `none` when it is absent. -/
def fieldOf? (data : Json) (position : Nat) (name : String) : Option Json :=
  match data with
  | .object fields => fields.lookup name
  | .list items => items[position]?
  | _ => none

/-- A field of a section, or its default. -/
def readField {α : Type} (data : Json) (position : Nat) (name : String) (default : α)
    (read : Json → Except Fault α) : Except Fault α :=
  match fieldOf? data position name with
  | some value => read value
  | none => .ok default

/-- A section of the tree; an empty one when it is absent. -/
def readSection (tree : Json) (position : Nat) (name : String) : Except Fault Json :=
  match fieldOf? tree position name with
  | none => .ok (.object [])
  | some (.object fields) => .ok (.object fields)
  | some (.list items) => .ok (.list items)
  | some _ => .error .settings

/-- The settings that a tree of data holds. -/
def ofTree (tree : Json) : Except Fault Settings := do
  let database ← readSection tree 0 "database"
  let path ← readField database 0 "path" none readOptionalText
  let template ← readSection tree 1 "template"
  let strict ← readField template 0 "strict" false readSwitch
  let separator ← readField template 1 "list_separator" Template.defaultListSeparator readText
  let dateFormat ← readField template 2 "date_format" Template.defaultDateFormat readText
  let log ← readSection tree 2 "log"
  let logFilter ← readField log 0 "filter" "info" readText
  return ⟨path, strict, separator, dateFormat, logFilter⟩

/-- The entries of a settings file, whose text must be a JSON object. -/
def readFile (content : String) : Except Fault (List (String × Json)) :=
  match Json.read? content with
  | some (.object fields) => .ok fields
  | _ => .error .settings

/-- The settings from the text of a file, if there is one, and from the environment. -/
def load (file : Option String) (environment : List (String × String)) : Except Fault Settings := do
  let entries ←
    match file with
    | none => .ok []
    | some content => readFile content
  let tree := overlayAll (.object []) entries
  ofTree (overlayAll tree (environment.filterMap variableEntry?))

end Settings

end Shelfmark
