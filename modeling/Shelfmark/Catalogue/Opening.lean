import Shelfmark.Catalogue.Basic

/-!
# Opening a catalogue

A new catalogue notes its version and its identity among the options. An old one
is refused when its version is newer than what is understood, or no number. After
that the group types are loaded, and the well-known ones are added where they are
missing.

A catalogue that is closed with open savepoints loses what was done since the
outermost of them.
-/

namespace Shelfmark

open Shelfmark.Text

/-- The version of catalogues that can be read and written. -/
def currentVersion : Nat := 1

/-- The number that a version text spells, if it fits 32 bits. -/
def readVersion? (s : String) : Option Nat :=
  (readUnsigned? (trim s).toList).bind fun n => if n < UInt32.size then some n else none

/-- The tables after the version is checked; a version and an identity are noted
where there is none. -/
def Tables.checkVersion (t : Tables) (fresh : String) : Except Fault Tables :=
  match t.option? "version" with
  | none => .ok ((t.setOption "version" (Nat.repr currentVersion)).setOption "uuid" fresh)
  | some text =>
      match readVersion? text with
      | none => .error (.storage (.unreadableVersion text))
      | some found =>
          if currentVersion < found then .error (.newerVersion found currentVersion) else .ok t

namespace Catalogue

/-- The group types that the tables hold. -/
def storedTypes (t : Tables) : Except Fault (List GroupType) :=
  t.groupTypes.mapM (readRow GroupType {})

/-- The catalogue with the group types in memory taken from the tables. -/
def reload (c : Catalogue) : Except Fault Catalogue :=
  (storedTypes c.tables).map fun types => { c with types := .ofTypes types }

/-- The catalogue with group types added that it does not have. -/
def seed (c : Catalogue) : List GroupType → Except Fault Catalogue
  | [] => .ok c
  | t :: rest =>
      if (c.types.find? t.uuid).isSome then seed c rest
      else
        match c.insertRecord t with
        | .error fault => .error fault
        | .ok (_, added) => seed { added with types := added.types.keep t } rest

/-- Opens a catalogue on given tables. -/
def openOn (t : Tables) (created : Bool) (fresh : String) : Except Fault Catalogue :=
  match t.checkVersion fresh with
  | .error fault => .error fault
  | .ok tables =>
      let c : Catalogue :=
        { tables := tables, identity := (tables.option? "uuid").getD "", created := created }
      match c.reload with
      | .error fault => .error fault
      | .ok loaded => loaded.seed wellKnownTypes

/-- A new catalogue. -/
def create (fresh : String) : Except Fault Catalogue := openOn {} true fresh

/-- The tables that are left when the catalogue is closed. -/
def closed (c : Catalogue) : Tables := c.savepoints.getLastD c.tables

/-- Closes the catalogue and opens it again. -/
def reopen (c : Catalogue) (fresh : String) : Except Fault Catalogue :=
  openOn c.closed false fresh

end Catalogue

end Shelfmark
