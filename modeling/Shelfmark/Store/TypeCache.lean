import Shelfmark.Record.Entity

/-!
# Group types in memory

Group types are few and are read with every group, so all of them are kept in
memory, under their identifier and under their name in lower case. A name leads to
one identifier and an identifier has one name: whoever comes later takes the name.
-/

namespace Shelfmark

open Shelfmark.Text

/-- The kept group types, one for each identifier, and the identifiers by name. -/
structure TypeCache where
  kept : List GroupType := []
  names : List (String × String) := []
  deriving DecidableEq, Repr

namespace TypeCache

/-- The kept type with an identifier. -/
def find? (cache : TypeCache) (uuid : String) : Option GroupType :=
  cache.kept.find? fun t => t.uuid = uuid

/-- The kept type whose name a text is, without regard to case and to blanks around
the text. -/
def findNamed? (cache : TypeCache) (name : String) : Option GroupType :=
  (cache.names.lookup (normalize name)).bind cache.find?

/-- The types with one put in the place of that with its identifier, or at the end. -/
def replaceType (t : GroupType) : List GroupType → List GroupType
  | [] => [t]
  | k :: rest => if k.uuid = t.uuid then t :: rest else k :: replaceType t rest

/-- The cache with a type kept. -/
def keep (cache : TypeCache) (t : GroupType) : TypeCache :=
  let name := lowercase t.name
  { kept := replaceType t cache.kept
    names := (name, t.uuid) :: cache.names.filter fun p => p.1 != name && p.2 != t.uuid }

/-- The cache without the type of an identifier. -/
def forget (cache : TypeCache) (uuid : String) : TypeCache :=
  { kept := cache.kept.filter fun t => t.uuid != uuid
    names := cache.names.filter fun p => p.2 != uuid }

/-- The kept types in the order of their names in lower case. -/
def all (cache : TypeCache) : List GroupType :=
  cache.kept.mergeSort fun a b => !decide (lowercase b.name < lowercase a.name)

/-- How many types are kept. -/
def size (cache : TypeCache) : Nat := cache.kept.length

/-- The cache of given types. -/
def ofTypes (types : List GroupType) : TypeCache := types.foldl keep {}

end TypeCache

end Shelfmark
