import Shelfmark.Json
import Shelfmark.Text.Case

/-!
# Layers of settings

Settings are collected layer by layer into one tree of data. A layer is a list of
entries, each with a path. A later entry replaces an earlier one at its path, but
objects are merged field by field.

The path of an entry is written with points between names and an index in brackets
after a name. What is not written so is a name as a whole.
-/

namespace Shelfmark.Settings

open Shelfmark.Text

/-- A step of a path: into a field, or into an item counted from the front, or from
the back when negative. -/
inductive PathStep where
  | field (name : String)
  | item (index : Int)
  deriving DecidableEq, Repr

/-- Characters of a name in a path. -/
def isNameChar (c : Char) : Bool := c.isAlphanum || c = '_' || c = '-' || c = ' '

/-- Reads the steps after the first; every step takes a character at least. -/
def readSteps : Nat → List Char → Option (List PathStep)
  | _, [] => some []
  | 0, _ :: _ => none
  | fuel + 1, c :: cs =>
      if c = '.' then
        let name := cs.takeWhile isNameChar
        if name.isEmpty then none
        else
          (readSteps fuel (cs.dropWhile isNameChar)).map
            (PathStep.field (String.ofList name) :: ·)
      else if c = '[' then
        let index := cs.takeWhile fun c => c != ']'
        match readInt? index, cs.dropWhile fun c => c != ']' with
        | some i, _ :: rest => (readSteps fuel rest).map (PathStep.item i :: ·)
        | _, _ => none
      else none

/-- The path that a key spells. -/
def readPath (key : String) : List PathStep :=
  let cs := key.toList
  let name := cs.takeWhile isNameChar
  let steps := if name.isEmpty then none else readSteps cs.length (cs.dropWhile isNameChar)
  match steps with
  | some steps => .field (String.ofList name) :: steps
  | none => [.field key]

/-- The fields of data; none when it is no object. -/
def objectFields : Json → List (String × Json)
  | .object fields => fields
  | _ => []

/-- The items of data; none when it is no list. -/
def listItems : Json → List Json
  | .list items => items
  | _ => []

/-- The items with as many nulls in front or behind as it takes to have an item at an
index, and where that item is. -/
def reachItem (index : Int) (items : List Json) : List Json × Nat :=
  if 0 ≤ index then
    (items ++ List.replicate (index.toNat + 1 - items.length) .null, index.toNat)
  else
    let missing := index.natAbs - items.length
    (List.replicate missing .null ++ items, items.length - index.natAbs)

mutual

/-- New data laid over old: objects are merged and anything else replaces. -/
def overlay (old : Json) : Json → Json
  | .object fields => .object (overlayFields (objectFields old) fields)
  | new => new

/-- Fields laid over others, one after the other. -/
def overlayFields (old : List (String × Json)) : List (String × Json) → List (String × Json)
  | [] => old
  | (name, new) :: rest =>
      overlayFields (Json.insertField name (overlay ((old.lookup name).getD .null) new) old) rest

end

/-- Data laid over a tree at a path. What is in the way of the path is replaced. -/
def overlayAt (value : Json) (tree : Json) : List PathStep → Json
  | [] => overlay tree value
  | .field name :: rest =>
      let fields := objectFields tree
      .object (Json.insertField name (overlayAt value ((fields.lookup name).getD .null) rest) fields)
  | .item index :: rest =>
      let (items, i) := reachItem index (listItems tree)
      .list (items.set i (overlayAt value ((items[i]?).getD .null) rest))

/-- A layer laid over a tree, entry by entry. -/
def overlayAll (tree : Json) (entries : List (String × Json)) : Json :=
  entries.foldl (fun tree entry => overlayAt entry.2 tree (readPath entry.1)) tree

/-! ## The environment -/

/-- What the names of the variables that hold settings start with, in lower case. -/
def variablePrefix : String := "bookcase__"

/-- A name with points for pairs of underscores, from the left. -/
def pointed : List Char → List Char
  | '_' :: '_' :: rest => '.' :: pointed rest
  | c :: rest => c :: pointed rest
  | [] => []

/-- The entry of a variable that holds a setting. -/
def variableEntry? (v : String × String) : Option (String × Json) :=
  let name := (lowercase v.1).toList
  if variablePrefix.toList.isPrefixOf name then
    let key := pointed (name.drop variablePrefix.toList.length)
    some (String.ofList key, .text v.2)
  else none

end Shelfmark.Settings
