import Shelfmark.Record.Field
import Shelfmark.Template.Fault

/-!
# What can go wrong with a catalogue

Every operation fails with a value of one type that says what was wrong. The
wording is in one place, `Fault.message`.

Rules are enforced twice, by the checks of the operations and by the constraints
of the tables. Breaking a uniqueness rule is a duplicate and breaking any other
an integrity fault, whichever of the two noticed.
-/

namespace Shelfmark

/-- Why a value is not valid for a property. -/
inductive ValidationCause where
  | field (cause : FieldFault)
  | unknownPersonRole (text : String)
  | unknownObjectRole (text : String)
  | unorderedType (name : String)
  deriving DecidableEq, Repr

/-- Why a record is there already. -/
inductive DuplicateCause where
  | columns (table : String) (names : List String)
  | groupTypeName (name : String)
  | personRole (person : String) (role : PersonRole) (resource : String)
  | groupLink (resource group : String)
  deriving DecidableEq, Repr

/-- Why a change would break the rules between records. -/
inductive IntegrityCause where
  | missingValue (table column : String)
  | check (expression : String)
  | reference
  | exclusiveTypeHeld
  | relationsAgainstType
  | crowdedResources (count : Nat) (typeName : String)
  | indexedRelations (count : Nat) (typeName : String)
  | groupWouldCrowd (count : Nat) (typeName : String)
  | groupHasIndexes (count : Nat) (typeName : String)
  | wellKnownType (name : String)
  | typeInUse (count : Nat) (typeName : String)
  | exclusiveGroupHeld (resource typeName : String)
  | unknownGroupType (group type : String)
  deriving DecidableEq, Repr

/-- Why the storage itself refuses. -/
inductive StorageCause where
  | noTransaction
  | unreadableVersion (text : String)
  | datatypeMismatch
  | full
  | noColumn (index : Nat)
  deriving DecidableEq, Repr

/-- Why a criterion or a sort order makes no sense. -/
inductive CriteriaCause where
  | noRelation (origin target : Kind)
  | sortedTwice (property : String)
  | notADirection (text : String)
  deriving DecidableEq, Repr

/-- Why an operation on a catalogue fails. -/
inductive Fault where
  | settings
  | storage (cause : StorageCause)
  | newerVersion (found supported : Nat)
  | template (cause : Template.Fault)
  | validation (kind : Kind) (property : String) (cause : ValidationCause)
  | notFound (kind : Kind) (shown : String)
  | duplicate (kind : Kind) (cause : DuplicateCause)
  | integrity (kind : Kind) (cause : IntegrityCause)
  | unknownProperty (kind : Kind) (property : String)
  | criteria (cause : CriteriaCause)
  deriving DecidableEq, Repr

/-- The wording of a cause. Faults of a field name the table of its kind. -/
def ValidationCause.message (kind : Kind) : ValidationCause → String
  | field cause => cause.message ++ " (table " ++ kind.table ++ ")"
  | unknownPersonRole text => "'" ++ text ++ "' is not a valid PersonRelation"
  | unknownObjectRole text => "'" ++ text ++ "' is not a valid ObjectRole"
  | unorderedType name => "group type '" ++ name ++ "' is not ordered"

/-- The wording of a cause. -/
def DuplicateCause.message : DuplicateCause → String
  | columns table names =>
      "UNIQUE constraint failed: " ++ ", ".intercalate (names.map fun c => table ++ "." ++ c)
  | groupTypeName name => "a group type named '" ++ name ++ "' already exists"
  | personRole person role resource =>
      "person '" ++ person ++ "' is already " ++ role.word ++ " of '" ++ resource ++ "'"
  | groupLink resource group =>
      "resource '" ++ resource ++ "' already relates to group '" ++ group ++ "' this way"

/-- The wording of a cause. -/
def IntegrityCause.message : IntegrityCause → String
  | missingValue table column => "NOT NULL constraint failed: " ++ table ++ "." ++ column
  | check expression => "CHECK constraint failed: " ++ expression
  | reference => "FOREIGN KEY constraint failed"
  | exclusiveTypeHeld => "resource already relates to a group of this exclusive type"
  | relationsAgainstType => "existing relations break the rules of the new group type"
  | crowdedResources count name =>
      Nat.repr count ++ " resources relate to several groups of '" ++ name ++ "'"
  | indexedRelations count name =>
      Nat.repr count ++ " relations to groups of '" ++ name ++ "' carry an index"
  | groupWouldCrowd count name =>
      Nat.repr count ++ " resources would relate to several groups of '" ++ name ++ "'"
  | groupHasIndexes count name =>
      Nat.repr count ++ " relations carry an index but '" ++ name ++ "' is unordered"
  | wellKnownType name => "'" ++ name ++ "' is a well-known group type"
  | typeInUse count name => Nat.repr count ++ " groups are of type '" ++ name ++ "'"
  | exclusiveGroupHeld resource name =>
      "resource '" ++ resource ++ "' already relates to a group of the exclusive type '" ++
        name ++ "'"
  | unknownGroupType group type =>
      "group '" ++ group ++ "' refers to unknown group type '" ++ type ++ "'"

/-- The wording of a cause. -/
def StorageCause.message : StorageCause → String
  | noTransaction => "no open transaction"
  | unreadableVersion text => "unreadable store version '" ++ text ++ "'"
  | datatypeMismatch => "datatype mismatch"
  | full => "database or disk is full"
  | noColumn index => "Invalid column index: " ++ Nat.repr index

/-- The wording of a cause. -/
def CriteriaCause.message : CriteriaCause → String
  | noRelation origin target => "no relation from " ++ origin.label ++ " to " ++ target.label
  | sortedTwice property => "property '" ++ property ++ "' is sorted more than once"
  | notADirection text => "'" ++ text ++ "' is not a sort direction"

/-- The wording of a fault. -/
def Fault.message : Fault → String
  | settings => "Config error"
  | storage cause => "Persistence error: " ++ cause.message
  | newerVersion found supported =>
      "Store version " ++ Nat.repr found ++ " is newer than the supported version " ++
        Nat.repr supported
  | template cause => cause.message
  | validation kind property cause =>
      "Invalid value for " ++ kind.label ++ "." ++ property ++ ": " ++ cause.message kind
  | notFound kind shown => kind.label ++ " '" ++ shown ++ "' does not exist"
  | duplicate kind cause => "Duplicate " ++ kind.label ++ ": " ++ cause.message
  | integrity kind cause => "Integrity violation on " ++ kind.label ++ ": " ++ cause.message
  | unknownProperty kind property =>
      "Unknown property '" ++ property ++ "' for " ++ kind.label
  | criteria cause => "Criteria error: " ++ cause.message

/-- A fault of a field, on a property of a kind. -/
def Fault.ofField {α : Type} (kind : Kind) (f : Field) : Except FieldFault α → Except Fault α
  | .ok a => .ok a
  | .error cause => .error (.validation kind f.name (.field cause))

end Shelfmark
