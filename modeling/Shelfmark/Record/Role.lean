import Shelfmark.Text.Blank
import Shelfmark.Text.Case

/-!
# Roles of related persons and objects

The part that a person played in a resource, and the part that an object plays
for it. Both are stored as words and read without regard to case and to blanks
around them.
-/

namespace Shelfmark

open Shelfmark.Text

/-- A text with the blanks around it removed, in lower case: the form in which
identifiers and words are compared. -/
def normalize (s : String) : String := lowercase (trim s)

/-- What a person did for a resource. -/
inductive PersonRole where
  | author
  | editor
  | translator
  deriving DecidableEq, Repr

/-- What an object is to its resource. -/
inductive ObjectRole where
  | format
  | cover
  deriving DecidableEq, Repr

namespace PersonRole

/-- All roles of persons. -/
def all : List PersonRole := [author, editor, translator]

/-- The word for the role. -/
def word : PersonRole → String
  | author => "author"
  | editor => "editor"
  | translator => "translator"

/-- The role that a text names. -/
def ofText? (s : String) : Option PersonRole := all.find? fun role => role.word = normalize s

end PersonRole

namespace ObjectRole

/-- All roles of objects. -/
def all : List ObjectRole := [format, cover]

/-- The word for the role. -/
def word : ObjectRole → String
  | format => "format"
  | cover => "cover"

/-- The role that a text names. -/
def ofText? (s : String) : Option ObjectRole := all.find? fun role => role.word = normalize s

end ObjectRole

end Shelfmark
