import Shelfmark.Number.Binary64

/-!
# Stored values

What a column of a table can hold, whatever its field means.
-/

namespace Shelfmark

/-- A stored value: nothing, an integer, a double, text, or bytes. -/
inductive Cell where
  | null
  | integer (value : Int64)
  | real (value : Binary64)
  | text (text : String)
  | blob (bytes : List UInt8)
  deriving DecidableEq, Repr

namespace Cell

/-- Whether nothing is stored. -/
def isNull : Cell → Bool
  | null => true
  | _ => false

end Cell

end Shelfmark
