import FormLetter.Keyed

/-!
# JSON values

Data for a document. Whole numbers and fractions are kept apart, as they are written differently
again, and an object keeps the order in which its names were first given.
-/

namespace FormLetter

/-- A JSON value. -/
inductive Json where
  | null
  | bool (value : Bool)
  | int (value : Int)
  | float (value : Float)
  | text (value : String)
  | array (items : List Json)
  | object (members : List (String × Json))
  deriving Inhabited

namespace Json

/-- Enters a member of an object; a name that is present keeps its place and takes the value. -/
def enter (members : List (String × Json)) (name : String) (value : Json) :
    List (String × Json) :=
  Keyed.put name value members

/-- The member of an object with the given name. -/
def member? (name : String) : Json → Option Json
  | object members => members.lookup name
  | _ => none

end Json

end FormLetter
