import FormLetter.Keyed

/-!
# Roles of text styles

A text style can mark embedded code. Its role says what the code is: a statement, a value that is
escaped, a block of markup that takes the place of its paragraph, or markup that is put in as it
is. A style table may also give a style a mark that is no role; text under such a style stays
text.
-/

namespace FormLetter.Style

/-- What a run of embedded code means. -/
inductive Role where
  | code
  | value
  | block
  | literal
  deriving DecidableEq, Repr, Inhabited

namespace Role

/-- The written name of a role. -/
def label : Role → String
  | code => "Code"
  | value => "Value"
  | block => "Block"
  | literal => "Literal"

/-- The role with the given name. -/
def ofLabel? (label : String) : Option Role :=
  [code, value, block, literal].find? (·.label == label)

end Role

/-- What a style table holds for a style. -/
inductive Mark where
  | role (role : Role)
  | unknown (label : String)
  deriving DecidableEq, Repr, Inhabited

namespace Mark

/-- The mark with the given name: a role if there is one of that name. -/
def ofLabel (label : String) : Mark :=
  match Role.ofLabel? label with
  | some known => .role known
  | none => .unknown label

/-- The written name of a mark. -/
def label : Mark → String
  | .role known => known.label
  | .unknown label => label

end Mark

/-- Marks by style name, in the order in which the names were first entered. -/
abbrev Table := List (String × Mark)

namespace Table

/-- The mark of a style. -/
def find? (table : Table) (name : String) : Option Mark :=
  table.lookup name

/-- Enters a mark. A name that is present keeps its place and takes the new mark. -/
def insert (table : Table) (name : String) (mark : Mark) : Table :=
  Keyed.put name mark table

/-- Enters every mark of another table. -/
def update (table other : Table) : Table :=
  other.foldl (fun result (name, mark) => result.insert name mark) table

/-- The four reserved styles, under the names by which documents refer to them. -/
def reserved : Table := [
  ("Jinja_20_Code", .role .code),
  ("Jinja_20_Value", .role .value),
  ("Jinja_20_Block", .role .block),
  ("Jinja_20_Literal", .role .literal)]

end Table

end FormLetter.Style
