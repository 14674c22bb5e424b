import FormLetter.Markup.Surroundings

/-!
# Directives in place of runs

A run becomes a directive: a statement between `<%` and `%>`, or an output between `<%=` and `%>`.
The output of a value is put in brackets and escaped, so that the escaping covers the whole
expression.

A statement takes its paragraph with it when it is alone there, then the list item and the table
row when they hold nothing else. A block takes only its paragraph. Values and literals take
nothing. What is not taken is written unchanged around the directive; where a neighbouring span
touches the run, an output moves into it, and a statement between two spans joins them.
-/

namespace FormLetter.Markup

open FormLetter.Style

/-- Opens a statement. -/
def statementOpen : List Char := "<%".toList

/-- Opens an output. -/
def outputOpen : List Char := "<%=".toList

/-- Closes a statement or an output. -/
def directiveClose : List Char := "%>".toList

/-- The directive for code in a role. -/
def directive (role : Role) (code : List Char) : List Char :=
  match role with
  | .code => statementOpen ++ ' ' :: code ++ ' ' :: directiveClose
  | .value => outputOpen ++ " (".toList ++ code ++ ")|xml ".toList ++ directiveClose
  | .block | .literal => outputOpen ++ ' ' :: code ++ ' ' :: directiveClose

/-- Which structures around a run are removed with it. -/
structure Collapse where
  paragraph : Bool := false
  item : Bool := false
  row : Bool := false
  deriving DecidableEq, Repr

/-- True for a group that was found and covers some text. -/
def isPresent (group : Option (List Char)) : Bool :=
  match group with
  | some (_ :: _) => true
  | _ => false

/-- Decides which structures are removed: an outer one only together with the paragraph, and each
only when both its ends were found. -/
def Groups.collapse (groups : Groups) (role : Role) : Collapse :=
  let paragraph := isPresent groups.paragraphStart && isPresent groups.paragraphEnd
  match role with
  | .code =>
    { paragraph
      item := paragraph && isPresent groups.itemStart && isPresent groups.itemEnd
      row := paragraph && isPresent groups.rowStart && isPresent groups.rowEnd }
  | .block => { paragraph }
  | .value | .literal => {}

/-- The text of a group that is kept; a group that was not found has none. -/
def keep (group : Option (List Char)) (removed : Bool := false) : List Char :=
  if removed then [] else group.getD []

/-- The directive together with the spans that touch the run. -/
def Groups.withSpans (groups : Groups) (role : Role) (text : List Char) : List Char :=
  let both := isPresent groups.spanEnd && isPresent groups.spanStart
  match role with
  | .code => keep groups.spanEnd both ++ text ++ keep groups.spanStart both
  | .value | .block | .literal =>
    if isPresent groups.spanEnd then text ++ keep groups.spanEnd ++ keep groups.spanStart
    else keep groups.spanStart ++ text

/-- What takes the place of a run and of the groups around it. -/
def Groups.render (groups : Groups) (role : Role) (code : List Char) : List Char :=
  let removed := groups.collapse role
  keep groups.rowStart removed.row ++ keep groups.itemStart removed.item
    ++ keep groups.paragraphStart removed.paragraph
    ++ groups.withSpans role (directive role code)
    ++ keep groups.paragraphEnd removed.paragraph ++ keep groups.itemEnd removed.item
    ++ keep groups.rowEnd removed.row

end FormLetter.Markup
