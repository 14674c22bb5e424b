import FormLetter.Text.Quoted

/-!
# What can be wrong with a template

The mistakes that are found before a template is rendered, and their wording. Most are found while
it is read. A few are found afterwards, when what its names stand for is checked; those are called
assertions.
-/

namespace FormLetter.Script

open FormLetter.Text

/-- A mistake in a template. -/
inductive Problem where
  -- Found while the template is cut into tokens.
  | unclosedComment
  | unclosedLiteral
  | unexpectedCharacter (c : Char) (place : Nat)
  | unexpected (sign : String)
  | unexpectedBracket (found expected : String)
  | invalidIdentifier
  | truncatedByte
  | truncatedShort
  | truncatedLong
  | illegalCharacter
  | malformedName
  -- Found while the tokens are read.
  | expectedToken (expected found : String)
  | endExpecting (expected : String)
  | unexpectedToken (found : String)
  | expectedExpression (found : String)
  | expectedTagName
  | expectedNameOrNumber
  | callArguments
  | chainedTests
  | cannotAssign (kind : String)
  | hyphenInBlockName
  | requiredBlockContent
  | defaultOrder
  | expectedCall
  /-- A tag that is not known here. `awaited` are the tags that could close the innermost block,
  `nested` says whether the tag could close one further out, and `innermost` is that block. -/
  | unknownTag (name : String) (awaited : List String) (nested : Bool) (innermost : Option String)
  | endOfTemplate (awaited : List String) (innermost : Option String)
  -- Found when the meaning of names is checked.
  | unknownFilter (name : String)
  | unknownTest (name : String)
  | blockTwice (name : String)
  | assignedLoop
  | callerWithoutDefault
  | nestedExtends
  | importedUnderscore
  deriving DecidableEq, Repr, Inhabited

namespace Problem

/-- True for a mistake in what names stand for. -/
def isAssertion : Problem → Bool
  | unknownFilter _ | unknownTest _ | blockTwice _ | assignedLoop | callerWithoutDefault
  | nestedExtends | importedUnderscore => true
  | _ => false

/-- The tags that are waited for, as a choice. -/
def choice (awaited : List String) : String :=
  " or ".intercalate (awaited.map Quoted.quote)

/-- The block that has to be closed, if there is one. -/
def innermostText : Option String → List String
  | none => []
  | some name => ["The innermost block that needs to be closed is " ++ Quoted.quote name ++ "."]

/-- The wording of a mistake. -/
def wording : Problem → String
  | unclosedComment => "Missing end of comment tag"
  | unclosedLiteral => "Missing end of raw directive"
  | unexpectedCharacter c place =>
    "unexpected char " ++ Quoted.quote (String.singleton c) ++ " at " ++ toString place
  | unexpected sign => "unexpected '" ++ sign ++ "'"
  | unexpectedBracket found expected =>
    "unexpected '" ++ found ++ "', expected '" ++ expected ++ "'"
  | invalidIdentifier => "Invalid character in identifier"
  | truncatedByte => "truncated \\xXX escape"
  | truncatedShort => "truncated \\uXXXX escape"
  | truncatedLong => "truncated \\UXXXXXXXX escape"
  | illegalCharacter => "illegal Unicode character"
  | malformedName => "malformed \\N character escape"
  | expectedToken expected found =>
    "expected token " ++ Quoted.quote expected ++ ", got " ++ Quoted.quote found
  | endExpecting expected =>
    "unexpected end of template, expected " ++ Quoted.quote expected ++ "."
  | unexpectedToken found => "unexpected " ++ Quoted.quote found
  | expectedExpression found => "Expected an expression, got " ++ Quoted.quote found
  | expectedTagName => "tag name expected"
  | expectedNameOrNumber => "expected name or number"
  | callArguments => "invalid syntax for function call expression"
  | chainedTests => "You cannot chain multiple tests with is"
  | cannotAssign kind => "can't assign to " ++ Quoted.quote kind
  | hyphenInBlockName =>
    "Block names in Jinja have to be valid Python identifiers and may not contain hyphens, use an "
      ++ "underscore instead."
  | requiredBlockContent => "Required blocks can only contain comments or whitespace"
  | defaultOrder => "non-default argument follows default argument"
  | expectedCall => "expected call"
  | unknownTag name awaited nested innermost =>
    let looking :=
      if awaited.isEmpty then []
      else if nested then
        ["You probably made a nesting mistake. Jinja is expecting this tag, but currently looking "
          ++ "for " ++ choice awaited ++ "."]
      else ["Jinja was looking for the following tags: " ++ choice awaited ++ "."]
    " ".intercalate
      (("Encountered unknown tag " ++ Quoted.quote name ++ ".") :: looking
        ++ innermostText innermost)
  | endOfTemplate awaited innermost =>
    let looking :=
      if awaited.isEmpty then []
      else ["Jinja was looking for the following tags: " ++ choice awaited ++ "."]
    " ".intercalate ("Unexpected end of template." :: looking ++ innermostText innermost)
  | unknownFilter name => "No filter named " ++ Quoted.quote name ++ "."
  | unknownTest name => "No test named " ++ Quoted.quote name ++ "."
  | blockTwice name => "block " ++ Quoted.quote name ++ " defined twice"
  | assignedLoop => "Can't assign to special loop variable in for-loop"
  | callerWithoutDefault =>
    "When defining macros or call blocks the special \"caller\" argument must be omitted or be "
      ++ "given a default."
  | nestedExtends => "cannot use extend from a non top-level scope"
  | importedUnderscore => "names starting with an underline can not be imported"

end Problem

end FormLetter.Script
