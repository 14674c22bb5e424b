import FormLetter.Text.Quoted

/-!
# What can go wrong while a template runs

The troubles that template code can run into, and their wording. A trouble says what was tried on
values of which kinds; it never holds the values themselves.
-/

namespace FormLetter.Script

open FormLetter.Text

/-- Values that do not have the kind that is needed. -/
inductive KindTrouble where
  | operands (sign left right : String)
  | concatenation (whole other : String)
  | multiplication (other : String)
  | unordered (sign left right : String)
  | signed (sign operand : String)
  | notIterable (kind : String)
  | notContainer (kind : String)
  | notUnpackable (kind : String)
  | notCallable (kind : String)
  | notSubscriptable (kind : String)
  | notReversible (kind : String)
  | noLength (kind : String)
  | unhashable (kind : String)
  | textMembership (kind : String)
  | notWhole (kind : String)
  | notRoundable (kind : String)
  | sliceBound
  | surplusFormatArguments
  | missingFormatArguments
  | formatMapping
  | formatNumber (letter : Char) (kind : String)
  | joinedItem (place : Nat) (kind : String)
  | summedTexts
  | updateElement (place : Nat)
  | noItemAssignment (kind : String)
  | noLoader
  | notPath (kind : String)
  /-- A call with arguments that the callee does not take. -/
  | arguments (callee complaint : String)
  deriving DecidableEq, Repr, Inhabited

/-- A value of the right kind that is out of place. -/
inductive ValueTrouble where
  | notInList (shown : String)
  | noSubstring
  | notRemovable
  | emptySeparator
  | tooFewValues (expected found : Nat)
  | tooManyValues (expected : Nat)
  | zeroStep
  | zeroRangeStep
  | tooManyDigits
  /-- A numeral with more digits than are read. -/
  | longNumeral (digits : Nat)
  | notNumber
  | formatCharacter (c : Char) (place : Nat)
  | incompleteFormat
  | updateLength (place found : Nat)
  /-- A text with a character that no document may hold. -/
  | foreignCharacter
  deriving DecidableEq, Repr, Inhabited

/-- A division by zero. -/
inductive DivisionTrouble where
  | quotient
  | floatQuotient
  | wholeQuotient
  | remainder
  | floatWholeQuotient
  | floatRemainder
  | zeroPower
  deriving DecidableEq, Repr, Inhabited

/-- A number that the arithmetic on fractions cannot hold. -/
inductive OverflowTrouble where
  | conversion
  | quotient
  | infinity
  | result
  | character
  | repetition
  | length
  deriving DecidableEq, Repr, Inhabited

/-- A trouble of running template code. -/
inductive Trouble where
  /-- An undefined value was used; the message was made where it came from. -/
  | undefined (message : String)
  | noFilter (name : String)
  | noTest (name : String)
  | notNamespace
  | requiredBlock (name : String)
  | filterArgument (complaint : String)
  | kind (trouble : KindTrouble)
  | value (trouble : ValueTrouble)
  | division (trouble : DivisionTrouble)
  | overflow (trouble : OverflowTrouble)
  | missingKey (shown : String)
  | emptyList
  | popPlace
  | changedSize
  | recursion
  | memory
  deriving DecidableEq, Repr, Inhabited

namespace KindTrouble

/-- The wording of a trouble with kinds. -/
def wording : KindTrouble → String
  | operands sign left right =>
    "unsupported operand type(s) for " ++ sign ++ ": '" ++ left ++ "' and '" ++ right ++ "'"
  | concatenation whole other =>
    "can only concatenate " ++ whole ++ " (not \"" ++ other ++ "\") to " ++ whole
  | multiplication other => "can't multiply sequence by non-int of type '" ++ other ++ "'"
  | unordered sign left right =>
    "'" ++ sign ++ "' not supported between instances of '" ++ left ++ "' and '" ++ right ++ "'"
  | signed sign operand => "bad operand type for unary " ++ sign ++ ": '" ++ operand ++ "'"
  | notIterable kind => "'" ++ kind ++ "' object is not iterable"
  | notContainer kind => "argument of type '" ++ kind ++ "' is not iterable"
  | notUnpackable kind => "cannot unpack non-iterable " ++ kind ++ " object"
  | notSubscriptable kind => "'" ++ kind ++ "' object is not subscriptable"
  | notCallable kind => "'" ++ kind ++ "' object is not callable"
  | notReversible kind => "'" ++ kind ++ "' object is not reversible"
  | noLength kind => "object of type '" ++ kind ++ "' has no len()"
  | unhashable kind => "unhashable type: '" ++ kind ++ "'"
  | textMembership kind => "'in <string>' requires string as left operand, not " ++ kind
  | notWhole kind => "'" ++ kind ++ "' object cannot be interpreted as an integer"
  | notRoundable kind => "type " ++ kind ++ " doesn't define __round__ method"
  | sliceBound => "slice indices must be integers or None or have an __index__ method"
  | surplusFormatArguments => "not all arguments converted during string formatting"
  | missingFormatArguments => "not enough arguments for format string"
  | formatMapping => "format requires a mapping"
  | formatNumber letter kind =>
    "%" ++ String.singleton letter ++ " format: a real number is required, not " ++ kind
  | joinedItem place kind =>
    "sequence item " ++ toString place ++ ": expected str instance, " ++ kind ++ " found"
  | summedTexts => "sum() can't sum strings [use ''.join(seq) instead]"
  | updateElement place =>
    "cannot convert dictionary update sequence element #" ++ toString place ++ " to a sequence"
  | noItemAssignment kind => "'" ++ kind ++ "' object does not support item assignment"
  | noLoader => "no loader for this environment specified"
  | notPath kind => "expected str, bytes or os.PathLike object, not " ++ kind
  | arguments callee complaint => callee ++ complaint

end KindTrouble

namespace ValueTrouble

/-- The wording of a trouble with values. -/
def wording : ValueTrouble → String
  | notInList shown => shown ++ " is not in list"
  | noSubstring => "substring not found"
  | notRemovable => "list.remove(x): x not in list"
  | emptySeparator => "empty separator"
  | tooFewValues expected found =>
    "not enough values to unpack (expected " ++ toString expected ++ ", got " ++ toString found
      ++ ")"
  | tooManyValues expected => "too many values to unpack (expected " ++ toString expected ++ ")"
  | zeroStep => "slice step cannot be zero"
  | zeroRangeStep => "range() arg 3 must not be zero"
  | tooManyDigits =>
    "Exceeds the limit (4300 digits) for integer string conversion; use "
      ++ "sys.set_int_max_str_digits() to increase the limit"
  | longNumeral digits =>
    "Exceeds the limit (4300 digits) for integer string conversion: value has "
      ++ toString digits ++ " digits; use sys.set_int_max_str_digits() to increase the limit"
  | notNumber => "cannot convert float NaN to integer"
  | formatCharacter c place =>
    "unsupported format character '" ++ String.singleton c ++ "' (0x"
      ++ String.ofList (Nat.toDigits 16 c.toNat) ++ ") at index " ++ toString place
  | incompleteFormat => "incomplete format"
  | updateLength place found =>
    "dictionary update sequence element #" ++ toString place ++ " has length " ++ toString found
      ++ "; 2 is required"
  | foreignCharacter =>
    "All strings must be XML compatible: Unicode or ASCII, no NULL bytes or control characters"

end ValueTrouble

/-- The wording of a division by zero. -/
def DivisionTrouble.wording : DivisionTrouble → String
  | quotient => "division by zero"
  | floatQuotient => "float division by zero"
  | wholeQuotient => "integer division or modulo by zero"
  | remainder => "integer modulo by zero"
  | floatWholeQuotient => "float floor division by zero"
  | floatRemainder => "float modulo"
  | zeroPower => "0.0 cannot be raised to a negative power"

/-- The wording of an overflow. -/
def OverflowTrouble.wording : OverflowTrouble → String
  | conversion => "int too large to convert to float"
  | quotient => "integer division result too large for a float"
  | infinity => "cannot convert float infinity to integer"
  | result => "(34, 'Numerical result out of range')"
  | character => "%c arg not in range(0x110000)"
  | repetition => "cannot fit 'int' into an index-sized integer"
  | length => "repeated string is too long"

/-- The wording of a trouble. -/
def Trouble.wording : Trouble → String
  | undefined message => message
  | noFilter name => "No filter named " ++ Quoted.quote name ++ " found."
  | noTest name => "No test named " ++ Quoted.quote name ++ " found."
  | notNamespace => "cannot assign attribute on non-namespace object"
  | requiredBlock name => "Required block " ++ Quoted.quote name ++ " not found"
  | filterArgument complaint => complaint
  | kind trouble => trouble.wording
  | value trouble => trouble.wording
  | division trouble => trouble.wording
  | overflow trouble => trouble.wording
  | missingKey shown => shown
  | emptyList => "pop from empty list"
  | popPlace => "pop index out of range"
  | changedSize => "dictionary changed size during iteration"
  | recursion => "maximum recursion depth exceeded"
  | memory => ""

end FormLetter.Script
