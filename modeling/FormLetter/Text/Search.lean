/-!
# Searching in text

Where a text occurs in another one, and what is made from that: cutting it there, and putting
something else in its place. Occurrences are taken from the left and do not overlap.
-/

namespace FormLetter.Text

/-- The place of the first occurrence of a text at or after its beginning. -/
def find? (wanted : List Char) : List Char → Option Nat
  | [] => if wanted.isEmpty then some 0 else none
  | c :: rest =>
    if wanted.isPrefixOf (c :: rest) then some 0 else (find? wanted rest).map (· + 1)

/-- True when a text occurs in another one. -/
def occursIn (wanted text : List Char) : Bool := (find? wanted text).isSome

/-- Cuts a text at the occurrences of a separator that is not empty, so many times at most. -/
def splitAtMost (separator : List Char) : Nat → List Char → List (List Char)
  | 0, text => [text]
  | limit + 1, text =>
    match find? separator text with
    | none => [text]
    | some place =>
      text.take place :: splitAtMost separator limit (text.drop (place + separator.length))

/-- Cuts a text at all occurrences of a separator that is not empty. -/
def splitOn (separator text : List Char) : List (List Char) :=
  splitAtMost separator text.length text

/-- The number of occurrences of a text. The empty text occurs around every character. -/
def countIn (wanted text : List Char) : Nat :=
  if wanted.isEmpty then text.length + 1 else (splitOn wanted text).length - 1

/-- Puts a text before so many characters at most, and at the end when the count allows it. -/
def insertBetween (inserted : List Char) : Nat → List Char → List Char
  | 0, text => text
  | _ + 1, [] => inserted
  | limit + 1, c :: rest => inserted ++ c :: insertBetween inserted limit rest

/-- Puts another text in the place of so many occurrences at most, or of all of them. -/
def replace (wanted other : List Char) (limit : Option Nat) (text : List Char) : List Char :=
  if wanted.isEmpty then insertBetween other (limit.getD (text.length + 1)) text
  else List.intercalate other (splitAtMost wanted (limit.getD text.length) text)

/-- Cuts a text at white space, so many times at most. No part is empty. -/
def splitBlank (isBlank : Char → Bool) : Nat → List Char → List (List Char)
  | 0, text =>
    match text.dropWhile isBlank with
    | [] => []
    | rest => [rest]
  | limit + 1, text =>
    match text.dropWhile isBlank with
    | [] => []
    | rest =>
      rest.takeWhile (!isBlank ·) :: splitBlank isBlank limit (rest.dropWhile (!isBlank ·))

end FormLetter.Text
