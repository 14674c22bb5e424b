import FormLetter.Markup.Surroundings

/-!
# Where a match stands

The context of a run: the places of the tokens that the run takes with its groups, and what is
known of them. Tokens are numbered from zero, and a stretch of them ends before its second place.
A floor keeps the groups before the run from reaching what has been written already.
-/

namespace FormLetter.Markup

open FormLetter.Style (Table)

/-- The tokens from one place up to another one. -/
def Token.between (tokens : List Token) (start stop : Nat) : List Token :=
  (tokens.take stop).drop start

/-- The place of the tag that closes the run at a place, if a run under a style of the table begins
there. -/
def Run.closingAt? (styles : Table) (tokens : List Token) (place : Nat) : Option Nat :=
  (Run.start? styles (tokens.drop place)).map fun run => place + run.inner.length + 1

/-- The run between the places of its first and of its last tag. -/
def Run.between (tokens : List Token) (first last : Nat) : Run where
  opening := tokens[first]?.getD default
  inner := Token.between tokens (first + 1) last
  closing := tokens[last]?.getD default

/-- A run with its groups: from where up to where its tokens stand, the style and the code of the
run, and the groups with their texts. -/
structure Context where
  start : Nat
  stop : Nat
  style : String
  code : List Char
  groups : Groups
  deriving DecidableEq, Repr

/-- The context of the run between two places. Tokens before the floor belong to no group. -/
def context (styles : Option Table) (tokens : List Token) (floor first last : Nat) : Context :=
  let run := Run.between tokens first last
  let around := surround styles (Token.between tokens floor first).reverse (tokens.drop (last + 1))
  { start := first - around.taken.lead.length
    stop := last + 1 + around.taken.trail.length
    style := run.style
    code := run.code
    groups := around.groups }

end FormLetter.Markup
