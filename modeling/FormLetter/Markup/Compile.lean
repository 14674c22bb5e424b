import FormLetter.Log
import FormLetter.Markup.Directive
import FormLetter.Text.Quoted

/-!
# Compiling a part

The scan goes through the tokens once. Where a run begins, the tokens around it are looked at, the
text since the last match is written unchanged, and the run with its groups is replaced. The scan
goes on after the groups, and what has been written is never looked at again. A run whose style
has a mark that is no role is left as it is, with a warning.
-/

namespace FormLetter.Markup

open FormLetter.Style
open FormLetter.Text

/-- What was found at one place of a part: the style, its mark, and the run with its groups. -/
structure Match where
  run : Run
  mark : Mark
  taken : Taken
  deriving DecidableEq, Repr

namespace Match

/-- The tokens that a match covers. -/
def tokens (found : Match) : List Token :=
  found.taken.lead ++ found.run.tokens ++ found.taken.trail

/-- The text that takes the place of a match: a run without a role stays as it is. -/
def render (found : Match) : List Char :=
  match found.mark with
  | .role role => found.taken.groups.render role found.run.code
  | .unknown _ => Token.join found.tokens

/-- The log line about a match, if there is one. -/
def notice? (found : Match) : Option Log.Line :=
  match found.mark with
  | .role _ => none
  | .unknown _ => some
      ⟨.warning, .compiler,
        "Style " ++ Quoted.quote found.run.style
          ++ " has no template role; leaving it as text"⟩

end Match

/-- A piece of a scanned part: tokens that are copied, or a match. -/
inductive Piece where
  | copied (tokens : List Token)
  | matched (found : Match)
  deriving DecidableEq, Repr

namespace Piece

/-- The text that a piece becomes. -/
def render : Piece → List Char
  | copied tokens => Token.join tokens
  | matched found => found.render

/-- The tokens that a piece covers. -/
def tokens : Piece → List Token
  | copied tokens => tokens
  | matched found => found.tokens

/-- The match of a piece, if it is one. -/
def match? : Piece → Option Match
  | copied _ => none
  | matched found => some found

end Piece

/-- Scans tokens into pieces. `pending` holds the tokens since the last match, nearest first. -/
def scan (styles : Table) (pending : List Token) (tokens : List Token) : List Piece :=
  match tokens with
  | [] => [.copied pending.reverse]
  | token :: rest =>
    match Run.start? styles (token :: rest) with
    | none => scan styles (token :: pending) rest
    | some run =>
      let after := rest.drop (run.inner.length + 1)
      let around := surround (some styles) pending after
      let found : Match :=
        { run
          mark := (styles.find? run.style).getD (.unknown "")
          taken := around.taken }
      .copied around.before.reverse :: .matched found :: scan styles [] around.after
termination_by tokens.length
decreasing_by
  · simp
  · have bound := surround_after_length_le (some styles) pending
      (rest.drop (run.inner.length + 1))
    simp only [List.length_drop] at bound
    simp only [List.length_cons]
    omega

/-- The pieces of a part. -/
def pieces (styles : Table) (part : List Char) : List Piece :=
  scan styles [] (tokenize part)

/-- A compiled part: its source for the template language, and what was reported. -/
structure Compiled where
  source : List Char
  log : List Log.Line
  deriving Repr

/-- Compiles a part. Without a match the part is its own source, and nothing is reported. -/
def compile (styles : Table) (part : List Char) : Compiled :=
  let pieces := pieces styles part
  let found := pieces.filterMap Piece.match?
  if found.isEmpty then ⟨part, []⟩
  else
    { source := pieces.flatMap Piece.render
      log := found.filterMap Match.notice? ++
        [⟨.debug, .compiler, "Compiled " ++ toString found.length ++ " template directives"⟩] }

end FormLetter.Markup
