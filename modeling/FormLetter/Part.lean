import FormLetter.Script.Render
import FormLetter.Style.Merge

/-!
# Parts of a document

A part is compiled template code together with what was last rendered from it. When rendering
fails, the part that was rendered before is kept, and a preview shows the directives near the line
that failed.
-/

namespace FormLetter

open FormLetter.Script

/-- One part of a document. -/
structure Part where
  source : List Char
  name : String
  rendered : Option (List Char)
  deriving Repr, Inhabited

namespace Part

/-- A part that was not rendered yet. -/
def ofSource (name : String) (source : List Char) : Part := ⟨source, name, none⟩

/-- The rendered text, or no text. -/
def text (part : Part) : List Char := part.rendered.getD []

/-! ## Preview -/

/-- A directive, and the line on which it begins. -/
structure Directive where
  line : Nat
  statement : List Char
  deriving DecidableEq, Repr

/-- The length of the directive that a text begins with, if it begins with one that is closed. -/
def directiveLength? (text : List Char) : Option Nat :=
  if "<%".toList.isPrefixOf text then
    (Text.find? "%>".toList (text.drop 2)).map (· + 4)
  else none

/-- The directives of a text that begins on a line. `skipped` characters belong to a directive that
was found before. -/
def directivesFrom (line skipped : Nat) : List Char → List Directive
  | [] => []
  | c :: rest =>
    let next := if c == '\n' then line + 1 else line
    match skipped with
    | left + 1 => directivesFrom next left rest
    | 0 =>
      match directiveLength? (c :: rest) with
      | some length =>
        ⟨line, (c :: rest).take length⟩ :: directivesFrom next (length - 1) rest
      | none => directivesFrom next 0 rest

/-- The length from which on a directive is not shown whole. -/
def previewLength : Nat := 200

/-- A directive with its end left out if it is long. -/
def Directive.shortened (directive : Directive) : Directive :=
  if directive.statement.length ≤ previewLength then directive
  else { directive with
    statement := directive.statement.take (previewLength - 3) ++ "...".toList }

/-- The directives of a part, as a preview shows them. -/
def directives (part : Part) : List Directive :=
  (directivesFrom 1 0 part.source).map Directive.shortened

/-- The items of a list between two places. A negative place is counted from the end. -/
def between {α : Type} (items : List α) (start stop : Int) : List α :=
  (sliceIndices items.length (some start) (some stop) 1).filterMap (items[·]?)

/-- The directives near a line, or the first ones where no line is given; so many at most. -/
def preview (part : Part) (focus : Option Nat) (limit : Int) : List Directive :=
  let found := part.directives
  match focus with
  | none => between found 0 limit
  | some focus =>
    let start : Int := match found.findIdx? (focus ≤ ·.line) with
      | some index => max 0 (index - limit.fdiv 2)
      | none => max 0 (found.length - limit)
    between found start (start + limit)

/-- The number of directives that the report of a failure shows. -/
def previewCount : Int := 5

/-- The report of a failure at a line. -/
def failureReport (part : Part) (line : Option Nat) : String :=
  "Failed to render template part " ++ part.name
    ++ match line with
      | some line => " near line " ++ toString line
      | none => ""

/-! ## Rendering -/

/-- Renders a part with values for its names. The line that is running in the template around it is
not forgotten meanwhile. -/
def process {σ : Type} [World σ] (host : Host σ) (bound : List (String × Value)) (part : Part) :
    M σ Part := do
  let before ← get
  let outcome ← attempt (render host bound part.source)
  let line := (← get).line
  modify fun heap => { heap with line := before.line, exported := before.exported }
  match outcome with
  | .ok rendered => return { part with rendered := some rendered }
  | .error fault => do
    let line := match fault.ownLine? with
      | some line => some line
      | none => some line
    report .error .part (part.failureReport line)
    throw (.render part.name line fault)

/-- The names that a part uses and does not set. -/
def undeclared (part : Part) : Except Fault (List String) :=
  match load part.source with
  | .ok content => .ok (Script.undeclared content)
  | .error mistake => .error (.mistake mistake)

/-! ## Merging styles -/

/-- The rendered styles of a document that takes part in another one. -/
structure StyleSource where
  /-- The written form of the document. -/
  label : String
  rendered : Option (List Char)

/-- Reads a rendered text as a document. -/
def readRendered (text : List Char) : Except Fault Xml.Document :=
  match Xml.Document.read (String.ofList text).toUTF8 with
  | .ok document => .ok document
  | .error malformed => .error (.malformed malformed.line)

/-- Adds the styles of other documents to a part that was rendered. -/
def mergeStyles (part : Part) (sources : List StyleSource) : Local Part := do
  match part.rendered with
  | none => throw (.mergeUnrendered part.name)
  | some rendered => do
    let root ← readRendered rendered
    let documents ← sources.filterMapM fun source => do
      match source.rendered with
      | none => do
        report .debug .part ("Skipping partial without rendered styles: " ++ source.label)
        return none
      | some text => return some (← readRendered text)
    let (merged, count) := Style.merge root documents
    report .debug .part
      ("Merged " ++ toString count ++ " partial styles into " ++ part.name)
    return { part with rendered := some merged.print }

end Part

end FormLetter
