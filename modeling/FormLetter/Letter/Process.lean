import FormLetter.Letter.Body
import FormLetter.Letter.Compile
import FormLetter.Letter.Picture

/-!
# Rendering a letter

A letter is compiled once; then its styles and its content are rendered, the styles of the letters
that it encloses are added to its own, and its pictures are put into its package. What was
registered is forgotten at the end, also when something fails. Saving puts the rendered parts in the
place of those that they were made from, and closing takes the compiled parts out again.
-/

namespace FormLetter.Work

open FormLetter.Script

/-! ## Rendering -/

/-- What a letter is rendered with, besides the letter itself. -/
structure Occasion where
  /-- The letter that pictures and enclosed letters are registered with. -/
  master : Nat
  data : Value
  options : Value

/-- The values that template code finds. The surroundings know all the others. -/
def bindings (id : Nat) (occasion : Occasion) : Work (List (String × Value)) := do
  let template := (← letter id).value id
  let master := (← letter occasion.master).value occasion.master
  let surroundings ← surround
    [("template", template), ("master", master), ("data", occasion.data),
      ("options", occasion.options)]
  return [("data", occasion.data), ("options", occasion.options), ("ctx", surroundings),
    ("template", template), ("master", master)]

/-- Makes sure that a letter is compiled. -/
def makeReady (id : Nat) : Work Unit := do
  if (← letter id).isCompiled then
    report .debug .document ("Using compiled source cached in " ++ (← nameOf id))
  else discard <| compile id

/-- A part of a letter, as it was compiled. -/
def partOf (id : Nat) (source name : String) : Work Part := do
  return .ofSource name (← Work.source id source)

/-- Renders one part of a letter, and gives it. The part is there before it is rendered. -/
def renderPart (host : Host Workspace) (bound : List (String × Value))
    (keep : Part → Letter → Letter) (id : Nat) (part : Part) : Work Part := do
  change id (keep part)
  let rendered ← part.process host bound
  change id (keep rendered)
  return rendered

/-- The styles that the letters enclosed in a letter have to share. -/
def sharedStyles (workspace : Workspace) (id : Nat) : List Part.StyleSource :=
  (workspace.letter id).enclosures.map fun (_, enclosure) =>
    match enclosure with
    | .letter other =>
      ⟨(workspace.letter other).shown, (workspace.letter other).styles.bind (·.rendered)⟩
    | .other shown => ⟨shown, none⟩

/-- Adds the styles of the enclosed letters to those of a letter. -/
def mergeEnclosures (id : Nat) : Work Unit := do
  let workspace ← workspace
  match (workspace.letter id).styles with
  | none => return ()
  | some part =>
    let merged ← part.mergeStyles (sharedStyles workspace id)
    change id (Letter.withStyles merged)

/-- What a rendering has at hand when it comes to the content of a letter: the values that template
code finds, the rendered styles, and the content, which is not rendered yet. -/
structure Begun where
  bound : List (String × Value)
  styles : Part
  content : Part

/-- Gives what the parts of a letter are rendered with, and the styles, which are not rendered yet.
The letter may have to be compiled first. -/
def prepare (id : Nat) (occasion : Occasion) : Work (List (String × Value) × Part) := do
  makeReady id
  let layout := (← letter id).layout
  let bound ← bindings id occasion
  report .info .document ("Processing template " ++ (← nameOf id))
  return (bound, ← partOf id layout.stylesSource layout.stylesPart)

/-- Renders the styles of a letter. -/
def renderStyles (host : Host Workspace) (id : Nat) (occasion : Occasion) : Work Begun := do
  let (bound, styles) ← prepare id occasion
  let styles ← renderPart host bound Letter.withStyles id styles
  let layout := (← letter id).layout
  return ⟨bound, styles, ← partOf id layout.contentSource layout.contentPart⟩

/-- Renders the styles and the content of a letter, and gives both. -/
def renderParts (host : Host Workspace) (id : Nat) (occasion : Occasion) :
    Work (Part × Part) := do
  let begun ← renderStyles host id occasion
  let content ← renderPart host begun.bound Letter.withContent id begun.content
  return (begun.styles, content)

/-- Adds the styles of the enclosed letters to those of a letter, if there are any. -/
def addEnclosed (id : Nat) : Work Unit := do
  if (← letter id).enclosures.isEmpty then return () else mergeEnclosures id

/-- Copies the registered pictures into the package of a letter, if there are any. -/
def addPictures (id : Nat) : Work Unit := do
  if (← letter id).pictures.isEmpty then return () else embedPictures id

/-- Adds what was registered while a letter was rendered. -/
def addRegistered (id : Nat) : Work Unit := do
  addEnclosed id
  addPictures id

/-- Renders a letter that may have to be compiled first. -/
def fill (host : Host Workspace) (id : Nat) (occasion : Occasion) : Work Unit := do
  let _ ← renderParts host id occasion
  addRegistered id

/-- Renders a letter, and forgets what was registered meanwhile. -/
def processWith (host : Host Workspace) (id : Nat) (occasion : Occasion) : Work Unit :=
  afterwards (fill host id occasion) (change id Letter.bare)

/-! ## Saving and closing -/

/-- Puts the rendered parts in the place of those that they were made from. -/
def save (id : Nat) : Work Unit := do
  let before ← letter id
  let rendered (part : Option Part) : Option (List Char) := part.bind (·.rendered)
  match rendered before.content with
  | none => throw (.notProcessedForSave before.path.name)
  | some content => do
    changePackage id (·.writeText before.layout.contentPart (String.ofList content))
    match rendered before.styles with
    | none => return ()
    | some styles =>
      changePackage id (·.writeText before.layout.stylesPart (String.ofList styles))

/-- Takes a directory and those around it out of a package, from the inside out, until one holds
another entry. -/
def removeEmptyDirectories (package : Package) : List String → Package
  | [] => package
  | part :: around =>
    let name := "/".intercalate (part :: around).reverse ++ "/"
    if package.names.any fun entry => name.toList.isPrefixOf entry.toList && entry != name then
      package
    else removeEmptyDirectories (package.discard name) around

/-- The parts of the path of a directory, the innermost first. -/
def directoryParts (directory : String) : List String :=
  let isSlash (c : Char) : Bool := c == '/'
  let bare := ((directory.toList.dropWhile isSlash).reverse.dropWhile isSlash).reverse
  ((Text.splitOn ['/'] bare).map String.ofList).reverse

/-- A package without the compiled parts of a letter. -/
def withoutSources (layout : Layout) (package : Package) : Package :=
  let package := (package.discard layout.contentSource).discard layout.stylesSource
  removeEmptyDirectories package (directoryParts layout.sourceDirectory)

/-- Takes the compiled parts out of a letter, and closes it. -/
def close (id : Nat) : Work Unit := do
  let layout := (← letter id).layout
  changePackage id (withoutSources layout)
  closePackage id

/-! ## Reading -/

/-- The rendered body of a letter. -/
def body (id : Nat) : Work (List Char) := do
  let letter ← letter id
  match letter.content.bind (·.rendered) with
  | none => throw (.notProcessedForBody letter.path.name)
  | some rendered => return Body.ofDocument (← Part.readRendered rendered)

end FormLetter.Work
