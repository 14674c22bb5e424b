import FormLetter.Package
import FormLetter.Part

/-!
# Letters

A letter is a text document whose parts hold template code. It keeps its package, what was last
rendered from its parts, and what was registered while it was rendered: the pictures that are to be
put into the package, and the letters that are enclosed. All letters live in one workspace, together
with the files; template code sees them as things with members.
-/

namespace FormLetter

open FormLetter.Script

/-- Where a letter keeps what in its package, and which styles mark code. -/
structure Layout where
  /-- What letters of this layout are called. -/
  label : String := "Template"
  contentPart : String := "content.xml"
  stylesPart : String := "styles.xml"
  manifestPart : String := "META-INF/manifest.xml"
  /-- The directory of the compiled parts. -/
  sourceDirectory : String := "documatic/master"
  contentSource : String := "documatic/master/content.jinja"
  stylesSource : String := "documatic/master/styles.jinja"
  pictureDirectory : String := "Pictures"
  reserved : Style.Table := .reserved
  deriving Inhabited

/-- What is enclosed in a letter: another letter, or a thing that has no styles to share. -/
inductive Enclosure where
  | letter (id : Nat)
  | other (shown : String)
  deriving DecidableEq, Repr, Inhabited

/-- A text document whose parts hold template code. -/
structure Letter where
  path : Path
  layout : Layout
  /-- True when the use of undefined values is noted, false when it is refused. -/
  isLenient : Bool
  /-- The labels of the undefined values that were used so far. -/
  recorded : List Label
  package : Package
  /-- The indented parts, from when they were last compiled. -/
  rawContent : Option (List Char)
  rawStyles : Option (List Char)
  content : Option Part
  styles : Option Part
  /-- Where the pictures are that wait to be put into the package, by name. -/
  pictures : List (String × Path)
  enclosures : List (String × Enclosure)

instance : Inhabited Package := ⟨⟨default, [], [], [], false, 0⟩⟩

instance : Inhabited Letter :=
  ⟨⟨default, default, false, [], default, none, none, none, none, [], []⟩⟩

namespace Letter

/-- A letter that was just opened. -/
def ofPackage (layout : Layout) (isLenient : Bool) (package : Package) : Letter :=
  { path := package.path, layout, isLenient, recorded := [], package, rawContent := none,
    rawStyles := none, content := none, styles := none, pictures := [], enclosures := [] }

/-- A letter with another styles part. -/
def withStyles (part : Part) (letter : Letter) : Letter := { letter with styles := some part }

/-- A letter with another content part. -/
def withContent (part : Part) (letter : Letter) : Letter := { letter with content := some part }

/-- A letter with nothing registered. -/
def bare (letter : Letter) : Letter := { letter with pictures := [], enclosures := [] }

/-- The written form of a letter. -/
def shown (letter : Letter) : String :=
  "<" ++ letter.layout.label ++ " " ++ letter.path.toString ++ ">"

/-- True when the package holds the compiled parts. -/
def isCompiled (letter : Letter) : Bool := letter.package.has letter.layout.sourceDirectory

/-- What the kind of a letter is called in full. -/
def kind (letter : Letter) : String :=
  if letter.layout.label == "Template" then "documatic.opendocument.template.Template"
  else "__main__." ++ letter.layout.label

/-- What the kind of the path of a letter is called in full. -/
def pathKind : String := "pathlib.PosixPath"

/-- The value by which template code knows a letter. -/
def value (letter : Letter) (id : Nat) : Value := .object id letter.kind

/-- The methods of letters that template code can call. -/
def methods : List String := ["add_image", "add_partial", "body"]

/-- What template code sees under a name of a path. -/
def pathMember? (path : Path) (name : String) : Option Sight :=
  let (stem, suffix) := Path.splitName path.name.toList
  match name with
  | "name" => some (.value (.ofString path.name))
  | "stem" => some (.value (.plain stem))
  | "suffix" => some (.value (.plain suffix))
  | _ => none

end Letter

/-- All letters and files. -/
structure Workspace where
  files : Files
  letters : Array Letter

namespace Workspace

/-- A letter, by its number. -/
def letter (workspace : Workspace) (id : Nat) : Letter := workspace.letters[id]?.getD default

/-- The value of an enclosure. -/
def enclosureValue (workspace : Workspace) : Enclosure → Value
  | .letter id => (workspace.letter id).value id
  | .other shown => .ofString shown

/-- What template code sees under a name of a letter. -/
def letterMember? (workspace : Workspace) (id : Nat) (name : String) : Option Sight :=
  let letter := workspace.letter id
  let layout := letter.layout
  let text (s : String) : Option Sight := some (.value (.ofString s))
  match name with
  | "filename" => some (.value (.object id Letter.pathKind))
  | "compiled" => some (.value (.bool letter.isCompiled))
  | "images" => some <| .table <| letter.pictures.map fun (name, path) =>
      (name, .ofString path.toString)
  | "partials" => some <| .table <| letter.enclosures.map fun (name, enclosure) =>
      (name, workspace.enclosureValue enclosure)
  | "CONTENT_PART" => text layout.contentPart
  | "STYLES_PART" => text layout.stylesPart
  | "MANIFEST_PART" => text layout.manifestPart
  | "MASTER_DIR" => text layout.sourceDirectory
  | "CONTENT_SOURCE" => text layout.contentSource
  | "STYLES_SOURCE" => text layout.stylesSource
  | "PICTURES_DIR" => text layout.pictureDirectory
  | _ =>
    if Letter.methods.contains name then some (.value (.method (letter.value id) name)) else none

instance : World Workspace where
  outlook workspace :=
    { shown := fun id kind =>
        let letter := workspace.letter id
        if kind == Letter.pathKind then letter.path.toString else letter.shown
      member? := fun id kind name =>
        if kind == Letter.pathKind then Letter.pathMember? (workspace.letter id).path name
        else workspace.letterMember? id name }

end Workspace

end FormLetter
