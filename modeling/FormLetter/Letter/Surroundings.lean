import FormLetter.Letter.Process

/-!
# What template code can call

The surroundings of a letter let its code register pictures and enclose other letters. A picture can
be shown by a frame, whose markup is made from escaped values. An enclosed letter is rendered with
the same master, closed again, and gives the markup of its body. Letters may enclose each other to a
limited depth.
-/

namespace FormLetter.Work

open FormLetter.Script

/-- How a letter is rendered, as far as the code of another one is concerned. -/
abbrev Renderer := Nat → Occasion → Work Unit

/-- The surroundings of a letter that is being rendered. -/
structure Surroundings where
  template : Nat
  occasion : Occasion

namespace Surroundings

/-- The letter that a value is. -/
def letterOf : Value → Nat
  | .object id _ => id
  | _ => 0

/-- Reads surroundings from their fields. -/
def ofFields (fields : List (String × Value)) : Surroundings :=
  let field (name : String) : Value := (fields.lookup name).getD .none
  { template := letterOf (field "template")
    occasion :=
      { master := letterOf (field "master"), data := field "data", options := field "options" } }

end Surroundings

/-- The path that a value is. -/
def pathArgument (value : Value) : Work Path := do
  match value with
  | .text content _ => return .ofString (String.ofList content)
  | .object id kind =>
    if kind == Letter.pathKind then return (← letter id).path
    else kindTrouble (.notPath (← kindOf value))
  | other => kindTrouble (.notPath (← kindOf other))

/-- Binds the parameters of a method, which always gets its subject. -/
def bindMethod (kind name : String) (given : Given) (parameters : List Parameter) :
    Work (List Value) :=
  bindParameters (kind ++ "." ++ name) given parameters 1

/-- What is enclosed when a value is. -/
def enclosureOf (enclosed : Value) : Work Enclosure := do
  match enclosed with
  | .object other kind =>
    if kind == Letter.pathKind then return .other (← letter other).path.toString
    else return .letter other
  | value => return .other (String.ofList (← quoteValue value))

/-- Registers something with a letter as enclosed. -/
def addEnclosure (id : Nat) (key : String) (enclosed : Value) : Work Unit := do
  let enclosure ← enclosureOf enclosed
  change id fun letter =>
    { letter with enclosures := Keyed.put key enclosure letter.enclosures }

/-- The markup of a frame that shows a picture as if it were a character. -/
def frame (name width height target : List Char) : List Char :=
  "<draw:frame draw:name=\"".toList ++ name
    ++ "\" text:anchor-type=\"as-char\" svg:width=\"".toList ++ width
    ++ "\" svg:height=\"".toList ++ height
    ++ "\" draw:z-index=\"0\"><draw:image xlink:href=\"".toList ++ target
    ++ ("\" xlink:type=\"simple\" xlink:show=\"embed\" xlink:actuate=\"onLoad\"/>"
      ++ "</draw:frame>").toList

/-- Registers a picture with a letter, and gives the markup that shows it. -/
def showPicture (id : Nat) (path width height name : Value) : Work Value := do
  let file ← addPicture id (← pathArgument path)
  let target := (← letter id).layout.pictureDirectory ++ "/" ++ file
  let name := if ← isTrue name then name else .ofString file
  let name ← escaped name
  let width ← escaped width
  let height ← escaped height
  return .plain (frame name width height (Text.Escape.encode target.toList))

/-- Renders another letter inside of one, and gives its body. -/
def enclose (render : Renderer) (around : Surroundings) (path data : Value) : Work Value := do
  let master := around.occasion.master
  let id ← openAt (← letter master).layout (← pathArgument path)
  report .debug .context
    ("Rendering partial " ++ (← nameOf id) ++ " for " ++ (← nameOf master))
  let data := match data with
    | .none => around.occasion.data
    | given => given
  afterwards (render id { around.occasion with data }) (close id)
  addEnclosure master (String.ofList (← textOf path)) ((← letter id).value id)
  return .plain (← body id)

/-- A method of the surroundings of a letter. -/
def surroundingsMethod (render : Renderer) (around : Surroundings) (name : String)
    (given : Given) : Work Value := do
  let master := around.occasion.master
  let bind := bindMethod "RenderContext" name given
  match name with
  | "add_image" => do
    match ← bind [required "path"] with
    | [path] => return .ofString (← addPicture master (← pathArgument path))
    | _ => return .none
  | "add_partial" => do
    match ← bind [required "key", required "partial"] with
    | [key, enclosed] => do
      addEnclosure master (String.ofList (← textOf key)) enclosed
      return .none
    | _ => return .none
  | "image" => do
    match ← bind [required "path", required "width", required "height", optional "name"] with
    | [path, width, height, name] => showPicture master path width height name
    | _ => return .none
  | "partial" => do
    match ← bind [required "path", optional "data"] with
    | [path, data] => enclose render around path data
    | _ => return .none
  | _ => do
    discard <| bind []
    let bound ← bindings around.template around.occasion
    newDict (bound.map fun (name, value) => (.ofString name, value))

/-- A method of a letter. -/
def letterMethod (id : Nat) (name : String) (given : Given) : Work Value := do
  let bind := bindMethod "Template" name given
  match name with
  | "add_image" => do
    match ← bind [required "full_path"] with
    | [path] => return .ofString (← addPicture id (← pathArgument path))
    | _ => return .none
  | "add_partial" => do
    match ← bind [required "key", required "partial"] with
    | [key, enclosed] => do
      addEnclosure id (String.ofList (← textOf key)) enclosed
      return .none
    | _ => return .none
  | _ => do
    discard <| bind []
    return .plain (← body id)

/-- How the methods are called, while letters may enclose each other so deep. -/
def hostWithin : Nat → Host Workspace
  | 0 => fun _ _ _ => trouble .recursion
  | depth + 1 => fun subject name given => do
    match subject with
    | .record .context place => do
      match ← surroundingsAt? place with
      | some fields =>
        surroundingsMethod (processWith (hostWithin depth)) (.ofFields fields) name given
      | none => Host.none subject name given
    | .object id _ => letterMethod id name given
    | other => Host.none other name given

/-- How deep letters may enclose each other. -/
def enclosureLimit : Nat := 100

/-- Renders a letter. -/
def process (id : Nat) (occasion : Occasion) : Work Unit :=
  processWith (hostWithin enclosureLimit) id occasion

end FormLetter.Work
