import FormLetter.Letter.Work
import FormLetter.Markup.Compile
import FormLetter.Xml.Indent

/-!
# Compiling a letter

Both parts of a letter are indented and compiled, and the sources are kept in the package. The
styles of the styles part hold for the content, too, where it declares no others.
-/

namespace FormLetter

open FormLetter.Script

/-- The compiled parts of a letter, and what was reported. -/
structure Sources where
  content : List Char
  styles : List Char
  log : List Log.Line

namespace Sources

/-- Compiles the indented parts of a letter. -/
def ofParts (reserved : Style.Table) (styles content : List Char) : Except Fault Sources := do
  let styleTable := Style.classify reserved [] (← Part.readRendered styles)
  let contentTable := Style.classify reserved styleTable (← Part.readRendered content)
  let styles := Markup.compile styleTable styles
  let content := Markup.compile contentTable content
  .ok ⟨content.source, styles.source,
    [Style.classifyNotice styleTable, Style.classifyNotice contentTable]
      ++ styles.log ++ content.log⟩

/-- Keeps compiled parts in a package. -/
def keep (sources : Sources) (layout : Layout) (package : Package) : Package :=
  ((package.makeDirectory layout.sourceDirectory).writeText layout.contentSource
    (String.ofList sources.content)).writeText layout.stylesSource (String.ofList sources.styles)

end Sources

namespace Work

/-- The indented text of a part. -/
def indented (bytes : ByteArray) : Except Fault (List Char) :=
  match Xml.pretty bytes with
  | .ok text => .ok text
  | .error malformed => .error (.malformed malformed.line)

/-- Compiles a letter. -/
def compile (id : Nat) : Work Sources := do
  let before ← letter id
  let layout := before.layout
  let styles ← indented (← before.package.read layout.stylesPart)
  change id fun letter => { letter with rawStyles := some styles }
  let content ← indented (← before.package.read layout.contentPart)
  change id fun letter => { letter with rawContent := some content }
  let sources ← Sources.ofParts layout.reserved styles content
  sources.log.forM fun line => report line.level line.source line.message
  changePackage id (sources.keep layout)
  report .debug .document ("Compiled " ++ (← nameOf id))
  return sources

/-- Compiles a letter whose package does not hold its compiled parts. -/
def compileOnce (id : Nat) : Work Unit := do
  if !(← letter id).isCompiled then discard <| compile id

/-- A compiled part of a letter. -/
def source (id : Nat) (name : String) : Work (List Char) := do
  return (← (← letter id).package.readText name).toList

/-- The names that the surroundings of a letter bind. -/
def boundNames : List String := ["data", "options", "ctx", "template", "master"]

/-- The names that the code of a letter uses and that nothing binds. -/
def undeclared (id : Nat) : Work (List String) := do
  compileOnce id
  let layout := (← letter id).layout
  let names ← [layout.stylesSource, layout.contentSource].mapM fun name => do
    (Part.ofSource name (← source id name)).undeclared
  return names.flatten.eraseDups.filter (!boundNames.contains ·)

end Work

end FormLetter
