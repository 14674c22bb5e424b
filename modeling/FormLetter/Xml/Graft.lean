import FormLetter.Xml.Namespace
import FormLetter.Xml.Printer

/-!
# Moving elements between documents

An element that leaves its document takes the declarations of its names along. Where it arrives, it
gives up those of its declarations whose namespaces are known there already, and its names take the
qualifiers by which they are known there. What the names mean never changes, only how they are
written.
-/

namespace FormLetter.Xml

/-- The qualifier under which a namespace is known in a scope, which lists its declarations from the
inside out. A declaration counts only where no other one hides it. -/
def knownAs? (scope : List Declaration) (uri : String) (isUsable : Declaration → Bool) :
    Option (Option String) :=
  (scope.find? fun declaration =>
    declaration.uri == uri && isUsable declaration
      && boundTo? scope declaration.qualifier == some uri).map (·.qualifier)

/-! ## Leaving a document -/

/-- The declaration that a name needs, unless its qualifier is among the given ones. -/
def neededBy? (declared : List Declaration) (name : Name) : Option Declaration :=
  match name.uri with
  | none => none
  | some uri =>
    if uri == xmlNamespace || declared.any (·.qualifier == name.qualifier) then none
    else some ⟨name.qualifier, uri⟩

/-- Adds the declarations that the names of a tag need. -/
def addNeeded (inner added : List Declaration) (tag : Tag) : List Declaration :=
  (tag.name :: tag.attributes.map (·.name)).foldl (fun added name =>
    added ++ (neededBy? (inner ++ added) name).toList) added

mutual

/-- Adds the declarations that a node needs and that are not made inside of it. `inner` are those
that are made between the moved element and the node. -/
def needsOf (inner added : List Declaration) : Node → List Declaration
  | .element tag content =>
    let inner := tag.declarations ++ inner
    needsOfAll inner (addNeeded inner added tag) content
  | _ => added

/-- Adds the declarations that several nodes need. -/
def needsOfAll (inner added : List Declaration) : List Node → List Declaration
  | [] => added
  | first :: rest => needsOfAll inner (needsOf inner added first) rest

end

/-- An element that makes all declarations that it needs. -/
def selfContained (tag : Tag) (content : List Node) : Node :=
  .element { tag with
    declarations := tag.declarations ++ needsOf [] [] (.element tag content) } content

/-- A qualifier that nothing is bound to. Qualifiers are made by number, and none is made twice in a
document; so the number of those that were made so far is counted. -/
def freshQualifier (scope : List Declaration) : StateM Nat String := do
  let made ← get
  let numbers := (List.range (scope.length + 1)).map (made + ·)
  let isFree (n : Nat) : Bool := (boundTo? scope (some ("ns" ++ toString n))).isNone
  let number := (numbers.find? isFree).getD made
  set (number + 1)
  return "ns" ++ toString number

/-! ## Arriving in a document -/

/-- How qualifiers are replaced: the old one and the new one, the innermost first. -/
abbrev Renaming := List (Option String × Option String)

/-- The declarations that a tag keeps, and how it renames qualifiers. -/
def settle (scope : List Declaration) (tag : Tag) : List Declaration × Renaming :=
  tag.declarations.foldl (fun (kept, renames) declaration =>
    match knownAs? scope declaration.uri fun _ => true with
    | some known => (kept, (declaration.qualifier, known) :: renames)
    | none => (kept ++ [declaration], (declaration.qualifier, declaration.qualifier) :: renames))
    ([], [])

/-- The name of an element under its new qualifier. -/
def renameElement (renames : Renaming) (name : Name) : Name :=
  match name.uri, renames.lookup name.qualifier with
  | some _, some qualifier => { name with qualifier }
  | _, _ => name

/-- A move of elements into a document: the declarations that the element which is moved makes in
addition, on top of the number of qualifiers that were made for the document. -/
abbrev Move := StateT (List Declaration) (StateM Nat)

/-- The name of an attribute under its new qualifier. It needs one to be in a namespace at all;
where there is none, one is declared at the moved element. `outermost` is the scope of that element. -/
def renameAttribute (renames : Renaming) (outermost : List Declaration) (name : Name) :
    Move Name := do
  match name.uri, renames.lookup name.qualifier with
  | some uri, some none => do
    let scope := (← get) ++ outermost
    match knownAs? scope uri fun declaration => declaration.qualifier.isSome with
    | some qualifier => return { name with qualifier }
    | none => do
      let isFree := name.qualifier.isSome && (boundTo? scope name.qualifier).isNone
      let qualifier ←
        if isFree then pure (name.qualifier.getD "") else liftM (freshQualifier scope)
      modify (· ++ [⟨some qualifier, uri⟩])
      return { name with qualifier := some qualifier }
  | some _, some qualifier => return { name with qualifier }
  | _, _ => return name

mutual

/-- A node as it is written in a scope. -/
def adoptNode (outermost scope : List Declaration) (renames : Renaming) :
    Node → Move Node
  | .element tag content => do
    let (kept, more) := settle scope tag
    let renames := more ++ renames
    let attributes ← tag.attributes.mapM fun given => do
      return { given with name := ← renameAttribute renames outermost given.name }
    let content ← adoptNodes outermost (kept ++ scope) renames content
    return .element ⟨renameElement renames tag.name, kept, attributes⟩ content
  | other => return other

/-- Several nodes as they are written in a scope. -/
def adoptNodes (outermost scope : List Declaration) (renames : Renaming) :
    List Node → Move (List Node)
  | [] => return []
  | first :: rest => do
    let first ← adoptNode outermost scope renames first
    return first :: (← adoptNodes outermost scope renames rest)

end

/-- An element that makes all its declarations, as it is written in a scope. -/
def adopt (scope : List Declaration) (node : Node) : StateM Nat Node := do
  match node with
  | .element tag _ =>
    let outermost := (settle scope tag).1 ++ scope
    match ← (adoptNode outermost scope [] node).run [] with
    | (.element tag content, added) =>
      return .element { tag with declarations := tag.declarations ++ added } content
    | (other, _) => return other
  | other => return other

/-- The name for a new element or attribute in a scope, and the declaration that it needs. -/
def newName (scope : List Declaration) (isAttribute : Bool) (uri base : String) :
    StateM Nat (Name × Option Declaration) := do
  match knownAs? scope uri fun declaration => !isAttribute || declaration.qualifier.isSome with
  | some qualifier => return (⟨qualifier, some uri, base⟩, none)
  | none => do
    let qualifier := some (← freshQualifier scope)
    return (⟨qualifier, some uri, base⟩, some ⟨qualifier, uri⟩)

/-! ## Standing alone -/

/-- An element as a document of its own: it makes its own declarations, those that its names need
and all that are made around it, from the inside out. -/
def standAlone (around : List Tag) (tag : Tag) (content : List Node) : Node :=
  let own := tag.declarations ++ addNeeded tag.declarations [] tag
  let all := (around.flatMap (·.declarations)).foldl (fun declared declaration =>
    if declared.any (·.qualifier == declaration.qualifier) then declared
    else declared ++ [declaration]) own
  .element { tag with declarations := all } content

end FormLetter.Xml
