import FormLetter.Xml.Character
import FormLetter.Xml.Tree

/-!
# Namespaces

How qualifiers are bound to namespaces, and how the names of a tag find theirs. Breaking the rules
of namespaces does not end the reading of a document: it gives a notice, and the document is
refused at its end, unless the last notice of all is a mere warning.
-/

namespace FormLetter.Xml

/-- What is noticed about namespaces. -/
inductive Notice where
  | error
  | warning
  deriving DecidableEq, Repr

/-- The namespace of the qualifier `xml`, which is always bound. -/
def xmlNamespace : String := "http://www.w3.org/XML/1998/namespace"

/-- The namespace of declarations themselves. No qualifier may be bound to it. -/
def declarationNamespace : String := "http://www.w3.org/2000/xmlns/"

/-! ## Namespace names -/

/-- True for a character that an identifier of a resource may hold outside of an escape. -/
def isResourceChar (c : Char) : Bool :=
  c.isAlphanum || "-._~!$&'()*+,;=:@/?[]".toList.contains c

/-- True when every escape of a text has two digits and all else are characters of identifiers. -/
def isResourceText : List Char → Bool
  | [] => true
  | '%' :: a :: b :: rest =>
    (a.isDigit || "abcdefABCDEF".toList.contains a)
      && (b.isDigit || "abcdefABCDEF".toList.contains b) && isResourceText rest
  | c :: rest => isResourceChar c && isResourceText rest

/-- True when an identifier begins with a scheme. -/
def hasScheme (text : List Char) : Bool :=
  match text with
  | c :: rest =>
    let scheme := rest.takeWhile fun c => c.isAlphanum || c == '+' || c == '-' || c == '.'
    c.isAlpha && (rest.drop scheme.length).head? == some ':'
  | [] => false

/-- True for an identifier of a resource. It has one fragment at most, brackets stand around a host
only, and a relative one has no colon in its first step. -/
def isResource (text : List Char) : Bool :=
  let body := text.takeWhile (· != '#')
  let fragment := (text.drop body.length).drop 1
  let firstStep := body.takeWhile fun c => c != '/' && c != '?'
  isResourceText body && isResourceText fragment
    && (hasScheme text || !firstStep.contains ':')
    && (!text.contains '[' && !text.contains ']' || (text.zip (text.drop 1)).contains ('/', '/'))

/-! ## Qualified names -/

/-- The qualifier and the base of a written name, and whether it has at most one colon, with
something on both sides. What comes after the colon must be able to begin a name. -/
def splitName (written : String) : Option String × String × Bool :=
  let text := written.toList
  let first := text.takeWhile (· != ':')
  match text.drop first.length with
  | [] => (none, written, true)
  | _ :: base =>
    match first, base with
    | [], _ => (none, written, false)
    | _, [] => (none, written, false)
    | _, c :: _ =>
      if c != ':' && isNameStart c then
        (some (String.ofList first), String.ofList base, !base.contains ':')
      else (none, written, false)

/-- The declaration of an attribute that is one, with what is noticed about it. A declaration that
breaks a rule about qualifiers binds nothing. -/
def declare (qualifier : Option String) (uri : String) : Option Declaration × List Notice :=
  match qualifier with
  | none =>
    if uri == xmlNamespace || uri == declarationNamespace then (none, [.error])
    else if uri.isEmpty then (some ⟨none, uri⟩, [])
    else if !isResource uri.toList then (some ⟨none, uri⟩, [.error])
    else if !hasScheme uri.toList then (some ⟨none, uri⟩, [.warning])
    else (some ⟨none, uri⟩, [])
  | some qualifier =>
    if qualifier == "xml" then (none, if uri == xmlNamespace then [] else [.error])
    else if uri == xmlNamespace || uri == declarationNamespace || qualifier == "xmlns"
        || uri.isEmpty then
      (none, [.error])
    else (some ⟨some qualifier, uri⟩, if isResource uri.toList then [] else [.error])

/-- The qualifier that an attribute declares, if it is a declaration. -/
def declaredQualifier? (written : String) : Option (Option String) :=
  if written == "xmlns" then some none
  else
    match splitName written with
    | (some "xmlns", base, _) => some (some base)
    | _ => none

/-- What is noticed about how a name is written. -/
def nameNotices (written : String) : List Notice :=
  if (splitName written).2.2 then [] else [.error]

/-- The declaration that an attribute is, if it is one, with what is noticed about it. -/
def declaration? (written value : String) : Option (Option Declaration × List Notice) :=
  (declaredQualifier? written).map fun qualifier =>
    let (declaration, notices) := declare qualifier value
    (declaration, nameNotices written ++ notices)

/-! ## Finding namespaces -/

/-- The namespace of a qualifier, given the declarations in scope, the innermost first. -/
def boundTo? (scope : List Declaration) (qualifier : Option String) : Option String :=
  if qualifier == some "xml" then some xmlNamespace
  else (scope.find? fun declaration => declaration.qualifier == qualifier).map (·.uri)

/-- The name of an element. Without a qualifier it belongs to the namespace that is bound for such
names. A qualifier that is not bound stays a part of the name. -/
def elementName (scope : List Declaration) (written : String) : Name × List Notice :=
  let (qualifier, base, isWell) := splitName written
  let notices := if isWell then [] else [Notice.error]
  match qualifier, boundTo? scope qualifier with
  | none, some uri => (⟨none, if uri.isEmpty then none else some uri, base⟩, notices)
  | none, none => (⟨none, none, base⟩, notices)
  | some _, some uri => (⟨qualifier, some uri, base⟩, notices)
  | some _, none => (⟨none, none, written⟩, notices ++ [.error])

/-- The name of an attribute. Without a qualifier it belongs to no namespace. -/
def attributeName (scope : List Declaration) (written : String) : Name × List Notice :=
  match splitName written with
  | (none, base, isWell) => (⟨none, none, base⟩, if isWell then [] else [.error])
  | _ => elementName scope written

/-- True for a name without a colon. -/
def isPlainName (text : List Char) : Bool :=
  match text with
  | c :: rest => isNameStart c && rest.all isNameRest && !text.contains ':'
  | [] => false

/-- What is noticed about the value of an attribute: an identifier of an element is a name. -/
def valueNotices (given : Attribute) : List Notice :=
  if given.name.is xmlNamespace "id" && !isPlainName given.value.toList then [.error] else []

/-- The declarations among the attributes of a tag, with what is noticed about each. -/
def declarationsIn (attributes : List (String × String)) : List (Option Declaration × List Notice) :=
  attributes.filterMap fun given => declaration? given.1 given.2

/-- The attributes of a tag that are no declarations. -/
def plainIn (attributes : List (String × String)) : List (String × String) :=
  attributes.filter fun given => (declaredQualifier? given.1).isNone

/-- An attribute whose name has found its namespace, with what is noticed about the name. -/
def resolveAttribute (scope : List Declaration) (given : String × String) :
    Attribute × List Notice :=
  let (name, notices) := attributeName scope given.1
  (⟨name, given.2⟩, notices)

/-- The tag of an element with the attributes as they were written, and what is noticed about it.
The scope holds the declarations around the element. -/
def resolveTag (scope : List Declaration) (written : String)
    (attributes : List (String × String)) : Tag × List Notice :=
  let declared := declarationsIn attributes
  let declarations := declared.filterMap (·.1)
  let scope := declarations.reverse ++ scope
  let named := (plainIn attributes).map (resolveAttribute scope)
  let (name, notices) := elementName scope written
  let attributes := named.map (·.1)
  let keys := attributes.map fun given => (given.name.uri, given.name.base)
  (⟨name, declarations, attributes⟩,
    declared.flatMap (·.2) ++ notices ++ named.flatMap (·.2) ++ attributes.flatMap valueNotices
      ++ if keys.eraseDups.length == keys.length then [] else [.error])

end FormLetter.Xml
