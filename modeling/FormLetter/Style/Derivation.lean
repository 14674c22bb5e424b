import FormLetter.Log
import FormLetter.Style.Role
import FormLetter.Xml.Tree

/-!
# Derivation of styles

A style takes the role of the style that it is derived from. The declarations of a part are gone
through in rounds until a round finds no more: a declared style without a mark takes the mark of
its parent when the parent has one. Marks that are there already are never replaced, so what a
style was first found to be holds, and a circle of styles that reaches no mark gets none.
-/

namespace FormLetter.Style

open FormLetter.Xml

/-- The namespace of styles. -/
def styleNamespace : String := "urn:oasis:names:tc:opendocument:xmlns:style:1.0"

/-- A style and the style that it is derived from. -/
structure Derivation where
  name : String
  parent : String
  deriving DecidableEq, Repr

/-- What a tag declares: a style with a name and a parent, both of them not empty. -/
def Derivation.ofTag? (tag : Tag) : Option Derivation :=
  if tag.name.is styleNamespace "style" then
    match tag.attribute? styleNamespace "name",
      tag.attribute? styleNamespace "parent-style-name" with
    | some name, some parent =>
      if name.isEmpty || parent.isEmpty then none else some ⟨name, parent⟩
    | _, _ => none
  else none

mutual

/-- The declarations of a node and of all that it holds, in document order. -/
def derivationsOf : Node → List Derivation
  | .element tag content => (Derivation.ofTag? tag).toList ++ derivations content
  | _ => []

/-- The declarations of a content, in document order. -/
def derivations : List Node → List Derivation
  | [] => []
  | node :: rest => derivationsOf node ++ derivations rest

end

/-- One round through the declarations: the table with the marks that were found, the declarations
whose parent has no mark yet, and whether a mark was found. -/
def deriveOnce (table : Table) : List Derivation → Table × List Derivation × Bool
  | [] => (table, [], false)
  | derivation :: rest =>
    match table.find? derivation.parent with
    | none =>
      let (table, pending, found) := deriveOnce table rest
      (table, derivation :: pending, found)
    | some mark =>
      if (table.find? derivation.name).isSome then deriveOnce table rest
      else
        let (table, pending, _) := deriveOnce (table.insert derivation.name mark) rest
        (table, pending, true)

/-- A round keeps no declarations but those it was given. -/
theorem deriveOnce_length_le (table : Table) (pending : List Derivation) :
    (deriveOnce table pending).2.1.length ≤ pending.length := by
  induction pending generalizing table with
  | nil => simp [deriveOnce]
  | cons derivation rest ih =>
    simp only [deriveOnce]
    split
    · exact Nat.succ_le_succ (ih table)
    · split
      · exact Nat.le_succ_of_le (ih table)
      · exact Nat.le_succ_of_le (ih _)

/-- A round that finds a mark drops the declaration that gave it. -/
theorem deriveOnce_length_lt (table : Table) (pending : List Derivation)
    (found : (deriveOnce table pending).2.2 = true) :
    (deriveOnce table pending).2.1.length < pending.length := by
  induction pending generalizing table with
  | nil => simp [deriveOnce] at found
  | cons derivation rest ih =>
    simp only [deriveOnce] at found ⊢
    split
    · rename_i unmarked
      simp only [unmarked] at found
      exact Nat.succ_lt_succ (ih table found)
    · rename_i mark marked
      simp only [marked] at found
      split
      · rename_i known
        simp only [known, ↓reduceIte] at found
        exact Nat.lt_succ_of_lt (ih table found)
      · exact Nat.lt_succ_of_le (deriveOnce_length_le _ rest)

/-- Goes through the declarations until a round finds no mark. -/
def derive (table : Table) (pending : List Derivation) : Table :=
  let round := deriveOnce table pending
  if _ : round.2.2 = true then derive round.1 round.2.1 else round.1
termination_by pending.length
decreasing_by exact deriveOnce_length_lt table pending (by assumption)

/-- The table from which a part starts: the reserved styles, and over them the marks found in
another part. -/
def Table.base (reserved : Table) (seed : Table) : Table :=
  reserved.update seed

/-- The marks of the styles of a part. -/
def classify (reserved seed : Table) (document : Document) : Table :=
  derive (Table.base reserved seed) (derivationsOf (.element document.root document.content))

/-- The log line about a classified part. -/
def classifyNotice (table : Table) : Log.Line :=
  ⟨.debug, .styles, "Classified " ++ toString table.length ++ " template styles"⟩

end FormLetter.Style
