import FormLetter.Proofs.Markup.Balance
import FormLetter.Proofs.Markup.Order
import FormLetter.Proofs.Markup.Recut
import FormLetter.Xml.Character

/-!
# Compiling keeps a document well nested

A part in its written form consists of whole pieces, and its tags are well nested as XML reads them.
What compiling writes is, without the directives, such a part again. The compiler ends the name of a
tag at any white space, XML only at the four characters that it counts as such, and one other white
space may stand in a name: where a name holds it, another element can be taken for a span.
-/

namespace FormLetter.Markup

open FormLetter.Style

/-- The bracket that a piece of markup is in XML. -/
def xmlBracketOf (text : List Char) : Bracket :=
  bracketBy Xml.isSpace text

/-- A part in the form in which documents are written. -/
structure IsWritten (part : List Char) : Prop where
  whole : ∀ piece ∈ cut part, isWhole piece = true
  nested : walkBy xmlBracketOf [] (cut part) = some []

instance (part : List Char) : Decidable (IsWritten part) :=
  decidable_of_iff
    ((∀ piece ∈ cut part, isWhole piece = true) ∧ walkBy xmlBracketOf [] (cut part) = some [])
    ⟨fun both => ⟨both.1, both.2⟩, fun written => ⟨written.whole, written.nested⟩⟩

/-- No tag of a part has a name with white space that ends it for the compiler but not in XML. -/
def NamesAgree (part : List Char) : Prop :=
  ∀ piece ∈ cut part, xmlBracketOf piece = bracketOf piece

instance (part : List Char) : Decidable (NamesAgree part) :=
  inferInstanceAs (Decidable (∀ piece ∈ cut part, xmlBracketOf piece = bracketOf piece))

/-- What compiling writes for a part, without the directives. -/
def withoutDirectives (styles : Table) (part : List Char) : List Char :=
  Token.join ((layout styles part).flatMap Place.erased)

/-- Readings that agree on every piece walk alike. -/
theorem walkBy_congr {read other : List Char → Bracket} {texts : List (List Char)}
    (same : ∀ text ∈ texts, read text = other text) (opened : List (List Char)) :
    walkBy read opened texts = walkBy other opened texts := by
  induction texts generalizing opened with
  | nil => rfl
  | cons text rest inductionHypothesis =>
    rw [walkBy, walkBy, same text List.mem_cons_self]
    congr 1
    funext after
    exact inductionHypothesis (fun piece member => same piece (List.mem_cons_of_mem text member))
      after

theorem tokenize_texts (part : List Char) : (tokenize part).map Token.text = cut part := by
  rw [tokenize, List.map_map]
  exact List.map_id _

/-- A match leaves tokens of its own. -/
theorem Match.erased_subset (found : Match) : (Piece.matched found).erased ⊆ found.tokens := by
  cases isMark : found.mark with
  | unknown label =>
    rw [found.erased_of_unknown isMark]
    exact List.Subset.refl _
  | role role =>
    rw [found.erased_of_role isMark]
    intro token member
    have inGroups := found.written_sublist.subset member
    simp only [Match.tokens, List.mem_append] at inGroups ⊢
    exact inGroups.elim (fun inLead => Or.inl (Or.inl inLead)) Or.inr

/-- Every token that is left of a part is one of its tokens. -/
theorem layout_erased_subset (styles : Table) (part : List Char) :
    (layout styles part).flatMap Place.erased ⊆ tokenize part := by
  rw [layout_erased, ← pieces_tokens styles part]
  intro token member
  obtain ⟨piece, isPiece, inPiece⟩ := List.mem_flatMap.mp member
  refine List.mem_flatMap.mpr ⟨piece, isPiece, ?_⟩
  cases piece with
  | copied tokens =>
    rw [Piece.erased, Piece.layout, flatMap_erased_plain] at inPiece
    exact inPiece
  | matched found => exact found.erased_subset inPiece

/-- A place is written as a directive, which is erased, or as the tokens that are left of it. -/
theorem Place.write_cases (place : Place) :
    (∃ run role, place = .run run (.role role) ∧ place.write = directive role run.code ∧
        place.erased = []) ∨
      place.write = Token.join place.erased := by
  cases place with
  | run here mark =>
    cases mark with
    | role role => exact Or.inl ⟨here, role, rfl, rfl, rfl⟩
    | unknown label => exact Or.inr rfl
  | plain token => exact Or.inr (by simp [write, erased])

/-- Compiling a written part gives, without the directives, a written part.

The source is the writing of the layout, and each place of the layout is written as a directive or
as tokens that stay when directives are erased. The text that stays is cut into whole pieces, and
its tags are well nested. The names of tags must be the same in XML and to the compiler: then the
groups around a run say what they open and close, and the layout is well nested because every match
leaves what opens and closes the same elements. -/
theorem compile_keeps_nesting (styles : Table) (part : List Char) (written : IsWritten part)
    (alike : NamesAgree part) :
    (compile styles part).source = (layout styles part).flatMap Place.write ∧
      (∀ place ∈ layout styles part,
        (∃ run role, place = .run run (.role role) ∧ place.write = directive role run.code ∧
            place.erased = []) ∨
          place.write = Token.join place.erased) ∧
      IsWritten (withoutDirectives styles part) := by
  have nested : WellNested (tokenize part) := by
    have same := walkBy_congr alike []
    rw [written.nested] at same
    rw [WellNested, walk, tokenize_texts]
    exact same.symm
  have left := wellNested_layout styles nested
  have texts : ∀ text ∈ ((layout styles part).flatMap Place.erased).map Token.text,
      text ∈ cut part := by
    intro text member
    obtain ⟨token, inLayout, rfl⟩ := List.mem_map.mp member
    rw [← tokenize_texts]
    exact List.mem_map_of_mem (layout_erased_subset styles part inLayout)
  have whole : ∀ text ∈ ((layout styles part).flatMap Place.erased).map Token.text,
      isWhole text = true := fun text member => written.whole text (texts text member)
  have joined : withoutDirectives styles part =
      [] ++ (((layout styles part).flatMap Place.erased).map Token.text).flatten := by
    rw [withoutDirectives, Token.join, List.flatMap_def, List.nil_append]
  have pieces := cut_flatten_whole whole List.not_mem_nil
  rw [← joined] at pieces
  refine ⟨compile_source styles part, fun place _ => place.write_cases, ?_, ?_⟩
  · rw [pieces]
    exact isWhole_mergeTexts whole List.not_mem_nil
  · rw [pieces]
    change walkBy (bracketBy Xml.isSpace) [] _ = some []
    rw [walkBy_mergeTexts _ _ _ (by simp)]
    exact (walkBy_congr (fun text member => alike text (texts text member)) []).trans left

/-- A row with a covered cell around one statement, and an output that touches a span. -/
def rowAndSpan : List Char :=
  ["<table:table-row>", "<table:table-cell>", "\n", "<text:p>",
    "<text:span text:style-name=\"C\">", "if x", "</text:span>", "</text:p>", "</table:table-cell>",
    "<table:covered-table-cell/>", "</table:table-row>", "<text:p>", "<text:span>", "a",
    "</text:span>", "<text:span text:style-name=\"V\">", "x", "</text:span>",
    "</text:p>"].flatMap String.toList

/-- What is left of `rowAndSpan` is written. -/
theorem compile_keeps_nesting_rowAndSpan :
    IsWritten rowAndSpan ∧ NamesAgree rowAndSpan ∧
      withoutDirectives [("C", .role .code), ("V", .role .value)] rowAndSpan =
        ["<text:p>", "<text:span>", "a", "</text:span>", "</text:p>"].flatMap String.toList ∧
      IsWritten (withoutDirectives [("C", .role .code), ("V", .role .value)] rowAndSpan) := by
  have written : IsWritten rowAndSpan := by decide +kernel
  have alike : NamesAgree rowAndSpan := by decide +kernel
  exact ⟨written, alike, by decide +kernel, (compile_keeps_nesting _ _ written alike).2.2⟩

/-- Two neighbours of one statement: a span, and an element whose name goes on with white space that
XML does not count as such. -/
def foreignNeighbour : List Char :=
  ["<?xml version='1.0' encoding='UTF-8'?>", "\n",
    "<text:p xmlns:text=", "\"urn:oasis:names:tc:opendocument", ":xmlns:text:1.0\">", "<text:span>",
    "a", "</text:span>", "<text:span text:style-name=\"C\">", "if x", "</text:span>",
    "<text:span\u1680x>", "b", "</text:span\u1680x>", "</text:p>"].flatMap String.toList

/-- The statement joins the span to the element that is none, whose closing tag is left without its
opening one. -/
theorem compile_unbalances_foreignNeighbour :
    IsWritten foreignNeighbour ∧
      (compile [("C", .role .code)] foreignNeighbour).source =
        ["<?xml version='1.0' encoding='UTF-8'?>", "\n",
          "<text:p xmlns:text=", "\"urn:oasis:names:tc:opendocument", ":xmlns:text:1.0\">",
          "<text:span>", "a", "<% if x %>", "b", "</text:span\u1680x>",
          "</text:p>"].flatMap String.toList ∧
      ¬IsWritten (withoutDirectives [("C", .role .code)] foreignNeighbour) := by
  decide +kernel

end FormLetter.Markup
