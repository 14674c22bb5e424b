import FormLetter.Proofs.Xml.Marks
import Mathlib.Data.Option.Basic

/-!
# What readers leave unread

A reader takes a piece off the front of its text, so what it leaves is an end of the text. Hence a
character that a text does not hold is in nothing that is read from it. The readers are taken from
the smallest up; each is a chain of others.
-/

namespace FormLetter.Xml

/-- Whatever a reader takes, it leaves an end of its text. -/
def Leaves {α : Type} (text : List Char) (taken : Except Unread (α × Unread)) : Prop :=
  ∀ value rest, taken = .ok (value, rest) → rest <:+ text

namespace Leaves

variable {α β : Type} {text inner : List Char}

theorem ok {value : α} {rest : List Char} (isEnd : rest <:+ text) :
    Leaves text (.ok (value, rest)) := by
  intro _ _ same
  cases same
  exact isEnd

theorem error {unread : Unread} : Leaves text (.error unread : Except Unread (α × Unread)) :=
  nofun

/-- What leaves an end of an end leaves an end. -/
theorem within {taken : Except Unread (α × Unread)} (leaves : Leaves inner taken)
    (isEnd : inner <:+ text) : Leaves text taken :=
  fun value rest done => (leaves value rest done).trans isEnd

theorem bind {taken : Except Unread (α × Unread)}
    {next : α × Unread → Except Unread (β × Unread)} (first : Leaves text taken)
    (second : ∀ value rest, Leaves rest (next (value, rest))) : Leaves text (taken >>= next) := by
  intro value rest done
  obtain ⟨⟨taken, middle⟩, isTaken, done⟩ := bind_eq_ok done
  exact (second taken middle value rest done).trans (first taken middle isTaken)

theorem map {taken : Except Unread (α × Unread)} {change : α × Unread → β × Unread}
    (leaves : Leaves text taken) (same : ∀ value rest, (change (value, rest)).2 = rest) :
    Leaves text (taken.map change) := by
  intro value rest done
  obtain ⟨⟨taken, middle⟩, isTaken, changed⟩ := map_eq_ok done
  have isRest := same taken middle
  rw [changed] at isRest
  dsimp only at isRest
  rw [isRest]
  exact leaves taken middle isTaken

end Leaves

open Leaves

/-! ## Small readers -/

theorem skipSpace_suffix (text : List Char) : skipSpace text <:+ text := List.dropWhile_suffix _

theorem suffix_of_after? {mark : String} {text rest : List Char}
    (found : after? mark text = some rest) : rest <:+ text := by
  unfold after? at found
  split at found
  · cases found
    exact List.drop_suffix _ _
  · cases found

theorem leaves_expectSpace (text : List Char) : Leaves text (expectSpace text) := by
  unfold expectSpace
  split
  · exact ok (skipSpace_suffix text)
  · exact error

theorem leaves_expect (mark : String) (text : List Char) : Leaves text (expect mark text) := by
  unfold expect
  split
  · rename_i rest found
    exact ok (suffix_of_after? found)
  · exact error

theorem leaves_takeThrough (mark : String) (text : List Char) :
    Leaves text (takeThrough mark text) := by
  unfold takeThrough
  split
  · exact error
  · rename_i before after split
    have isEnd : after <:+ text := ⟨_, (splitAt?_spec split).1.symm⟩
    split
    · exact ok isEnd
    · exact error

theorem leaves_takeName (text : List Char) : Leaves text (takeName text) := by
  unfold takeName
  split
  · rename_i first rest
    split
    · exact ok ((List.dropWhile_suffix _).trans (List.suffix_cons first rest))
    · exact error
  · exact error

theorem leaves_takeQuoted (text : List Char) : Leaves text (takeQuoted text) := by
  unfold takeQuoted
  split
  · exact (leaves_takeThrough _ _).within (List.suffix_cons _ _)
  · exact (leaves_takeThrough _ _).within (List.suffix_cons _ _)
  · exact error

theorem leaves_takeNumber (base : Nat) (text : List Char) : Leaves text (takeNumber base text) := by
  unfold takeNumber
  dsimp only
  split
  · exact error
  · exact ok (List.drop_suffix _ _)

theorem leaves_takeReference (text : List Char) : Leaves text (takeReference text) := by
  have code (text : List Char) : Leaves text (takeCode text) := by
    unfold takeCode
    split
    · exact (leaves_takeNumber _ _).within (List.suffix_cons _ _)
    · exact leaves_takeNumber _ _
  have referred (text : List Char) : Leaves text (takeReferred text) := by
    unfold takeReferred
    split
    · refine within (bind (code _) fun number rest => ?_) (List.suffix_cons _ _)
      dsimp only
      split
      · exact ok List.suffix_rfl
      · exact error
    · exact (leaves_takeName _).bind fun _ _ => ok List.suffix_rfl
  unfold takeReference
  refine (referred text).bind fun reference rest => (leaves_expect ";" rest).bind ?_
  exact fun _ _ => ok List.suffix_rfl

theorem leaves_takeComment (text : List Char) : Leaves text (takeComment text) := by
  unfold takeComment
  refine (leaves_takeThrough _ _).bind fun _ rest => (leaves_expect _ rest).bind fun _ _ => ?_
  exact ok List.suffix_rfl

theorem leaves_takeInstruction (text : List Char) : Leaves text (takeInstruction text) := by
  unfold takeInstruction
  refine (leaves_takeName text).bind fun target rest => ?_
  dsimp only
  split
  · exact error
  · split
    · rename_i found
      exact ok (suffix_of_after? found)
    · refine (leaves_expectSpace rest).bind fun _ rest => (leaves_takeThrough _ rest).bind ?_
      exact fun _ _ => ok List.suffix_rfl

/-! ## Document type declarations -/

namespace Doctype

theorem leaves_takeExternal (text : List Char) : Leaves text (takeExternal text) := by
  unfold takeExternal
  split
  · rename_i rest found
    refine within ?_ (suffix_of_after? found)
    refine (leaves_expectSpace rest).bind fun _ rest => (leaves_takeQuoted rest).bind fun _ _ => ?_
    exact ok List.suffix_rfl
  · split
    · rename_i rest found
      refine within ?_ (suffix_of_after? found)
      refine (leaves_expectSpace rest).bind fun _ rest => (leaves_takeQuoted rest).bind ?_
      refine fun _ rest => (leaves_expectSpace rest).bind fun _ rest => ?_
      exact (leaves_takeQuoted rest).bind fun _ _ => ok List.suffix_rfl
    · exact ok List.suffix_rfl

theorem leaves_takeKind (text : List Char) : Leaves text (takeKind text) := by
  unfold takeKind
  split
  · refine within ?_ (List.suffix_cons _ _)
    exact (leaves_expectSpace _).bind fun _ _ => ok List.suffix_rfl
  · exact ok List.suffix_rfl

theorem leaves_takeDefinition (text : List Char) : Leaves text (takeDefinition text) := by
  unfold takeDefinition
  refine (leaves_takeExternal text).bind fun isExternal rest => ?_
  dsimp only
  split
  · split
    · rename_i found
      refine within ?_ ((suffix_of_after? found).trans (skipSpace_suffix rest))
      refine (leaves_expectSpace _).bind fun _ rest => (leaves_takeName rest).bind ?_
      exact fun _ _ => ok List.suffix_rfl
    · exact ok List.suffix_rfl
  · refine (leaves_takeQuoted rest).bind fun value rest => ?_
    dsimp only
    cases replacement value with
    | error unread => exact error
    | ok replaced => exact ok List.suffix_rfl

theorem leaves_takeEntity (doctype : Doctype) (text : List Char) :
    Leaves text (takeEntity doctype text) := by
  unfold takeEntity
  refine (leaves_expectSpace text).bind fun _ rest => (leaves_takeKind rest).bind ?_
  refine fun isParameter rest => (leaves_takeName rest).bind fun name rest => ?_
  refine (leaves_expectSpace rest).bind fun _ rest => (leaves_takeDefinition rest).bind ?_
  refine fun entity rest => ((leaves_expect ">" _).within (skipSpace_suffix rest)).bind ?_
  intro _ rest
  dsimp only
  split
  · exact ok List.suffix_rfl
  · exact ok List.suffix_rfl

theorem leaves_takeChoices (text : List Char) : Leaves text (takeChoices text) := by
  unfold takeChoices
  refine (leaves_expect _ text).bind fun _ rest => (leaves_takeThrough _ rest).bind ?_
  intro choices rest
  dsimp only
  split
  · exact ok List.suffix_rfl
  · exact error

theorem leaves_takeType (text : List Char) : Leaves text (takeType text) := by
  unfold takeType
  split
  · rename_i found
    exact ok (suffix_of_after? found)
  · split
    · rename_i found
      obtain ⟨word, -, found⟩ := List.exists_of_findSome?_eq_some found
      exact ok (suffix_of_after? found)
    · split
      · rename_i found
        refine within ?_ (suffix_of_after? found)
        refine (leaves_expectSpace _).bind fun _ rest => (leaves_takeChoices rest).bind ?_
        exact fun _ _ => ok List.suffix_rfl
      · exact (leaves_takeChoices text).bind fun _ _ => ok List.suffix_rfl

theorem leaves_takeDefaultValue (text : List Char) : Leaves text (takeDefaultValue text) := by
  unfold takeDefaultValue
  refine (leaves_takeQuoted text).bind fun value rest => ?_
  dsimp only
  split
  · exact error
  · exact ok List.suffix_rfl

theorem leaves_takeDefault (text : List Char) : Leaves text (takeDefault text) := by
  unfold takeDefault
  split
  · rename_i rest found
    rcases (Option.orElse_eq_some _ _ _).mp found with required | ⟨-, implied⟩
    · exact ok (suffix_of_after? required)
    · exact ok (suffix_of_after? implied)
  · split
    · rename_i found
      refine within ?_ (suffix_of_after? found)
      exact (leaves_expectSpace _).bind fun _ rest => leaves_takeDefaultValue rest
    · exact leaves_takeDefaultValue text

theorem leaves_takeAttribute (text : List Char) : Leaves text (takeAttribute text) := by
  unfold takeAttribute
  refine (leaves_expectSpace text).bind fun _ rest => (leaves_takeName rest).bind ?_
  refine fun name rest => (leaves_expectSpace rest).bind fun _ rest => ?_
  refine (leaves_takeType rest).bind fun isWords rest => (leaves_expectSpace rest).bind ?_
  exact fun _ rest => (leaves_takeDefault rest).bind fun _ _ => ok List.suffix_rfl

theorem leaves_takeAttributes (doctype : Doctype) (element : String) (text : List Char) :
    Leaves text (takeAttributes doctype element text) := by
  fun_induction takeAttributes doctype element text with
  | case1 doctype text rest isEnd =>
    exact ok ((List.suffix_cons _ _).trans (isEnd ▸ skipSpace_suffix text))
  | case3 doctype text name isWords rest taken _ words _ inductionHypothesis =>
    exact inductionHypothesis.within (leaves_takeAttribute text _ rest taken)
  | case2 | case4 => exact error

theorem leaves_takeOther (text : List Char) : Leaves text (takeOther text) := by
  unfold takeOther
  refine (leaves_expectSpace text).bind fun _ rest => (leaves_takeName rest).bind ?_
  refine fun name rest => (leaves_expectSpace rest).bind fun _ rest => ?_
  refine (leaves_takeThrough _ rest).bind fun body rest => ?_
  dsimp only
  split
  · exact error
  · exact ok List.suffix_rfl

theorem leaves_takeDeclaration (doctype : Doctype) (text : List Char) :
    Leaves text (takeDeclaration doctype text) := by
  unfold takeDeclaration
  split
  · rename_i found
    exact ((leaves_takeComment _).map fun _ _ => rfl).within (suffix_of_after? found)
  split
  · rename_i found
    exact ((leaves_takeInstruction _).map fun _ _ => rfl).within (suffix_of_after? found)
  split
  · rename_i found
    exact (leaves_takeEntity doctype _).within (suffix_of_after? found)
  split
  · rename_i found
    refine within ?_ (suffix_of_after? found)
    refine (leaves_expectSpace _).bind fun _ rest => (leaves_takeName rest).bind ?_
    exact fun element rest => leaves_takeAttributes doctype element rest
  split
  · rename_i found
    refine ((leaves_takeOther _).map fun _ _ => rfl).within ?_
    rcases (Option.orElse_eq_some _ _ _).mp found with element | ⟨-, remark⟩
    · exact suffix_of_after? element
    · exact suffix_of_after? remark
  · exact error

theorem leaves_takeParameter (text : List Char) : Leaves text (takeParameter text) := by
  unfold takeParameter
  refine (leaves_takeName text).bind fun name rest => (leaves_expect _ rest).bind ?_
  exact fun _ _ => ok List.suffix_rfl

/-- Declarations leave an end of their text. What a parameter holds is another text, of which
nothing is left. -/
theorem leaves_takeDeclarations (nesting : Nat) (doctype : Doctype) (text : List Char) :
    Leaves text (takeDeclarations nesting doctype text) := by
  have isEnd (text : List Char) : skipSpace text <:+ text := skipSpace_suffix text
  fun_induction takeDeclarations nesting doctype text with
  | case1 nesting doctype text => exact ok List.nil_suffix
  | case2 nesting doctype text body tail isBody =>
    exact ok (isEnd text)
  | case5 doctype text body rest isBody nesting name after taken _ inner _ _ _ _ goesOn =>
    have inBody : rest <:+ body := isBody ▸ List.suffix_cons _ _
    exact goesOn.within
      ((leaves_takeParameter rest _ after taken).trans (inBody.trans (isEnd text)))
  | case7 doctype text body rest isBody nesting name after taken _ _ goesOn =>
    have inBody : rest <:+ body := isBody ▸ List.suffix_cons _ _
    exact goesOn.within
      ((leaves_takeParameter rest _ after taken).trans (inBody.trans (isEnd text)))
  | case10 nesting doctype text body _ rest taken _ _ _ _ goesOn =>
    exact goesOn.within ((leaves_takeDeclaration doctype body _ rest taken).trans (isEnd text))
  | case3 | case4 | case6 | case8 | case9 | case11 => exact error

theorem leaves_take (text : List Char) : Leaves text (take text) := by
  have subset (text : List Char) : Leaves text (takeSubset text) := by
    unfold takeSubset
    split
    · refine within ?_ (List.suffix_cons _ _)
      refine (leaves_takeDeclarations _ _ _).bind fun _ rest => (leaves_expect _ rest).bind ?_
      exact fun _ _ => ok List.suffix_rfl
    · exact ok List.suffix_rfl
  unfold take
  refine (leaves_expectSpace text).bind fun _ rest => (leaves_takeName rest).bind ?_
  refine fun _ rest => ((leaves_takeExternal _).within (skipSpace_suffix rest)).bind ?_
  refine fun _ rest => ((subset _).within (skipSpace_suffix rest)).bind fun doctype rest => ?_
  refine ((leaves_expect _ _).within (skipSpace_suffix rest)).bind ?_
  exact fun _ _ => ok List.suffix_rfl

end Doctype

/-! ## Items -/

theorem takeCharacters_suffix (text : List Char) : (takeCharacters text).2 <:+ text := by
  induction text with
  | nil => exact List.suffix_rfl
  | cons c rest inductionHypothesis =>
    rw [takeCharacters]
    split
    · exact List.suffix_rfl
    · exact inductionHypothesis.trans (List.suffix_cons c rest)

theorem leaves_takeAttribute (text : List Char) : Leaves text (takeAttribute text) := by
  unfold takeAttribute
  refine (leaves_expectSpace text).bind fun _ rest => (leaves_takeName rest).bind ?_
  refine fun name rest => ((leaves_expect _ _).within (skipSpace_suffix rest)).bind ?_
  refine fun _ rest => ((leaves_takeQuoted _).within (skipSpace_suffix rest)).bind ?_
  intro value rest
  dsimp only
  split
  · exact error
  · exact ok List.suffix_rfl

theorem leaves_takeAttributes (text : List Char) : Leaves text (takeAttributes text) := by
  fun_induction takeAttributes text with
  | case1 text rest isEnd =>
    exact ok ((List.suffix_cons _ _).trans (isEnd ▸ skipSpace_suffix text))
  | case2 text rest isEnd =>
    exact ok (((List.suffix_cons _ _).trans (List.suffix_cons _ _)).trans
      (isEnd ▸ skipSpace_suffix text))
  | case4 text given rest taken _ _ _ inductionHypothesis =>
    exact (inductionHypothesis.map fun _ _ => rfl).within (leaves_takeAttribute text _ rest taken)
  | case3 | case5 => exact error

theorem leaves_takeMarkup (text : List Char) : Leaves text (takeMarkup text) := by
  unfold takeMarkup
  split
  · rename_i found
    exact ((leaves_takeComment _).map fun _ _ => rfl).within (suffix_of_after? found)
  split
  · rename_i found
    exact ((leaves_takeThrough _ _).map fun _ _ => rfl).within (suffix_of_after? found)
  split
  · rename_i found
    exact ((Doctype.leaves_take _).map fun _ _ => rfl).within (suffix_of_after? found)
  split
  · rename_i found
    exact ((leaves_takeInstruction _).map fun _ _ => rfl).within (suffix_of_after? found)
  split
  · rename_i found
    refine within ?_ (suffix_of_after? found)
    refine (leaves_takeName _).bind fun name rest => ?_
    refine ((leaves_expect _ _).within (skipSpace_suffix rest)).bind fun _ rest => ?_
    exact ok List.suffix_rfl
  · refine (leaves_expect _ text).bind fun _ rest => (leaves_takeName rest).bind ?_
    exact fun name rest => (leaves_takeAttributes rest).bind fun _ _ => ok List.suffix_rfl

/-- An item that was taken off a text leaves an end of the text. -/
theorem leaves_takeItem (text : List Char) : Leaves text (takeItem text) := by
  unfold takeItem
  split
  · exact leaves_takeMarkup _
  · refine ((leaves_takeReference _).map fun reference rest => ?_).within (List.suffix_cons _ _)
    cases reference with
    | character c => rfl
    | entity name => rfl
  · dsimp only
    split
    · exact error
    · exact ok (takeCharacters_suffix text)

end FormLetter.Xml
