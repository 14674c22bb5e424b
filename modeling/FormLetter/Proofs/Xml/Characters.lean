import FormLetter.Proofs.Xml.Sound
import Mathlib.Data.List.Basic

/-!
# Only characters that a document may hold

Whatever is read from a document consists of characters that a document may hold. Text is looked at
when it is read. The value of an attribute may refer to entities, whose texts were looked at when
they were declared; so the document type declaration has to be gone through, too.
-/

namespace FormLetter.Xml

/-- A document may hold what may stand in names. -/
theorem isChar_of_isNameRest {c : Char} (isRest : isNameRest c = true) : isChar c = true := by
  have ranges : ∀ range ∈ nameStartRanges ++ nameMarkRanges,
      32 ≤ range.1 ∧ (range.2 ≤ 0xFFFD ∨ 0x10000 ≤ range.1) := by decide
  have inside {found : List (Nat × Nat)} (subset : found ⊆ nameStartRanges ++ nameMarkRanges)
      (within : Text.inRanges found c.toNat = true) :
      32 ≤ c.toNat ∧ c.toNat ≤ 0xFFFD ∨ 0x10000 ≤ c.toNat := by
    obtain ⟨range, member, within⟩ := List.any_eq_true.mp within
    have bounds := ranges range (subset member)
    simp only [Bool.and_eq_true, decide_eq_true_eq] at within
    omega
  have bounds : 32 ≤ c.toNat ∧ c.toNat ≤ 0xFFFD ∨ 0x10000 ≤ c.toNat := by
    simp only [isNameRest, isNameStart, Bool.or_eq_true, beq_iff_eq] at isRest
    rcases isRest with ((((((letter | rfl) | rfl) | start) | digit) | rfl) | rfl) | mark
    · change (decide ('A'.val ≤ c.val ∧ c.val ≤ 'Z'.val)
        || (decide ('a'.val ≤ c.val) && decide (c.val ≤ 'z'.val))) = true at letter
      simp only [Bool.or_eq_true, Bool.and_eq_true, decide_eq_true_eq,
        UInt32.le_iff_toNat_le] at letter
      change (65 ≤ c.toNat ∧ c.toNat ≤ 90) ∨ (97 ≤ c.toNat ∧ c.toNat ≤ 122) at letter
      omega
    · decide
    · decide
    · exact inside (List.subset_append_left _ _) start
    · simp only [Char.isDigit, Bool.and_eq_true, decide_eq_true_eq, ge_iff_le,
        UInt32.le_iff_toNat_le] at digit
      change 48 ≤ c.toNat ∧ c.toNat ≤ 57 at digit
      omega
    · decide
    · decide
    · exact inside (List.subset_append_right _ _) mark
  unfold isChar
  simp only [Bool.or_eq_true, Bool.and_eq_true, decide_eq_true_eq, beq_iff_eq]
  omega

/-! ## Readers -/

theorem valid_of_takeThrough {mark : String} {text value rest : List Char}
    (taken : takeThrough mark text = .ok (value, rest)) : IsValid value := by
  unfold takeThrough at taken
  split at taken
  · cases taken
  · split at taken
    · rename_i valid
      cases taken
      exact List.all_eq_true.mp valid
    · cases taken

theorem valid_of_takeQuoted {text value rest : List Char}
    (taken : takeQuoted text = .ok (value, rest)) : IsValid value := by
  unfold takeQuoted at taken
  split at taken
  · exact valid_of_takeThrough taken
  · exact valid_of_takeThrough taken
  · cases taken

theorem isChar_of_charOfNumber? {number : Nat} {c : Char} (found : charOfNumber? number = some c) :
    isChar c = true := by
  unfold charOfNumber? at found
  dsimp only at found
  split at found
  · rename_i valid
    rw [← Option.some.inj found]
    exact (Bool.and_eq_true _ _ ▸ valid).2
  · cases found

/-- A reference to a character that a document may hold, or to an entity by a name. -/
def Reference.Proper : Reference → Prop
  | .character c => isChar c = true
  | .entity name => isName name.toList = true

theorem proper_of_takeReferred {text rest : List Char} {reference : Reference}
    (taken : takeReferred text = .ok (reference, rest)) : reference.Proper := by
  unfold takeReferred at taken
  split at taken
  · obtain ⟨⟨number, _⟩, -, found⟩ := bind_eq_ok taken
    dsimp only at found
    split at found
    · rename_i isCharacter
      cases found
      exact isChar_of_charOfNumber? isCharacter
    · cases found
  · obtain ⟨⟨name, _⟩, isFound, same⟩ := bind_eq_ok taken
    cases same
    exact isName_of_takeName isFound

/-- A reference that was read refers to something. -/
theorem proper_of_takeReference {text rest : List Char} {reference : Reference}
    (taken : takeReference text = .ok (reference, rest)) : reference.Proper := by
  obtain ⟨⟨found, _⟩, referred, ended⟩ := bind_eq_ok taken
  obtain ⟨⟨_, _⟩, -, same⟩ := bind_eq_ok ended
  cases same
  exact proper_of_takeReferred referred

theorem isChar_of_predefined? {name : String} {c : Char} (found : predefined? name = some c) :
    isChar c = true := by
  unfold predefined? at found
  split at found <;> first | (cases found; decide) | cases found

/-- Where white space was skipped, no more of it follows. -/
theorem startsBlank_skipSpace (text : List Char) : startsBlank (skipSpace text) = false := by
  induction text with
  | nil => rfl
  | cons c rest ih =>
    unfold skipSpace at ih ⊢
    rw [List.dropWhile_cons]
    split
    · exact ih
    · rename_i stops
      exact Bool.eq_false_iff.mpr stops

theorem eq_of_expectSpace {text rest : List Char} (skipped : expectSpace text = .ok ((), rest)) :
    rest = skipSpace text := by
  unfold expectSpace at skipped
  split at skipped
  · cases skipped
    rfl
  · cases skipped

/-- No instruction is called like the heading of a document, and its text begins with no blank. -/
theorem free_of_takeInstruction {text rest : List Char} {target : String}
    {value : Option (List Char)} (taken : takeInstruction text = .ok ((target, value), rest)) :
    (target.toLower == "xml") = false ∧ ∀ text ∈ value, startsBlank text = false := by
  obtain ⟨⟨name, unread⟩, -, ends⟩ := bind_eq_ok taken
  dsimp only at ends
  split at ends
  · cases ends
  · rename_i isFree
    have isFree := Bool.eq_false_iff.mpr isFree
    split at ends
    · simp only [pure, Except.pure, Except.ok.injEq, Prod.mk.injEq] at ends
      obtain ⟨⟨rfl, rfl⟩, -⟩ := ends
      exact ⟨isFree, fun _ isThere => by cases isThere⟩
    · obtain ⟨⟨_, spaced⟩, skipped, ends⟩ := bind_eq_ok ends
      obtain ⟨⟨found, after⟩, isThrough, ends⟩ := bind_eq_ok ends
      simp only [pure, Except.pure, Except.ok.injEq, Prod.mk.injEq] at ends
      obtain ⟨⟨rfl, rfl⟩, -⟩ := ends
      refine ⟨isFree, fun text isText => ?_⟩
      rw [← Option.some.inj isText]
      have begins := startsBlank_skipSpace unread
      rw [← eq_of_expectSpace skipped] at begins
      unfold takeThrough at isThrough
      split at isThrough
      · cases isThrough
      · rename_i before behind split
        split at isThrough
        · cases isThrough
          -- The text is what comes before the mark, and white space before it was skipped.
          have isSplit : splitAt? "?>".toList spaced = some (found, after) := split
          rw [(splitAt?_spec isSplit).1] at begins
          cases found with
          | nil => rfl
          | cons c rest => exact begins
        · cases isThrough

/-! ## Entities -/

/-- An entity whose text a document may hold. -/
def Entity.Valid : Entity → Prop
  | .internal text => IsValid text
  | .external => True

namespace Doctype

/-- A document type declaration whose entities have texts that a document may hold. -/
def Valid (doctype : Doctype) : Prop := ∀ given ∈ doctype.entities, given.2.Valid

theorem Valid.entity {doctype : Doctype} (valid : doctype.Valid) {name : String}
    {text : List Char} (found : doctype.entity? name = some (.internal text)) : IsValid text := by
  obtain ⟨before, behind, whole, -⟩ := List.lookup_eq_some_iff.mp found
  exact valid (name, .internal text) (by simp [whole])

/-- A reader of declarations that adds no entity but such ones. -/
def Keeps (doctype : Doctype) (taken : Except Unread (Doctype × Unread)) : Prop :=
  ∀ last rest, taken = .ok (last, rest) → doctype.Valid → last.Valid

namespace Keeps

variable {doctype : Doctype}

theorem ok {rest : List Char} : Keeps doctype (.ok (doctype, rest)) := by
  intro last after same valid
  cases same
  exact valid

theorem error {unread : Unread} : Keeps doctype (.error unread) := nofun

theorem bind {α : Type} {taken : Except Unread (α × Unread)}
    {next : α × Unread → Except Unread (Doctype × Unread)}
    (later : ∀ value rest, Keeps doctype (next (value, rest))) : Keeps doctype (taken >>= next) := by
  intro last rest done valid
  obtain ⟨⟨value, middle⟩, -, done⟩ := bind_eq_ok done
  exact later value middle last rest done valid

theorem map {α : Type} {taken : Except Unread (α × Unread)} :
    Keeps doctype (taken.map fun found => (doctype, found.2)) := by
  intro last rest done valid
  obtain ⟨found, -, same⟩ := map_eq_ok done
  cases same
  exact valid

end Keeps

theorem valid_of_replacement {text value : List Char} (valid : IsValid text)
    (replaced : replacement text = .ok value) : IsValid value := by
  fun_induction replacement text generalizing value with
  | case1 =>
    cases replaced
    exact fun _ member => absurd member List.not_mem_nil
  | case3 rest c after taken _ ih =>
    obtain ⟨tail, isTail, rfl⟩ := map_eq_ok replaced
    have inside := (leaves_takeReference rest _ after taken).subset
    refine .cons (proper_of_takeReference taken) (ih (fun d member => ?_) isTail)
    exact valid d (List.mem_cons_of_mem _ (inside member))
  | case5 rest name after taken _ ih =>
    obtain ⟨tail, isTail, rfl⟩ := map_eq_ok replaced
    have inside := (leaves_takeReference rest _ after taken).subset
    have named : IsValid name.toList := fun d member =>
      isChar_of_isNameRest (isNameRest_of_mem (proper_of_takeReference taken) member)
    have tailValid : IsValid tail := ih (fun d member =>
      valid d (List.mem_cons_of_mem _ (inside member))) isTail
    exact .cons (by decide) (named.append (.cons (by decide) tailValid))
  | case8 first rest _ _ ih =>
    obtain ⟨tail, isTail, rfl⟩ := map_eq_ok replaced
    have valid := List.forall_mem_cons.mp valid
    exact .cons valid.1 (ih valid.2 isTail)
  | case2 | case4 | case6 | case7 => cases replaced

theorem valid_of_takeDefinition {text rest : List Char} {entity : Entity}
    (taken : takeDefinition text = .ok (entity, rest)) : entity.Valid := by
  unfold takeDefinition at taken
  obtain ⟨⟨isExternal, middle⟩, -, taken⟩ := bind_eq_ok taken
  dsimp only at taken
  split at taken
  · split at taken
    · obtain ⟨_, -, taken⟩ := bind_eq_ok taken
      obtain ⟨_, -, taken⟩ := bind_eq_ok taken
      cases taken
      trivial
    · cases taken
      trivial
  · obtain ⟨⟨value, after⟩, quoted, taken⟩ := bind_eq_ok taken
    obtain ⟨replaced, isReplaced, taken⟩ := bind_eq_ok taken
    cases taken
    exact valid_of_replacement (valid_of_takeQuoted quoted) isReplaced

theorem keeps_takeEntity (doctype : Doctype) (text : List Char) :
    Keeps doctype (takeEntity doctype text) := by
  intro last rest taken valid
  unfold takeEntity at taken
  obtain ⟨_, -, taken⟩ := bind_eq_ok taken
  obtain ⟨⟨isParameter, _⟩, -, taken⟩ := bind_eq_ok taken
  obtain ⟨⟨name, _⟩, -, taken⟩ := bind_eq_ok taken
  obtain ⟨_, -, taken⟩ := bind_eq_ok taken
  obtain ⟨⟨entity, _⟩, defined, taken⟩ := bind_eq_ok taken
  obtain ⟨_, -, taken⟩ := bind_eq_ok taken
  dsimp only at taken
  split at taken
  · cases taken
    exact valid
  · cases taken
    intro given member
    unfold addEntity at member
    dsimp only at member
    split at member
    · exact valid given member
    · rcases List.mem_append.mp member with before | new
      · exact valid given before
      · rw [List.mem_singleton.mp new]
        exact valid_of_takeDefinition defined

theorem keeps_takeAttributes (doctype : Doctype) (element : String) (text : List Char) :
    Keeps doctype (takeAttributes doctype element text) := by
  fun_induction takeAttributes doctype element text with
  | case1 => exact .ok
  | case3 =>
    rename_i inductionHypothesis
    exact fun last rest done valid => inductionHypothesis last rest done valid
  | case2 | case4 => exact .error

theorem keeps_takeDeclaration (doctype : Doctype) (text : List Char) :
    Keeps doctype (takeDeclaration doctype text) := by
  unfold takeDeclaration
  split
  · exact .map
  split
  · exact .map
  split
  · exact keeps_takeEntity doctype _
  split
  · exact .bind fun _ rest => .bind fun element rest => keeps_takeAttributes doctype element rest
  split
  · exact .map
  · exact .error

theorem keeps_takeDeclarations (nesting : Nat) (doctype : Doctype) (text : List Char) :
    Keeps doctype (takeDeclarations nesting doctype text) := by
  fun_induction takeDeclarations nesting doctype text with
  | case1 | case2 => exact .ok
  | case5 =>
    rename_i isInner first second
    exact fun last rest done valid => second last rest done (first _ _ isInner valid)
  | case7 =>
    rename_i inductionHypothesis
    exact inductionHypothesis
  | case10 =>
    rename_i taken _ _ _ _ inductionHypothesis
    exact fun last rest done valid =>
      inductionHypothesis last rest done (keeps_takeDeclaration _ _ _ _ taken valid)
  | case3 | case4 | case6 | case8 | case9 | case11 => exact .error

theorem valid_of_take {text rest : List Char} {doctype : Doctype}
    (taken : take text = .ok (doctype, rest)) : doctype.Valid := by
  have subset (text : List Char) {doctype : Doctype} {rest : List Char}
      (taken : takeSubset text = .ok (doctype, rest)) : doctype.Valid := by
    unfold takeSubset at taken
    split at taken
    · obtain ⟨⟨declared, _⟩, isDeclared, taken⟩ := bind_eq_ok taken
      obtain ⟨_, -, taken⟩ := bind_eq_ok taken
      cases taken
      exact keeps_takeDeclarations _ _ _ _ _ isDeclared (by simp [Valid, empty])
    · cases taken
      simp [Valid, empty]
  unfold take at taken
  obtain ⟨_, -, taken⟩ := bind_eq_ok taken
  obtain ⟨_, -, taken⟩ := bind_eq_ok taken
  obtain ⟨_, -, taken⟩ := bind_eq_ok taken
  obtain ⟨⟨declared, _⟩, isSubset, taken⟩ := bind_eq_ok taken
  obtain ⟨_, -, taken⟩ := bind_eq_ok taken
  cases taken
  exact subset _ isSubset

end Doctype


/-! ## Items -/

/-- An item whose characters a document may hold, and whose instruction can be written. -/
def Item.Sound : Item → Prop
  | .characters text | .literal text => IsValid text
  | .character c => isChar c = true
  | .instruction target text =>
    (target.toLower == "xml") = false ∧ ∀ value ∈ text, startsBlank value = false
  | .doctype declared => declared.Valid
  | .opening _ attributes _ => ∀ given ∈ attributes, IsValid given.2
  | _ => True

theorem valid_of_takeAttributes {text rest : List Char} {attributes : List (String × List Char)}
    {isEmpty : Bool} (taken : takeAttributes text = .ok ((attributes, isEmpty), rest)) :
    ∀ given ∈ attributes, IsValid given.2 := by
  fun_induction takeAttributes text generalizing attributes isEmpty rest with
  | case1 | case2 =>
    cases taken
    exact fun _ member => absurd member List.not_mem_nil
  | case4 =>
    rename_i given unread isGiven _ _ _ inductionHypothesis
    obtain ⟨⟨⟨others, closes⟩, after⟩, takenOthers, same⟩ := map_eq_ok taken
    cases same
    obtain ⟨_, -, isGiven⟩ := bind_eq_ok isGiven
    obtain ⟨_, -, isGiven⟩ := bind_eq_ok isGiven
    obtain ⟨_, -, isGiven⟩ := bind_eq_ok isGiven
    obtain ⟨⟨value, _⟩, quoted, isGiven⟩ := bind_eq_ok isGiven
    dsimp only at isGiven
    split at isGiven
    · cases isGiven
    · cases isGiven
      exact List.forall_mem_cons.mpr
        ⟨valid_of_takeQuoted quoted, inductionHypothesis takenOthers⟩
  | case3 | case5 => cases taken

theorem valid_takeCharacters (text : List Char) : IsValid (takeCharacters text).1 := by
  induction text with
  | nil => exact fun _ member => absurd member List.not_mem_nil
  | cons c rest ih =>
    rw [takeCharacters]
    split
    · exact fun _ member => absurd member List.not_mem_nil
    · rename_i goesOn
      simp only [Bool.or_eq_true, Bool.not_eq_true', not_or, Bool.not_eq_false] at goesOn
      exact .cons goesOn.1.2 ih

theorem sound_of_takeMarkup {text rest : List Char} {item : Item}
    (taken : takeMarkup text = .ok (item, rest)) : item.Sound := by
  unfold takeMarkup at taken
  split at taken
  · obtain ⟨_, -, same⟩ := map_eq_ok taken
    cases same
    trivial
  split at taken
  · obtain ⟨_, isLiteral, same⟩ := map_eq_ok taken
    cases same
    exact valid_of_takeThrough isLiteral
  split at taken
  · obtain ⟨_, isDoctype, same⟩ := map_eq_ok taken
    cases same
    exact Doctype.valid_of_take isDoctype
  split at taken
  · obtain ⟨_, isInstruction, same⟩ := map_eq_ok taken
    cases same
    exact free_of_takeInstruction isInstruction
  split at taken
  · obtain ⟨_, -, taken⟩ := bind_eq_ok taken
    obtain ⟨_, -, same⟩ := bind_eq_ok taken
    cases same
    trivial
  · obtain ⟨_, -, taken⟩ := bind_eq_ok taken
    obtain ⟨_, -, taken⟩ := bind_eq_ok taken
    obtain ⟨_, areGiven, same⟩ := bind_eq_ok taken
    cases same
    exact valid_of_takeAttributes areGiven

theorem sound_of_takeItem {text rest : List Char} {item : Item}
    (taken : takeItem text = .ok (item, rest)) : item.Sound := by
  unfold takeItem at taken
  split at taken
  · exact sound_of_takeMarkup taken
  · obtain ⟨⟨reference, _⟩, isReference, same⟩ := map_eq_ok taken
    cases reference with
    | character c =>
      cases same
      exact proper_of_takeReference isReference
    | entity name =>
      cases same
      trivial
  · dsimp only at taken
    split at taken
    · cases taken
    · cases taken
      exact valid_takeCharacters _

/-- Every item of a text is sound. -/
theorem sound_of_mem_items (text : List Char) : ∀ placed ∈ items text, placed.value.Sound := by
  fun_induction items text with
  | case1 => exact fun _ member => absurd member List.not_mem_nil
  | case3 first rest item after isItem _ inductionHypothesis =>
    exact List.forall_mem_cons.mpr ⟨sound_of_takeItem isItem, inductionHypothesis⟩
  | case2 | case4 => exact List.forall_mem_singleton.mpr trivial

/-- The document type declaration of a document is one of its items, if there is one. -/
theorem valid_of_readProlog {declared : Option Doctype} {pending rest : List (Placed Item)}
    {doctype : Doctype} (read : readProlog declared pending = .ok (doctype, rest))
    (sound : ∀ placed ∈ pending, placed.value.Sound)
    (declaredValid : ∀ doctype ∈ declared, doctype.Valid) : doctype.Valid := by
  fun_induction readProlog declared pending with
  | case1 | case2 | case3 =>
    rename_i inductionHypothesis
    exact inductionHypothesis read (List.forall_mem_cons.mp sound).2 declaredValid
  | case5 =>
    rename_i inductionHypothesis
    rw [List.forall_mem_cons] at sound
    exact inductionHypothesis read sound.2 fun _ isDeclared => Option.some.inj isDeclared ▸ sound.1
  | case7 declared =>
    cases read
    cases declared with
    | none => exact fun _ member => absurd member List.not_mem_nil
    | some doctype => exact declaredValid doctype rfl
  | case4 | case6 | case8 | case9 => cases read

/-! ## Events -/

/-- An event whose characters a document may hold, and whose instruction can be written. -/
def Event.Sound : Event → Prop
  | .characters text | .written text => IsValid text
  | .instruction target text =>
    (target.toLower == "xml") = false ∧ ∀ value ∈ text, startsBlank value = false
  | .opening _ attributes _ => ∀ given ∈ attributes, IsValid given.2.toList
  | _ => True

theorem valid_of_attributeValueOf? {doctype : Doctype} (doctypeValid : doctype.Valid)
    {inside : List Char → Option (List Char)}
    (insideValid : ∀ inner value, IsValid inner → inside inner = some value → IsValid value)
    {text value : List Char} (valid : IsValid text)
    (valued : attributeValueOf? doctype inside text = some value) : IsValid value := by
  fun_induction attributeValueOf? doctype inside text generalizing value with
  | case1 =>
    cases valued
    exact fun _ member => absurd member List.not_mem_nil
  | case4 rest reference after taken _ replaced found isFound =>
    rename_i ih
    obtain ⟨tail, isTail, rfl⟩ := Option.map_eq_some_iff.mp valued
    have later := (leaves_takeReference rest _ after taken).subset
    have tailValid : IsValid tail :=
      ih (fun d member => valid d (List.mem_cons_of_mem _ (later member))) isTail
    refine IsValid.append ?_ tailValid
    -- A reference gives the character that it names, or what its entity holds.
    dsimp only [replaced] at isFound
    split at isFound
    · cases isFound
      exact List.forall_mem_singleton.mpr (proper_of_takeReference taken)
    · split at isFound
      · rename_i isPredefined
        cases isFound
        exact List.forall_mem_singleton.mpr (isChar_of_predefined? isPredefined)
      · split at isFound
        · rename_i isEntity
          exact insideValid _ _ (doctypeValid.entity isEntity) isFound
        · cases isFound
  | case7 first rest _ _ ih =>
    obtain ⟨tail, isTail, rfl⟩ := Option.map_eq_some_iff.mp valued
    have valid := List.forall_mem_cons.mp valid
    refine .cons ?_ (ih valid.2 isTail)
    split
    · decide
    · exact valid.1
  | case2 | case3 | case5 | case6 => cases valued

theorem valid_of_attributeValue? {doctype : Doctype} (doctypeValid : doctype.Valid) (nesting : Nat)
    {text value : List Char} (valid : IsValid text)
    (valued : attributeValue? doctype nesting text = some value) : IsValid value := by
  induction nesting generalizing text value with
  | zero =>
    rw [attributeValue?] at valued
    exact valid_of_attributeValueOf? doctypeValid (fun _ _ _ none_ => by cases none_) valid valued
  | succ nested ih =>
    rw [attributeValue?] at valued
    exact valid_of_attributeValueOf? doctypeValid (fun _ _ => ih) valid valued

/-- Texts with blanks between them are valid when each of them is. -/
theorem valid_intercalate {words : List (List Char)} :
    IsValid ([' '].intercalate words) ↔ ∀ word ∈ words, IsValid word := by
  have blank : IsValid [' '] := List.forall_mem_singleton.mpr (by decide)
  induction words with
  | nil => simp [IsValid]
  | cons first rest ih =>
    rw [List.forall_mem_cons]
    refine Iff.trans ?_ (and_congr_right fun _ => ih)
    cases rest with
    | nil => simp [IsValid]
    | cons second rest =>
      rw [List.intercalate_cons_cons]
      unfold IsValid at blank ⊢
      rw [List.forall_mem_append, List.forall_mem_append, and_assoc, and_iff_right blank]

/-- Joining words keeps their characters. -/
theorem valid_joinWords {value : List Char} (valid : IsValid value) : IsValid (joinWords value) := by
  have same : [' '].intercalate (value.splitOn ' ') = value := List.intercalate_splitOn ' '
  rw [← same] at valid
  refine valid_intercalate.mpr fun word member => ?_
  exact valid_intercalate.mp valid word (List.mem_of_mem_filter member)

theorem valid_of_attributeValues? {doctype : Doctype} (doctypeValid : doctype.Valid)
    {element : String} {written : List (String × List Char)} {given : List (String × String)}
    (valued : attributeValues? doctype element written = some given)
    (valid : ∀ attached ∈ written, IsValid attached.2) :
    ∀ attached ∈ given, IsValid attached.2.toList := by
  induction written generalizing given with
  | nil =>
    cases valued
    exact fun _ member => absurd member List.not_mem_nil
  | cons first rest inductionHypothesis =>
    obtain ⟨value, isValue, valued⟩ := Option.bind_eq_some_iff.mp valued
    obtain ⟨others, othersValued, same⟩ := Option.bind_eq_some_iff.mp valued
    cases same
    rw [List.forall_mem_cons] at valid ⊢
    refine ⟨?_, inductionHypothesis othersValued valid.2⟩
    have found := valid_of_attributeValue? doctypeValid _ valid.1 isValue
    rw [String.toList_ofList]
    split
    · exact valid_joinWords found
    · exact found

theorem Event.sound_ofEntity {event : Event} (sound : event.Sound) : event.ofEntity.Sound := by
  cases event <;> exact sound

/-- Every event of sound items is sound, when those of entities are. -/
theorem sound_of_mem_eventsOf {doctype : Doctype} (doctypeValid : doctype.Valid)
    {inside : List Char → Option (List (Placed Event))}
    (soundInside : ∀ text inner, inside text = some inner → ∀ placed ∈ inner, placed.value.Sound)
    (pending : List (Placed Item)) (sound : ∀ placed ∈ pending, placed.value.Sound) :
    ∀ placed ∈ eventsOf doctype inside pending, placed.value.Sound := by
  fun_induction eventsOf doctype inside pending with
  | case1 => exact fun _ member => absurd member List.not_mem_nil
  | case2 | case4 | case6 =>
    rename_i inductionHypothesis
    rw [List.forall_mem_cons] at sound ⊢
    exact ⟨sound.1, inductionHypothesis sound.2⟩
  | case3 =>
    rename_i inductionHypothesis
    rw [List.forall_mem_cons] at sound ⊢
    exact ⟨List.forall_mem_singleton.mpr sound.1, inductionHypothesis sound.2⟩
  | case5 | case7 =>
    rename_i inductionHypothesis
    rw [List.forall_mem_cons] at sound ⊢
    exact ⟨trivial, inductionHypothesis sound.2⟩
  | case8 =>
    rename_i valued inductionHypothesis
    rw [List.forall_mem_cons] at sound ⊢
    exact ⟨valid_of_attributeValues? doctypeValid valued sound.1, inductionHypothesis sound.2⟩
  | case10 =>
    rename_i isPredefined inductionHypothesis
    rw [List.forall_mem_cons] at sound ⊢
    exact ⟨List.forall_mem_singleton.mpr (isChar_of_predefined? isPredefined),
      inductionHypothesis sound.2⟩
  | case11 =>
    rename_i inner isInside _ inductionHypothesis
    rw [List.forall_mem_cons] at sound
    intro placed member
    rcases List.mem_append.mp member with inEntity | later
    · obtain ⟨event, isEvent, rfl⟩ := List.mem_map.mp inEntity
      exact Event.sound_ofEntity (soundInside _ inner isInside event isEvent)
    · exact inductionHypothesis sound.2 placed later
  | case9 | case12 | case13 | case14 | case15 | case16 =>
    exact List.forall_mem_singleton.mpr trivial

/-- Every event of sound items is sound: an entity gives the events of its own items. -/
theorem sound_of_mem_events {doctype : Doctype} (doctypeValid : doctype.Valid) (nesting : Nat)
    (pending : List (Placed Item)) (sound : ∀ placed ∈ pending, placed.value.Sound) :
    ∀ placed ∈ events doctype nesting pending, placed.value.Sound := by
  induction nesting generalizing pending with
  | zero =>
    refine sound_of_mem_eventsOf doctypeValid (fun text inner isInside => ?_) pending sound
    cases isInside
  | succ nested inductionHypothesis =>
    refine sound_of_mem_eventsOf doctypeValid (fun text inner isInside => ?_) pending sound
    cases isInside
    exact inductionHypothesis _ (sound_of_mem_items _)

end FormLetter.Xml
