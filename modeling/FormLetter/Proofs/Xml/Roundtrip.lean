import FormLetter.Proofs.Xml.Rereading

/-!
# Round trips of documents

The bytes of a sound document that is written are read as that document. What is written begins with
a heading in ASCII, so the first bytes are no mark of another encoding, and whatever stands behind
the heading, it declares the encoding that the bytes are in.
-/

namespace FormLetter.Xml

/-! ## Bytes of text -/

theorem toList_loop (bytes : ByteArray) (place : Nat) (before : List UInt8) :
    ByteArray.toList.loop bytes place before = before.reverse ++ bytes.data.toList.drop place := by
  fun_induction ByteArray.toList.loop bytes place before with
  | case1 place before inside ih =>
    have member : place < bytes.data.toList.length := inside
    rw [ih, List.reverse_cons, List.append_assoc, List.singleton_append,
      List.drop_eq_getElem_cons member]
    congr 2
    exact getElem!_pos bytes.data place inside
  | case2 place before outside =>
    have beyond : bytes.data.toList.length ≤ place := Nat.le_of_not_lt outside
    rw [List.drop_eq_nil_of_le beyond, List.append_nil]

theorem toList_eq (bytes : ByteArray) : bytes.toList = bytes.data.toList := toList_loop bytes 0 []

/-- The numbers of the bytes of a text. -/
def codesOf (text : List Char) : List Nat :=
  text.flatMap fun c => (String.utf8EncodeChar c).map UInt8.toNat

theorem codesOf_append (left right : List Char) :
    codesOf (left ++ right) = codesOf left ++ codesOf right := List.flatMap_append

theorem data_toUTF8 (text : List Char) :
    (String.ofList text).toUTF8.data.toList = text.flatMap String.utf8EncodeChar := by
  rw [String.toUTF8_eq_toByteArray, String.toByteArray_ofList]
  exact List.toList_data_toByteArray

theorem codes_toUTF8 (text : List Char) :
    (String.ofList text).toUTF8.toList.map UInt8.toNat = codesOf text := by
  rw [toList_eq, data_toUTF8, codesOf, List.map_flatMap]

/-- A character of ASCII is one byte. -/
theorem codesOf_of_ascii {text : List Char} (ascii : ∀ c ∈ text, c.toNat < 128) :
    codesOf text = text.map Char.toNat := by
  induction text with
  | nil => rfl
  | cons c rest ih =>
    rw [List.forall_mem_cons] at ascii
    have small : c.utf8Size = 1 := Char.utf8Size_eq_one_iff.mpr (by
      have bound := ascii.1
      rw [UInt32.le_iff_toNat_le]
      change c.toNat ≤ 127
      omega)
    have single : (String.utf8EncodeChar c).map UInt8.toNat = [c.toNat] := by
      rw [String.utf8EncodeChar_eq_singleton small]
      change [c.val.toUInt8.toNat] = [c.toNat]
      rw [UInt32.toNat_toUInt8]
      change [c.toNat % 256] = [c.toNat]
      rw [Nat.mod_eq_of_lt (by have bound := ascii.1; omega)]
    rw [List.map_cons, ← ih ascii.2]
    unfold codesOf
    rw [List.flatMap_cons, single, List.singleton_append]

theorem fromUTF8?_toUTF8 (text : String) : String.fromUTF8? text.toUTF8 = some text := by
  unfold String.fromUTF8?
  rw [String.toUTF8_eq_toByteArray, dif_pos text.isValidUTF8]
  rfl

/-! ## Headings -/

/-- The heading that is written. -/
def headingOf (version : String) : List Char :=
  "<?xml version='".toList ++ (version.toList ++ (['\''] ++ " encoding='UTF-8'?>".toList))

theorem bound_of_isDigit {c : Char} (digit : c.isDigit = true) : c.toNat < 128 := by
  simp only [Char.isDigit, Bool.and_eq_true, decide_eq_true_eq, ge_iff_le,
    UInt32.le_iff_toNat_le] at digit
  change 48 ≤ c.toNat ∧ c.toNat ≤ 57 at digit
  omega

/-- A version is in ASCII. -/
theorem ascii_of_isVersion {text : List Char} (valid : Heading.isVersion text = true) :
    ∀ c ∈ text, c.toNat < 128 := by
  unfold Heading.isVersion at valid
  split at valid
  · rename_i revision
    have digits := List.all_eq_true.mp valid
    refine List.forall_mem_cons.mpr ⟨by decide, List.forall_mem_cons.mpr ⟨by decide, ?_⟩⟩
    exact fun c member => bound_of_isDigit (digits c member)
  · cases valid

/-- What holds of the characters of a version and of those around it holds of a heading. -/
theorem forall_mem_headingOf {version : String} {holds : Char → Bool}
    (begins : "<?xml version='".toList.all holds = true)
    (inside : ∀ c ∈ version.toList, holds c = true)
    (ends : (['\''] ++ " encoding='UTF-8'?>".toList).all holds = true) :
    ∀ c ∈ headingOf version, holds c = true := by
  intro c member
  rcases List.mem_append.mp member with first | later
  · exact List.all_eq_true.mp begins c first
  · exact (List.mem_append.mp later).elim (inside c) (List.all_eq_true.mp ends c)

theorem ascii_headingOf {version : String} (valid : Heading.isVersion version.toList = true) :
    ∀ c ∈ headingOf version, c.toNat < 128 := by
  have holds := @forall_mem_headingOf version (fun c => decide (c.toNat < 128)) (by decide)
    (fun c member => decide_eq_true (ascii_of_isVersion valid c member)) (by decide)
  exact fun c member => of_decide_eq_true (holds c member)

/-- A heading is on one line. -/
theorem not_mem_headingOf {version : String} (valid : Heading.isVersion version.toList = true) :
    '\r' ∉ headingOf version := by
  have free := not_mem_of_isVersion valid (c := '\r') (by decide)
  have differs := @forall_mem_headingOf version (· != '\r') (by decide)
    (fun c member => bne_iff_ne.mpr fun same => free (same ▸ member)) (by decide)
  exact fun member => bne_iff_ne.mp (differs _ member) rfl

theorem isChar_of_isDigit {c : Char} (digit : c.isDigit = true) : isChar c = true := by
  refine isChar_of_isNameRest ?_
  unfold isNameRest
  rw [digit, Bool.or_true]
  rfl

/-- A version can stand in quotes. -/
theorem takeQuoted_version {version rest : List Char} (valid : Heading.isVersion version = true) :
    takeQuoted ('\'' :: (version ++ ['\''] ++ rest)) = .ok (version, rest) := by
  have free : '\'' ∉ version := not_mem_of_isVersion valid (by decide)
  have characters : IsValid version := by
    unfold Heading.isVersion at valid
    split at valid
    · have digits := List.all_eq_true.mp valid
      exact IsValid.cons (by decide) (IsValid.cons (by decide) fun c member =>
        isChar_of_isDigit (digits c member))
    · cases valid
  have ended : isEndedBy "'".toList version = true := isEndedBy_singleton free
  exact takeThrough_append (by decide) characters ended rest

/-- The heading that is written is taken back. -/
theorem take_headingOf {version : String} (valid : Heading.isVersion version.toList = true)
    (rest : List Char) :
    Heading.take (headingOf version ++ rest) = .ok (⟨version, some "UTF-8"⟩, rest) := by
  have begins (after : List Char) :
      after? "<?xml" ("<?xml version='".toList ++ after) = some (" version='".toList ++ after) := rfl
  have blank (after : List Char) : startsBlank (" version='".toList ++ after) = true := rfl
  have setting (after : List Char) :
      Heading.takeSetting "version" (skipSpace (" version='".toList ++ after))
        = takeQuoted ('\'' :: after) := rfl
  have encoding : Heading.takeOptional "encoding" (" encoding='UTF-8'?>".toList ++ rest)
      = .ok (some "UTF-8".toList, "?>".toList ++ rest) := rfl
  have standalone : Heading.takeOptional "standalone" ("?>".toList ++ rest)
      = .ok (none, "?>".toList ++ rest) := rfl
  have closes : expect "?>" (skipSpace ("?>".toList ++ rest)) = .ok ((), rest) :=
    expect_append "?>" rest
  have whole : headingOf version ++ rest = "<?xml version='".toList
      ++ (version.toList ++ ['\''] ++ (" encoding='UTF-8'?>".toList ++ rest)) := by
    unfold headingOf
    rw [List.append_assoc, List.append_assoc, List.append_assoc, List.append_assoc]
  unfold Heading.take
  rw [whole, begins]
  dsimp only
  rw [if_pos (blank _), setting, bind_of_eq_ok (takeQuoted_version valid)]
  dsimp only
  rw [bind_of_eq_ok encoding]
  dsimp only
  rw [bind_of_eq_ok standalone]
  dsimp only
  rw [bind_of_eq_ok closes]
  dsimp only
  rw [valid, if_pos (by decide), String.ofList_toList]
  rfl

theorem ofName?_utf8 : Charset.ofName? "UTF-8" = some .utf8 := by
  have upper : "UTF-8".toUpper = "UTF-8" := by
    refine String.toList_injective ?_
    rw [String.toUpper, String.toList_map]
    decide
  rw [Charset.ofName?, upper]
  rfl

/-- A written heading says that UTF-8 follows, also to those who take bytes for characters. -/
theorem declared?_print {version : String} (valid : Heading.isVersion version.toList = true)
    (rest : List Char) :
    declared? (String.ofList (headingOf version ++ rest)).toUTF8 = some .utf8 := by
  have read : (Charset.bytes 256 []).decode (String.ofList (headingOf version ++ rest)).toUTF8
      = headingOf version ++ (Charset.bytes 256 []).decode (String.ofList rest).toUTF8 := by
    have ascii := ascii_headingOf valid
    unfold Charset.decode
    dsimp only
    rw [codes_toUTF8, codes_toUTF8, codesOf_append, codesOf_of_ascii ascii, List.map_append,
      List.map_map]
    congr 1
    refine (List.map_congr_left fun c member => ?_).trans (List.map_id _)
    have bound := ascii c member
    have same : Charset.charOf c.toNat = c := by
      unfold Charset.charOf
      rw [Char.ofNat_toNat]
      exact if_pos (beq_self_eq_true _)
    dsimp only [Function.comp_apply]
    rw [if_pos (by omega), List.lookup_nil, Option.getD_none, same]
    rfl
  unfold declared?
  rw [read, take_headingOf valid]
  exact ofName?_utf8

theorem mark?_print (version : String) (rest : List Char) :
    mark? (String.ofList (headingOf version ++ rest)).toUTF8 = none := by
  have begins : (((String.ofList (headingOf version ++ rest)).toUTF8.extract 0 4).toList.map
      UInt8.toNat) = [0x3C, 0x3F, 0x78, 0x6D] := by
    rw [toList_eq, ByteArray.data_extract, Array.toList_extract, data_toUTF8]
    rfl
  unfold mark?
  rw [begins]
  rfl

theorem normalizeLines_eq {text : List Char} (unbroken : '\r' ∉ text) :
    normalizeLines text = text := by
  fun_induction normalizeLines text with
  | case1 | case2 => exact absurd List.mem_cons_self unbroken
  | case3 c rest _ _ ih => rw [ih fun member => unbroken (List.mem_cons_of_mem c member)]
  | case4 => rfl

/-- What is written is decoded as it was. -/
theorem decodeDocument?_print {version : String} (valid : Heading.isVersion version.toList = true)
    {rest : List Char} (unbroken : '\r' ∉ headingOf version ++ rest) :
    decodeDocument? (String.ofList (headingOf version ++ rest)).toUTF8
      = some (headingOf version ++ rest) := by
  unfold decodeDocument?
  rw [mark?_print, declared?_print valid]
  unfold Charset.decode
  dsimp only [Option.map_some]
  rw [fromUTF8?_toUTF8]
  dsimp only
  rw [String.toList_ofList, normalizeLines_eq unbroken]

/-! ## Documents -/

/-- The written form of a document, part by part. -/
theorem print_eq (document : Document) : document.print = headingOf document.version
    ++ '\n' :: printNode (.element document.root document.content) := by
  have heading : ("<?xml version='" ++ document.version ++ "' encoding='UTF-8'?>\n").toList
      = headingOf document.version ++ ['\n'] := by
    have ending : "' encoding='UTF-8'?>\n".toList
        = ['\''] ++ " encoding='UTF-8'?>".toList ++ ['\n'] := rfl
    rw [String.toList_append, String.toList_append]
    refine (congrArg (_ ++ ·) ending).trans ?_
    unfold headingOf
    rw [List.append_assoc, List.append_assoc, List.append_assoc, List.append_assoc,
      List.append_assoc]
  rw [Document.print, heading, List.append_assoc, List.singleton_append]

/-- A line break before markup is one item. -/
theorem items_break (rest : List Char) :
    items ('\n' :: '<' :: rest) = ⟨.characters ['\n'], rest.length + 1⟩ :: items ('<' :: rest) :=
  items_of_takeItem rfl (Nat.lt_succ_self _)

/-- The root is the first item of what is written of it. -/
theorem items_root {tag : Tag} (sound : tag.Sound []) (content : List Node) :
    ∃ isEmpty rest, items (printNode (.element tag content))
      = ⟨tag.item isEmpty, rest.length⟩ :: items rest := by
  by_cases found : content = []
  · subst found
    have ends : EndsName ['/', '>'] := by
      rintro _ ⟨⟩
      decide
    refine ⟨true, [], ?_⟩
    rw [printNode]
    exact items_opening sound ends (takeAttributes_empty [])
  · have whole := printNode_element tag found []
    rw [List.append_nil] at whole
    rw [whole]
    refine ⟨false, _, items_opening sound ?_ (takeAttributes_closing _)⟩
    rintro _ ⟨⟩
    decide

/-- Before the root of a written document there is nothing but a line break. -/
theorem readProlog_print {tag : Tag} (sound : tag.Sound []) (content : List Node) :
    readProlog none (items ('\n' :: printNode (.element tag content)))
      = .ok (.empty, items (printNode (.element tag content))) := by
  obtain ⟨rest, begins⟩ : ∃ rest, printNode (.element tag content) = '<' :: rest := by
    cases content <;> exact ⟨_, rfl⟩
  obtain ⟨isEmpty, after, isRoot⟩ := items_root sound content
  rw [begins] at isRoot ⊢
  rw [items_break, isRoot, readProlog, if_pos (by decide)]
  rfl

theorem Tag.Sound.proper {scope : List Declaration} {tag : Tag} (sound : tag.Sound scope) :
    tag.Proper := by
  rw [← sound.resolved]
  exact proper_resolveTag scope sound.named sound.attributesNamed

theorem Node.Sound.proper {room : Nat} {scope : List Declaration} {node : Node}
    (sound : node.Sound room scope) : node.Proper := by
  induction sound with
  | text => exact .text _
  | comment stands => exact .comment stands
  | instruction named _ stands => exact .instruction named fun text isText => (stands text isText).1
  | element tagSound _ ih => exact .element tagSound.proper ih

/-- A sound document that is written is read as it was, but for texts that stand side by side. -/
theorem read_print {document : Document} (sound : document.Sound) :
    Document.read (String.ofList document.print).toUTF8 = .ok document.joined := by
  have rootSound : document.root.Sound [] := by
    cases sound.tree with
    | element tagSound _ => exact tagSound
  have unbroken : '\r' ∉ headingOf document.version
      ++ '\n' :: printNode (.element document.root document.content) := by
    rw [List.mem_append, List.mem_cons, not_or, not_or]
    exact ⟨not_mem_headingOf sound.version, by decide, sound.tree.proper.not_mem_printNode⟩
  rw [print_eq]
  obtain ⟨root, isRoot, isTag, isContent⟩ := readRoot_print sound
  refine Document.read_eq_ok_iff.mpr ⟨_, _, _, .empty, _, root,
    decodeDocument?_print sound.version unbroken, take_headingOf sound.version _,
    readProlog_print rootSound _, isRoot, ?_⟩
  rw [isTag, isContent]
  rfl

end FormLetter.Xml
