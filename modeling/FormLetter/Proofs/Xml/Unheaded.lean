import FormLetter.Proofs.Xml.Roundtrip

/-!
# Elements without a heading

The written form of an element is a text of its own, also without a heading. Its first bytes are an
opening bracket and the beginning of a name; so they are no mark of another encoding and begin no
heading, and the text is taken for UTF-8 of the first version. If the element is sound with nothing
around it, the text is read as the element, unless the last that is noticed is an error; then it is
refused.
-/

namespace FormLetter.Xml

/-! ## First bytes -/

/-- The first byte of a character is its number, or none of ASCII. -/
theorem codesOf_cons (c : Char) (rest : List Char) :
    ∃ code more, codesOf (c :: rest) = code :: more ∧ (code < 128 → code = c.toNat) := by
  have whole : codesOf (c :: rest)
      = (String.utf8EncodeChar c).map UInt8.toNat ++ codesOf rest := rfl
  rw [whole]
  unfold String.utf8EncodeChar
  dsimp only
  split
  · rename_i small
    refine ⟨_, _, rfl, fun _ => ?_⟩
    rw [UInt8.toNat_ofNat', Nat.mod_eq_of_lt (by omega)]
    rfl
  · split
    · refine ⟨_, _, rfl, fun ascii => ?_⟩
      rw [UInt8.toNat_ofNat', Nat.mod_eq_of_lt (by omega)] at ascii
      omega
    · split
      · refine ⟨_, _, rfl, fun ascii => ?_⟩
        rw [UInt8.toNat_ofNat', Nat.mod_eq_of_lt (by omega)] at ascii
        omega
      · refine ⟨_, _, rfl, fun ascii => ?_⟩
        rw [UInt8.toNat_ofNat', Nat.mod_eq_of_lt (by omega)] at ascii
        omega

/-- Behind an opening bracket, the first byte of a name is neither zero nor a question mark. -/
theorem codesOf_markup {first : Char} (starts : isNameStart first = true) (rest : List Char) :
    ∃ code more, codesOf ('<' :: first :: rest) = 60 :: code :: more ∧ code ≠ 0 ∧ code ≠ 63 := by
  obtain ⟨code, more, codes, isFirst⟩ := codesOf_cons first rest
  have differs {other : Char} (noStart : isNameStart other = false) (ascii : other.toNat < 128) :
      code ≠ other.toNat := by
    rintro rfl
    have same : first = other := Char.toNat_inj.mp (isFirst ascii).symm
    rw [same, noStart] at starts
    cases starts
  refine ⟨code, more, ?_, ?_, ?_⟩
  · have bracket : codesOf ['<'] = [60] := rfl
    rw [← List.singleton_append, codesOf_append, bracket, codes, List.singleton_append]
  · exact differs (by decide : isNameStart '\x00' = false) (by decide)
  · exact differs (by decide : isNameStart '?' = false) (by decide)

/-- No heading begins where a name does. -/
theorem take_markup {first : Char} (isFirst : first ≠ '?') (rest : List Char) :
    Heading.take ('<' :: first :: rest) = .ok (⟨"1.0", none⟩, '<' :: first :: rest) := by
  have none_ : after? "<?xml" ('<' :: first :: rest) = none := by
    have differs : ('?' == first) = false := beq_eq_false_iff_ne.mpr isFirst.symm
    unfold after?
    change (if ('<' == '<' && ('?' == first && _)) = true then _ else none) = none
    rw [differs]
    rfl
  unfold Heading.take
  rw [none_]

/-- The character that a byte is taken for. -/
def byteChar (byte : Nat) : Char := if byte < 256 then Charset.charOf byte else malformed

theorem byteChar_ne {byte : Nat} (notMark : byte ≠ 63) : byteChar byte ≠ '?' := by
  have differs : malformed ≠ '?' := by decide
  unfold byteChar Charset.charOf
  dsimp only
  split
  · split
    · rename_i same
      intro isMark
      rw [isMark] at same
      exact notMark (beq_iff_eq.mp same).symm
    · exact differs
  · exact differs

/-- Without a heading, a text is taken for UTF-8. -/
theorem decodeDocument?_markup {first : Char} (starts : isNameStart first = true) {rest : List Char}
    (unbroken : '\r' ∉ '<' :: first :: rest) :
    decodeDocument? (String.ofList ('<' :: first :: rest)).toUTF8
      = some ('<' :: first :: rest) := by
  obtain ⟨code, more, codes, notZero, notMark⟩ := codesOf_markup starts rest
  have bytes : (String.ofList ('<' :: first :: rest)).toUTF8.toList.map UInt8.toNat
      = 60 :: code :: more := by
    rw [codes_toUTF8, codes]
  have noMark : mark? (String.ofList ('<' :: first :: rest)).toUTF8 = none := by
    have begins : (((String.ofList ('<' :: first :: rest)).toUTF8.extract 0 4).toList.map
        UInt8.toNat) = 60 :: code :: more.take 2 := by
      rw [toList_eq] at bytes ⊢
      rw [ByteArray.data_extract, Array.toList_extract, List.extract_eq_take_drop, List.map_take,
        List.map_drop, bytes]
      rfl
    unfold mark?
    rw [begins]
    split
    case h_4 isMark => exact absurd (List.cons.inj (List.cons.inj isMark).2).1 notZero
    case h_6 => rfl
    all_goals rename_i isMark; exact absurd (List.cons.inj isMark).1 (by decide)
  have undeclared : declared? (String.ofList ('<' :: first :: rest)).toUTF8 = some .utf8 := by
    have read : (Charset.bytes 256 []).decode (String.ofList ('<' :: first :: rest)).toUTF8
        = '<' :: byteChar code :: more.map byteChar := by
      unfold Charset.decode
      dsimp only
      rw [bytes]
      rfl
    unfold declared?
    rw [read, take_markup (byteChar_ne notMark)]
  unfold decodeDocument?
  rw [noMark, undeclared]
  unfold Charset.decode
  dsimp only [Option.map_some]
  rw [fromUTF8?_toUTF8]
  dsimp only
  rw [String.toList_ofList, normalizeLines_eq unbroken]

/-! ## Elements -/

section

variable {tag : Tag} {content : List Node}

/-- An element begins with a bracket and a name. -/
theorem printNode_begins (named : isName tag.name.written.toList = true) (content : List Node) :
    ∃ first rest, isNameStart first = true ∧
      printNode (.element tag content) = '<' :: first :: rest := by
  obtain ⟨first, others, isName, starts⟩ := exists_cons_of_isName named
  cases content with
  | nil =>
    rw [printNode, printTag_eq, isName]
    exact ⟨first, _, starts, rfl⟩
  | cons node more =>
    have whole := printNode_element tag (List.cons_ne_nil node more) []
    rw [List.append_nil, printTag_eq, isName] at whole
    exact ⟨first, _, starts, whole⟩

/-- The text of an element that is sound with nothing around it is read up to the root. -/
theorem read_root (sound : (Node.element tag content).Sound depthLimit []) :
    ∃ (remarks : Remarks) (root : Level),
      remarks.map (·.value) = noticesOf [] (.element tag content) ∧
        root.tag = tag ∧ root.content = joinedOnto [] content ∧
        ∃ refuse : Nat → Malformed,
          Document.read (String.ofList (printNode (.element tag content))).toUTF8
            = match readEpilog remarks root [] with
              | .error unread => .error (refuse unread)
              | .ok root => .ok ⟨"1.0", root.tag, root.content.reverse⟩ := by
  have rootSound : tag.Sound [] := by
    cases sound with
    | element tagSound _ => exact tagSound
  obtain ⟨first, rest, starts, begins⟩ := printNode_begins rootSound.named content
  have unbroken : '\r' ∉ '<' :: first :: rest := begins ▸ sound.proper.not_mem_printNode
  have notMark : first ≠ '?' := by
    rintro rfl
    cases (starts : false = true)
  obtain ⟨isEmpty, after, isRoot⟩ := items_root rootSound content
  obtain ⟨remarks, root, isNoticed, read, isTag, isContent⟩ := readRoot_eq_readEpilog sound
  have read : readRoot (events .empty Doctype.nestingLimit
      (items (printNode (.element tag content)))) = readEpilog remarks root [] := read
  let text := printNode (.element tag content)
  refine ⟨remarks, root, isNoticed, isTag, isContent,
    fun unread => ⟨(text.take (text.length - unread)).count '\n' + 1⟩, ?_⟩
  have prolog : readProlog none (items (printNode (.element tag content)))
      = .ok (.empty, items (printNode (.element tag content))) := by
    rw [isRoot]
    rfl
  unfold Document.read
  rw [begins, decodeDocument?_markup starts unbroken]
  dsimp only
  unfold Document.readText
  rw [take_markup notMark]
  dsimp only
  rw [← begins, prolog]
  dsimp only
  generalize readRoot (events .empty Doctype.nestingLimit
    (items (printNode (.element tag content)))) = reading at read
  subst read
  cases readEpilog remarks root [] with
  | error unread => rfl
  | ok root => rfl

/-- What is written of an element is read as the element, when the last that is noticed is no
error. -/
theorem read_printNode (sound : (Node.element tag content).Sound depthLimit [])
    (accepted : (noticesOf [] (.element tag content)).getLast? ≠ some .error) :
    Document.read (String.ofList (printNode (.element tag content))).toUTF8
      = .ok (⟨"1.0", tag, content⟩ : Document).joined := by
  obtain ⟨remarks, root, isNoticed, rfl, isContent, _, read⟩ := read_root sound
  rw [← isNoticed] at accepted
  rw [read, readEpilog_nil root accepted]
  dsimp only
  rw [isContent]
  rfl

/-- Otherwise it is refused. -/
theorem refused_printNode (sound : (Node.element tag content).Sound depthLimit [])
    (refused : (noticesOf [] (.element tag content)).getLast? = some .error) :
    ∃ fault, Document.read (String.ofList (printNode (.element tag content))).toUTF8
      = .error fault := by
  obtain ⟨remarks, root, isNoticed, -, -, _, read⟩ := read_root sound
  rw [← isNoticed] at refused
  obtain ⟨unread, isRefused⟩ := readEpilog_refused root refused
  rw [read, isRefused]
  exact ⟨_, rfl⟩

end

end FormLetter.Xml
