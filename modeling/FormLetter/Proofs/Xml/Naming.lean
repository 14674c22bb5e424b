import FormLetter.Proofs.Xml.Document
import FormLetter.Xml.Graft
import Mathlib.Data.List.Nodup

/-!
# Names that are written and found again

A name in a namespace is written with the qualifier under which the namespace is known, or with one
that is made by number and declared along with it. When it is read, it is told apart again and finds
its namespace, as long as qualifiers and bases are plain names and no qualifier is declared twice.
-/

namespace FormLetter.Xml

/-! ## Names and their qualifiers -/

theorem eq_cons_of_isPlainName {text : List Char} (plain : isPlainName text = true) :
    ∃ first rest, text = first :: rest ∧ isNameStart first = true ∧
      ∀ c ∈ rest, isNameRest c = true := by
  cases text with
  | nil => cases plain
  | cons first rest =>
    simp only [isPlainName, Bool.and_eq_true, List.all_eq_true] at plain
    exact ⟨first, rest, rfl, plain.1.1, plain.1.2⟩

theorem ne_of_isPlainName {text : List Char} (plain : isPlainName text = true) {c : Char}
    (member : c ∈ text) : c ≠ ':' := by
  rintro rfl
  cases text with
  | nil => cases plain
  | cons first rest =>
    simp only [isPlainName, Bool.and_eq_true, Bool.not_eq_true', List.contains_eq_mem,
      decide_eq_false_iff_not] at plain
    exact plain.2 member

/-- What stands before the first colon of a text that begins with a plain name. -/
theorem takeWhile_isPlainName {text : List Char} (plain : isPlainName text = true)
    (rest : List Char) :
    (text ++ rest).takeWhile (· != ':') = text ++ rest.takeWhile (· != ':') :=
  List.takeWhile_append_of_pos fun _ member => bne_iff_ne.mpr (ne_of_isPlainName plain member)

/-- A plain name has no qualifier. -/
theorem splitName_plain {base : String} (plain : isPlainName base.toList = true) :
    splitName base = (none, base, true) := by
  have whole := takeWhile_isPlainName plain []
  simp only [List.append_nil, List.takeWhile_nil] at whole
  unfold splitName
  dsimp only
  rw [whole, List.drop_length]

/-- Two plain names with a colon between them are told apart. -/
theorem splitName_qualified {qualifier base : String} (plain : isPlainName qualifier.toList = true)
    (plainBase : isPlainName base.toList = true) :
    splitName (qualifier ++ ":" ++ base) = (some qualifier, base, true) := by
  obtain ⟨first, rest, begins, -⟩ := eq_cons_of_isPlainName plain
  obtain ⟨c, tail, begun, starts, -⟩ := eq_cons_of_isPlainName plainBase
  have text : (qualifier ++ ":" ++ base).toList = qualifier.toList ++ ':' :: base.toList := by
    simp
  have before := takeWhile_isPlainName plain (':' :: base.toList)
  simp only [List.takeWhile_cons, bne_self_eq_false, Bool.false_eq_true, if_false,
    List.append_nil] at before
  have notColon : (c != ':') = true :=
    bne_iff_ne.mpr (ne_of_isPlainName plainBase (begun ▸ List.mem_cons_self))
  have unmarked : base.toList.contains ':' = false := by
    rw [List.contains_eq_mem, decide_eq_false_iff_not]
    exact fun member => ne_of_isPlainName plainBase member rfl
  unfold splitName
  dsimp only
  rw [text, before, List.drop_left]
  dsimp only
  rw [unmarked, begins, begun]
  dsimp only
  rw [notColon, starts, ← begins, ← begun, String.ofList_toList, String.ofList_toList]
  rfl

theorem isName_plain {base : String} (plain : isPlainName base.toList = true) :
    isName base.toList = true := by
  obtain ⟨first, rest, begins, starts, follow⟩ := eq_cons_of_isPlainName plain
  rw [begins, isName, starts, Bool.true_and, List.all_eq_true]
  exact follow

theorem isName_qualified {qualifier base : String} (plain : isPlainName qualifier.toList = true)
    (plainBase : isPlainName base.toList = true) :
    isName (qualifier ++ ":" ++ base).toList = true := by
  obtain ⟨first, rest, begins, starts, follow⟩ := eq_cons_of_isPlainName plain
  obtain ⟨c, tail, begun, startsToo, followToo⟩ := eq_cons_of_isPlainName plainBase
  have text : (qualifier ++ ":" ++ base).toList = first :: (rest ++ ':' :: c :: tail) := by
    simp [begins, begun]
  rw [text, isName, starts, Bool.true_and, List.all_eq_true]
  intro other member
  simp only [List.mem_append, List.mem_cons] at member
  rcases member with early | rfl | rfl | late
  · exact follow other early
  · decide
  · rw [isNameRest, startsToo]
    rfl
  · exact followToo other late

theorem isName_written {name : Name} (plainBase : isPlainName name.base.toList = true)
    (plain : ∀ qualifier ∈ name.qualifier, isPlainName qualifier.toList = true) :
    isName name.written.toList = true := by
  unfold Name.written
  split
  · exact isName_plain plainBase
  · rename_i qualifier isQualifier
    exact isName_qualified (plain qualifier isQualifier) plainBase

/-! ## Names that find their namespaces -/

theorem splitName_written {name : Name} {qualifier : String}
    (isQualifier : name.qualifier = some qualifier) (plain : isPlainName qualifier.toList = true)
    (plainBase : isPlainName name.base.toList = true) :
    splitName name.written = (some qualifier, name.base, true) := by
  unfold Name.written
  rw [isQualifier]
  exact splitName_qualified plain plainBase

/-- A name in a namespace is written and found again, and nothing is noticed. -/
theorem elementName_written {scope : List Declaration} {name : Name} {uri : String}
    (plain : ∀ qualifier ∈ name.qualifier, isPlainName qualifier.toList = true)
    (plainBase : isPlainName name.base.toList = true) (located : name.uri = some uri)
    (some_ : uri.isEmpty = false) (bound : boundTo? scope name.qualifier = some uri) :
    elementName scope name.written = (name, []) := by
  obtain ⟨qualifier, _, base⟩ := name
  cases located
  unfold elementName
  cases qualifier with
  | none =>
    rw [show (Name.mk none (some uri) base).written = base from rfl, splitName_plain plainBase]
    dsimp only at bound ⊢
    rw [bound]
    dsimp only
    rw [some_]
    rfl
  | some qualifier =>
    rw [splitName_written rfl (plain qualifier rfl) plainBase]
    dsimp only at bound ⊢
    rw [bound]
    rfl

/-- So is the name of an attribute, which has a qualifier. -/
theorem attributeName_written {scope : List Declaration} {name : Name} {uri qualifier : String}
    (isQualifier : name.qualifier = some qualifier) (plain : isPlainName qualifier.toList = true)
    (plainBase : isPlainName name.base.toList = true) (located : name.uri = some uri)
    (some_ : uri.isEmpty = false) (bound : boundTo? scope (some qualifier) = some uri) :
    attributeName scope name.written = (name, []) := by
  unfold attributeName
  rw [splitName_written isQualifier plain plainBase]
  refine elementName_written (fun other member => ?_) plainBase located some_ ?_
  · rw [isQualifier, Option.mem_some_iff] at member
    exact member ▸ plain
  · rw [isQualifier]
    exact bound

/-! ## Scopes -/

theorem find?_qualifier_eq_some_iff {scope : List Declaration}
    (distinct : (scope.map (·.qualifier)).Nodup) {qualifier : Option String}
    {declaration : Declaration} :
    (scope.find? (·.qualifier == qualifier)) = some declaration ↔
      declaration ∈ scope ∧ declaration.qualifier = qualifier := by
  induction scope with
  | nil => simp
  | cons first rest ih =>
    rw [List.map_cons, List.nodup_cons] at distinct
    rw [List.find?_cons, List.mem_cons]
    by_cases here : first.qualifier = qualifier
    · rw [beq_iff_eq.mpr here]
      dsimp only
      rw [Option.some.injEq]
      constructor
      · rintro rfl
        exact ⟨Or.inl rfl, here⟩
      · rintro ⟨rfl | member, same⟩
        · rfl
        · exact absurd (List.mem_map.mpr ⟨declaration, member, same.trans here.symm⟩) distinct.1
    · rw [beq_false_of_ne here]
      dsimp only
      rw [ih distinct.2]
      constructor
      · exact fun ⟨member, same⟩ => ⟨Or.inr member, same⟩
      · rintro ⟨rfl | member, same⟩
        · exact absurd same here
        · exact ⟨member, same⟩

/-- Where no qualifier is declared twice, it does not matter which declaration comes first. -/
theorem boundTo?_reverse {scope : List Declaration} (distinct : (scope.map (·.qualifier)).Nodup)
    (qualifier : Option String) : boundTo? scope.reverse qualifier = boundTo? scope qualifier := by
  have backwards : (scope.reverse.map (·.qualifier)).Nodup := by
    rw [List.map_reverse]
    exact List.nodup_reverse.mpr distinct
  have same : scope.reverse.find? (·.qualifier == qualifier)
      = scope.find? (·.qualifier == qualifier) := by
    refine Option.ext fun declaration => ?_
    rw [find?_qualifier_eq_some_iff backwards, find?_qualifier_eq_some_iff distinct,
      List.mem_reverse]
  unfold boundTo?
  rw [same]

theorem boundTo?_cons (declaration : Declaration) (scope : List Declaration)
    {qualifier : Option String} (isFree : qualifier ≠ some "xml") :
    boundTo? (declaration :: scope) qualifier
      = if declaration.qualifier = qualifier then some declaration.uri
        else boundTo? scope qualifier := by
  have found (scope : List Declaration) : boundTo? scope qualifier
      = (scope.find? (·.qualifier == qualifier)).map (·.uri) := by
    unfold boundTo?
    rw [beq_false_of_ne isFree]
    rfl
  rw [found, found, List.find?_cons]
  by_cases here : declaration.qualifier = qualifier
  · rw [beq_iff_eq.mpr here, if_pos here]
    rfl
  · rw [beq_false_of_ne here, if_neg here]

theorem bound_of_knownAs? {scope : List Declaration} {uri : String}
    {isUsable : Declaration → Bool} {qualifier : Option String}
    (known : knownAs? scope uri isUsable = some qualifier) :
    ∃ declaration ∈ scope, declaration.qualifier = qualifier ∧ isUsable declaration = true ∧
      boundTo? scope qualifier = some uri := by
  obtain ⟨declaration, found, rfl⟩ := Option.map_eq_some_iff.mp known
  have holds := List.find?_some found
  simp only [Bool.and_eq_true, beq_iff_eq] at holds
  exact ⟨declaration, List.mem_of_find?_eq_some found, rfl, holds.1.2, holds.2⟩

/-- A namespace is known by what was declared last. -/
theorem knownAs?_cons {scope : List Declaration} {qualifier uri : String}
    {isUsable : Declaration → Bool} (isFree : qualifier ≠ "xml")
    (usable : isUsable ⟨some qualifier, uri⟩ = true) :
    knownAs? (⟨some qualifier, uri⟩ :: scope) uri isUsable = some (some qualifier) := by
  have free : (some qualifier : Option String) ≠ some "xml" := fun same =>
    isFree (Option.some.inj same)
  unfold knownAs?
  rw [List.find?_cons, boundTo?_cons _ _ free]
  simp [usable]

/-! ## New names -/

/-- A qualifier that is made by number. -/
def numbered (number : Nat) : String := "ns" ++ toString number

theorem isPlainName_numbered (number : Nat) : isPlainName (numbered number).toList = true := by
  have text : (numbered number).toList = 'n' :: 's' :: Nat.toDigits 10 number := by
    simp [numbered, Nat.repr]
  have digits {c : Char} (member : c ∈ Nat.toDigits 10 number) : c.isDigit = true :=
    Nat.isDigit_of_mem_toDigits (by decide) (by decide) member
  rw [text]
  simp only [isPlainName, Bool.and_eq_true, List.all_eq_true, Bool.not_eq_true',
    List.contains_eq_mem, decide_eq_false_iff_not, List.mem_cons, not_or]
  refine ⟨⟨by decide, fun c member => ?_⟩, by decide, by decide, fun member => ?_⟩
  · rcases member with rfl | member
    · decide
    · simp [isNameRest, digits member]
  · exact absurd (digits member) (by decide)

theorem numbered_ne (number : Nat) {other : String} (differs : other.toList.head? ≠ some 'n') :
    numbered number ≠ other := by
  rintro rfl
  simp [numbered] at differs

/-- True for a declaration under which elements, or attributes, can be known. -/
def isUsable (isAttribute : Bool) (declaration : Declaration) : Bool :=
  !isAttribute || declaration.qualifier.isSome

theorem freshQualifier_run (scope : List Declaration) (made : Nat) :
    ∃ number more, (freshQualifier scope).run made = (numbered number, more) := ⟨_, _, rfl⟩

/-- A new name takes a qualifier that is known, or one that it declares. -/
theorem newName_cases (scope : List Declaration) (isAttribute : Bool) (uri base : String)
    (made : Nat) :
    (∃ qualifier, knownAs? scope uri (isUsable isAttribute) = some qualifier ∧
      (newName scope isAttribute uri base).run made
        = ((⟨qualifier, some uri, base⟩, none), made)) ∨
    ∃ number more, knownAs? scope uri (isUsable isAttribute) = none ∧
      (newName scope isAttribute uri base).run made
        = ((⟨some (numbered number), some uri, base⟩, some ⟨some (numbered number), uri⟩), more) := by
  unfold newName
  split
  · rename_i qualifier known
    exact Or.inl ⟨qualifier, known, rfl⟩
  · rename_i unknown
    obtain ⟨number, more, ran⟩ := freshQualifier_run scope made
    refine Or.inr ⟨number, more, unknown, ?_⟩
    rw [StateT.run_bind, ran]
    rfl

end FormLetter.Xml
