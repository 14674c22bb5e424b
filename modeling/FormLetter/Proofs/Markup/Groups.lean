import FormLetter.Proofs.Markup.Nesting
import FormLetter.Proofs.Markup.Outline

/-!
# What the groups of a match open and close

The groups before a run only open elements, apart from a span that they may close, and those after
it only close elements, apart from a span that they may open. So a walk over all of them can be made
exactly when their names fit together, and the names of a group depend only on whether it was found.
-/

namespace FormLetter.Markup

/-! ## What groups open and close -/

/-- Walking over the tokens opens elements of these names, the innermost first. -/
def OpensAll (tokens : List Token) (names : List (List Char)) : Prop :=
  ∀ opened, walk opened tokens = some (names ++ opened)

/-- Walking over the tokens needs elements of these names, the innermost first, and closes them. -/
def ClosesAll (tokens : List Token) (names : List (List Char)) : Prop :=
  ∀ opened closed, walk opened tokens = some closed ↔ opened = names ++ closed

theorem opensAll_nil : OpensAll [] [] := fun _ => rfl

theorem closesAll_nil : ClosesAll [] [] := fun _ _ => Option.some_inj

theorem OpensAll.append {left right : List Token} {leftNames rightNames : List (List Char)}
    (first : OpensAll left leftNames) (second : OpensAll right rightNames) :
    OpensAll (left ++ right) (rightNames ++ leftNames) := by
  intro opened
  rw [List.append_assoc]
  exact walk_append_of (first opened) (second _)

theorem ClosesAll.append {left right : List Token} {leftNames rightNames : List (List Char)}
    (first : ClosesAll left leftNames) (second : ClosesAll right rightNames) :
    ClosesAll (left ++ right) (leftNames ++ rightNames) := by
  intro opened closed
  rw [List.append_assoc]
  constructor
  · intro walked
    obtain ⟨between, walkedLeft, walkedRight⟩ := walk_append_some walked
    rw [(first opened between).mp walkedLeft, (second between closed).mp walkedRight]
  · intro same
    exact walk_append_of ((first opened _).mpr same) ((second _ closed).mpr rfl)

/-- A walk over tags that open elements, spans that are closed and opened, and tags that close
elements ends exactly when the names fit together. -/
theorem walk_around_iff {starts spanEnd spanStart ends : List Token}
    {startNames endName startName endNames opened closed : List (List Char)}
    (opensStarts : OpensAll starts startNames) (closesSpan : ClosesAll spanEnd endName)
    (opensSpan : OpensAll spanStart startName) (closesEnds : ClosesAll ends endNames) :
    walk opened (starts ++ (spanEnd ++ spanStart) ++ ends) = some closed ↔
      ∃ between, startNames ++ opened = endName ++ between ∧
        startName ++ between = endNames ++ closed := by
  constructor
  · intro walked
    obtain ⟨beforeEnds, walkedFront, walkedEnds⟩ := walk_append_some walked
    obtain ⟨beforeSpans, walkedStarts, walkedSpans⟩ := walk_append_some walkedFront
    obtain ⟨between, walkedEnd, walkedStart⟩ := walk_append_some walkedSpans
    have isBeforeSpans := Option.some.inj ((opensStarts opened).symm.trans walkedStarts)
    have isBeforeEnds := Option.some.inj ((opensSpan between).symm.trans walkedStart)
    exact ⟨between, isBeforeSpans.trans ((closesSpan _ _).mp walkedEnd),
      isBeforeEnds.trans ((closesEnds _ _).mp walkedEnds)⟩
  · rintro ⟨between, sameFront, sameBack⟩
    have walkedSpans : walk (startNames ++ opened) (spanEnd ++ spanStart) =
        some (startName ++ between) :=
      walk_append_of ((closesSpan _ _).mpr sameFront) (opensSpan between)
    exact walk_append_of (walk_append_of (opensStarts opened) walkedSpans)
      ((closesEnds _ _).mpr sameBack)

/-! ## What the groups of a match open and close -/

/-- The bracket of a genuine token whose kind determines it. -/
theorem Token.Genuine.bracket {token : Token} (genuine : token.Genuine) {bracket : Bracket}
    (known : token.kind.bracket? = some bracket) : bracketOf token.text = bracket :=
  bracketOf_kindOf (genuine.kind_eq ▸ known)

/-- A closing bracket closes the innermost element. -/
theorem step_closes_iff {name : List Char} {opened closed : List (List Char)} :
    (Bracket.closes name).step opened = some closed ↔ opened = name :: closed := by
  cases opened with
  | nil => simp [Bracket.step]
  | cons innermost outer => simp [Bracket.step]

/-- Walking over kinds instead of tokens. Kinds that do not determine a bracket are passed over. -/
def walkKinds (opened : List (List Char)) : List Kind → Option (List (List Char))
  | [] => some opened
  | kind :: rest =>
    ((kind.bracket?.getD .neither).step opened).bind fun opened => walkKinds opened rest

/-- A walk over tokens whose kinds determine their brackets is a walk over their kinds, and white
space does not count. -/
theorem walk_eq_walkKinds {tokens : List Token}
    (known : ∀ kind ∈ darkKinds tokens, kind.bracket?.isSome = true)
    (genuine : ∀ token ∈ tokens, token.Genuine) (opened : List (List Char)) :
    walk opened tokens = walkKinds opened (darkKinds tokens) := by
  induction tokens generalizing opened with
  | nil => rfl
  | cons token rest inductionHypothesis =>
    rw [List.forall_mem_cons] at genuine
    rw [walk_cons]
    by_cases white : token.kind = .space
    · have same : darkKinds (token :: rest) = darkKinds rest := by simp [darkKinds, white]
      rw [same] at known ⊢
      rw [genuine.1.bracket (by rw [white]; rfl)]
      exact inductionHypothesis known genuine.2 opened
    · rw [darkKinds_cons white, List.forall_mem_cons] at known
      obtain ⟨bracket, isBracket⟩ := Option.isSome_iff_exists.mp known.1
      rw [darkKinds_cons white, walkKinds, genuine.1.bracket isBracket, isBracket]
      congr 1
      funext between
      exact inductionHypothesis known.2 genuine.2 between

/-! ## Names of groups -/

/-- The names of a group, if it was found. -/
def namesOf (group : List Token) (names : List (List Char)) : List (List Char) :=
  if group.isEmpty then [] else names

@[simp] theorem namesOf_nil (names : List (List Char)) : namesOf [] names = [] := rfl

theorem namesOf_of_ne_nil {group : List Token} (found : group ≠ []) (names : List (List Char)) :
    namesOf group names = names := by
  simp [namesOf, found]

/-- A group that may not have been found opens its names if it was. -/
theorem opensAll_namesOf {group : List Token} {names : List (List Char)}
    (opens : group ≠ [] → OpensAll group names) : OpensAll group (namesOf group names) := by
  by_cases found : group = []
  · subst found
    exact opensAll_nil
  · rw [namesOf_of_ne_nil found]
    exact opens found

theorem closesAll_namesOf {group : List Token} {names : List (List Char)}
    (closes : group ≠ [] → ClosesAll group names) : ClosesAll group (namesOf group names) := by
  by_cases found : group = []
  · subst found
    exact closesAll_nil
  · rw [namesOf_of_ne_nil found]
    exact closes found

/-- A group that is kept opens what it opened. -/
theorem opensAll_kept {group : List Token} {names : List (List Char)} {removed : Bool}
    (opens : group ≠ [] → OpensAll group names) :
    kept group removed ≠ [] → OpensAll (kept group removed) names := by
  cases removed with
  | true => exact fun isKept => absurd rfl isKept
  | false => exact opens

theorem closesAll_kept {group : List Token} {names : List (List Char)} {removed : Bool}
    (closes : group ≠ [] → ClosesAll group names) :
    kept group removed ≠ [] → ClosesAll (kept group removed) names := by
  cases removed with
  | true => exact fun isKept => absurd rfl isKept
  | false => exact closes

/-- The names of the groups on one side of a run, the innermost first. -/
def groupNames (paragraph item row : List Token) : List (List Char) :=
  namesOf paragraph [paragraphName] ++ (namesOf item [itemName] ++ namesOf row [cellName, rowName])

/-- What the groups of a match open and close, as far as they were found. -/
structure Taken.Bracketed (taken : Taken) : Prop where
  rowStart : taken.rowStart ≠ [] → OpensAll taken.rowStart [cellName, rowName]
  itemStart : taken.itemStart ≠ [] → OpensAll taken.itemStart [itemName]
  paragraphStart : taken.paragraphStart ≠ [] → OpensAll taken.paragraphStart [paragraphName]
  spanEnd : taken.spanEnd ≠ [] → ClosesAll taken.spanEnd [spanName]
  spanStart : taken.spanStart ≠ [] → OpensAll taken.spanStart [spanName]
  paragraphEnd : taken.paragraphEnd ≠ [] → ClosesAll taken.paragraphEnd [paragraphName]
  itemEnd : taken.itemEnd ≠ [] → ClosesAll taken.itemEnd [itemName]
  rowEnd : taken.rowEnd ≠ [] → ClosesAll taken.rowEnd [cellName, rowName]

/-- The names of the groups around a run fit together: those that are opened before it are closed
after it, and neighbouring spans are closed and opened in between. -/
def Taken.NamesFit (taken : Taken) (opened closed : List (List Char)) : Prop :=
  ∃ between,
    groupNames taken.paragraphStart taken.itemStart taken.rowStart ++ opened =
        namesOf taken.spanEnd [spanName] ++ between ∧
      namesOf taken.spanStart [spanName] ++ between =
        groupNames taken.paragraphEnd taken.itemEnd taken.rowEnd ++ closed

/-- The tags before a run open the names of their groups. -/
theorem Taken.Bracketed.starts {taken : Taken} (groups : taken.Bracketed) :
    OpensAll (taken.rowStart ++ taken.itemStart ++ taken.paragraphStart)
      (groupNames taken.paragraphStart taken.itemStart taken.rowStart) :=
  ((opensAll_namesOf groups.rowStart).append (opensAll_namesOf groups.itemStart)).append
    (opensAll_namesOf groups.paragraphStart)

/-- The tags after a run close the names of their groups. -/
theorem Taken.Bracketed.ends {taken : Taken} (groups : taken.Bracketed) :
    ClosesAll (taken.paragraphEnd ++ taken.itemEnd ++ taken.rowEnd)
      (groupNames taken.paragraphEnd taken.itemEnd taken.rowEnd) := by
  rw [List.append_assoc]
  exact (closesAll_namesOf groups.paragraphEnd).append
    ((closesAll_namesOf groups.itemEnd).append (closesAll_namesOf groups.rowEnd))

/-- The groups around a run can be walked over exactly when their names fit together. -/
theorem Taken.Bracketed.walk_iff {taken : Taken} (groups : taken.Bracketed)
    {opened closed : List (List Char)} :
    walk opened (taken.lead ++ taken.trail) = some closed ↔ taken.NamesFit opened closed := by
  have regrouped : taken.lead ++ taken.trail =
      (taken.rowStart ++ taken.itemStart ++ taken.paragraphStart) ++
        (taken.spanEnd ++ taken.spanStart) ++
        (taken.paragraphEnd ++ taken.itemEnd ++ taken.rowEnd) := by
    simp [lead, trail]
  rw [regrouped]
  exact walk_around_iff groups.starts (closesAll_namesOf groups.spanEnd)
    (opensAll_namesOf groups.spanStart) groups.ends

/-! ## Groups of regular matches -/

/-- A walk over kinds that close elements closes what the first of them names. -/
theorem walkKinds_close_iff {kind : Kind} {name : List Char} {kinds : List Kind}
    (closing : kind.bracket? = some (.closes name)) (opened closed : List (List Char)) :
    walkKinds opened (kind :: kinds) = some closed ↔
      ∃ outer, opened = name :: outer ∧ walkKinds outer kinds = some closed := by
  rw [walkKinds, closing, Option.getD_some, Option.bind_eq_some_iff]
  simp only [step_closes_iff]

theorem walkKinds_singleton_iff {kind : Kind} {name : List Char}
    (closing : kind.bracket? = some (.closes name)) (opened closed : List (List Char)) :
    walkKinds opened [kind] = some closed ↔ opened = [name] ++ closed := by
  rw [walkKinds_close_iff closing]
  simp [walkKinds]

/-- The end of a row closes the cell and the row; covered cells are empty elements. -/
theorem walkKinds_rowEnd_iff (count : Nat) (opened closed : List (List Char)) :
    walkKinds opened (rowEndKinds count) = some closed ↔
      opened = [cellName, rowName] ++ closed := by
  have covered (between : List (List Char)) :
      walkKinds between (List.replicate count .coveredCell ++ [.rowClose]) = some closed ↔
        between = rowName :: closed := by
    induction count with
    | zero => exact walkKinds_singleton_iff rfl between closed
    | succ count inductionHypothesis => exact inductionHypothesis
  rw [rowEndKinds, walkKinds_close_iff rfl]
  simp only [covered]
  constructor
  · rintro ⟨outer, rfl, rfl⟩
    rfl
  · rintro rfl
    exact ⟨rowName :: closed, rfl, rfl⟩

section Kinds

-- Tokens of which the kinds of all but white space are known.
variable {kinds : List Kind} {names : List (List Char)} {tokens : List Token}

/-- A group opens the elements that its kinds open. -/
theorem opensAll_of_kinds (isKinds : darkKinds tokens = kinds)
    (known : ∀ kind ∈ kinds, kind.bracket?.isSome = true)
    (opening : ∀ opened, walkKinds opened kinds = some (names ++ opened))
    (genuine : ∀ token ∈ tokens, token.Genuine) : OpensAll tokens names := by
  intro opened
  rw [walk_eq_walkKinds (isKinds ▸ known) genuine, isKinds]
  exact opening opened

/-- A group closes the elements that its kinds close. -/
theorem closesAll_of_kinds (isKinds : darkKinds tokens = kinds)
    (known : ∀ kind ∈ kinds, kind.bracket?.isSome = true)
    (closing : ∀ opened closed, walkKinds opened kinds = some closed ↔ opened = names ++ closed)
    (genuine : ∀ token ∈ tokens, token.Genuine) : ClosesAll tokens names := by
  intro opened closed
  rw [walk_eq_walkKinds (isKinds ▸ known) genuine, isKinds]
  exact closing opened closed

end Kinds

theorem rowEndKinds_known (count : Nat) :
    ∀ kind ∈ rowEndKinds count, kind.bracket?.isSome = true := by
  intro kind member
  simp only [rowEndKinds, List.mem_cons, List.mem_append, List.mem_replicate,
    List.not_mem_nil, or_false] at member
  rcases member with rfl | ⟨_, rfl⟩ | rfl <;> rfl

/-- The groups of a match with genuine tokens open and close what their tags say. -/
theorem Taken.Shaped.bracketed {taken : Taken} (shaped : taken.Shaped)
    (genuine : ∀ token ∈ taken.lead ++ taken.trail, token.Genuine) : taken.Bracketed where
  rowStart found :=
    opensAll_of_kinds ((shaped.rowStart.resolve_left found).darkKinds_eq (by decide)) (by decide)
      (fun _ => rfl) fun token member => genuine token (by simp [Taken.lead, member])
  itemStart found :=
    opensAll_of_kinds ((shaped.itemStart.resolve_left found).darkKinds_eq (by decide)) (by decide)
      (fun _ => rfl) fun token member => genuine token (by simp [Taken.lead, member])
  paragraphStart found :=
    opensAll_of_kinds ((shaped.paragraphStart.resolve_left found).darkKinds_eq (by decide))
      (by decide) (fun _ => rfl) fun token member => genuine token (by simp [Taken.lead, member])
  spanEnd found :=
    closesAll_of_kinds (SingleTag.darkKinds_eq (shaped.spanEnd.resolve_left found) (by decide))
      (by decide) (walkKinds_singleton_iff rfl) fun token member =>
        genuine token (by simp [Taken.lead, member])
  spanStart found :=
    opensAll_of_kinds (SingleTag.darkKinds_eq (shaped.spanStart.resolve_left found) (by decide))
      (by decide) (fun _ => rfl) fun token member => genuine token (by simp [Taken.trail, member])
  paragraphEnd found :=
    closesAll_of_kinds ((shaped.paragraphEnd.resolve_left found).darkKinds_eq (by decide))
      (by decide) (walkKinds_singleton_iff rfl) fun token member =>
        genuine token (by simp [Taken.trail, member])
  itemEnd found :=
    closesAll_of_kinds ((shaped.itemEnd.resolve_left found).darkKinds_eq (by decide)) (by decide)
      (walkKinds_singleton_iff rfl) fun token member =>
        genuine token (by simp [Taken.trail, member])
  rowEnd found := by
    obtain ⟨count, isEnd⟩ := shaped.rowEnd.resolve_left found
    exact closesAll_of_kinds (isEnd.darkKinds_eq (space_not_mem_rowEndKinds count))
      (rowEndKinds_known count) (walkKinds_rowEnd_iff count) fun token member =>
        genuine token (by simp [Taken.trail, member])

end FormLetter.Markup
