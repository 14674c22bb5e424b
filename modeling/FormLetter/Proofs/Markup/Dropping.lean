import FormLetter.Proofs.Markup.Balance

/-!
# Structures that are dropped

A match drops a structure when it takes the tags of both ends around its run and writes none of
them. Each kind of tag stands in one group only, so this is told by the groups that were found and
by those that remain, and it is what the compiler decides to collapse.
-/

namespace FormLetter.Markup

open FormLetter.Style

/-! ## Tags of structures -/

/-- The kinds of the tags of structures that can be removed. -/
def structureKinds : List Kind :=
  [.rowOpen, .itemOpen, .paragraphOpen, .paragraphClose, .itemClose, .rowClose]

/-- The group that holds the tags of a kind. -/
def Taken.group (taken : Taken) : Kind → List Token
  | .rowOpen => taken.rowStart
  | .itemOpen => taken.itemStart
  | .paragraphOpen => taken.paragraphStart
  | .paragraphClose => taken.paragraphEnd
  | .itemClose => taken.itemEnd
  | .rowClose => taken.rowEnd
  | _ => []

/-- A match takes tags of both kinds around its run and writes none. -/
def Match.Drops (found : Match) (opens closes : Kind) : Prop :=
  (∃ token ∈ found.taken.lead, token.kind = opens) ∧
    (∃ token ∈ found.taken.trail, token.kind = closes) ∧
    ∀ token ∈ found.writtenBefore ++ found.writtenAfter, token.kind ≠ opens ∧ token.kind ≠ closes

/-- In a shape stands a tag of each of its kinds. -/
theorem SpacedAfter.exists_kind {kinds : List Kind} {tokens : List Token} {kind : Kind}
    (shaped : SpacedAfter kinds tokens) (dark : .space ∉ kinds) (member : kind ∈ kinds) :
    ∃ token ∈ tokens, token.kind = kind := by
  rw [← shaped.darkKinds_eq dark] at member
  exact exists_of_mem_darkKinds member

theorem SpacedBefore.exists_kind {kinds : List Kind} {tokens : List Token} {kind : Kind}
    (shaped : SpacedBefore kinds tokens) (dark : .space ∉ kinds) (member : kind ∈ kinds) :
    ∃ token ∈ tokens, token.kind = kind := by
  rw [← shaped.darkKinds_eq dark] at member
  exact exists_of_mem_darkKinds member

/-- The kind of a tag of a structure, among kinds of which only one is that of a structure. -/
theorem eq_of_structureKinds {kinds : List Kind} {kind only : Kind} (member : kind ∈ kinds)
    (isTag : kind ∈ structureKinds)
    (alone : kinds.filter (structureKinds.contains ·) = [only]) : kind = only := by
  have kept : kind ∈ kinds.filter (structureKinds.contains ·) := by
    simp [member, isTag]
  rw [alone] at kept
  exact List.mem_singleton.mp kept

/-- A tag of a structure before a run stands in the group of its kind. -/
theorem Taken.Shaped.mem_group_of_lead {taken : Taken} (shaped : taken.Shaped) {token : Token}
    (member : token ∈ taken.lead) (isTag : token.kind ∈ structureKinds) :
    token ∈ taken.group token.kind := by
  simp only [Taken.lead, List.mem_append, or_assoc] at member
  rcases member with inRow | inItem | inParagraph | inSpan
  · have kind := (shaped.rowStart.resolve_left (List.ne_nil_of_mem inRow)).kind_mem token inRow
    rw [eq_of_structureKinds kind isTag (by decide : _ = [.rowOpen])]
    exact inRow
  · have kind := (shaped.itemStart.resolve_left (List.ne_nil_of_mem inItem)).kind_mem token inItem
    rw [eq_of_structureKinds kind isTag (by decide : _ = [.itemOpen])]
    exact inItem
  · have kind := (shaped.paragraphStart.resolve_left
      (List.ne_nil_of_mem inParagraph)).kind_mem token inParagraph
    rw [eq_of_structureKinds kind isTag (by decide : _ = [.paragraphOpen])]
    exact inParagraph
  · obtain ⟨span, isSpan, kind⟩ := shaped.spanEnd.resolve_left (List.ne_nil_of_mem inSpan)
    rw [isSpan, List.mem_singleton] at inSpan
    rw [inSpan, kind] at isTag
    exact absurd isTag (by decide)

/-- A tag of a structure after a run stands in the group of its kind. -/
theorem Taken.Shaped.mem_group_of_trail {taken : Taken} (shaped : taken.Shaped) {token : Token}
    (member : token ∈ taken.trail) (isTag : token.kind ∈ structureKinds) :
    token ∈ taken.group token.kind := by
  simp only [Taken.trail, List.mem_append, or_assoc] at member
  rcases member with inSpan | inParagraph | inItem | inRow
  · obtain ⟨span, isSpan, kind⟩ := shaped.spanStart.resolve_left (List.ne_nil_of_mem inSpan)
    rw [isSpan, List.mem_singleton] at inSpan
    rw [inSpan, kind] at isTag
    exact absurd isTag (by decide)
  · have kind := (shaped.paragraphEnd.resolve_left
      (List.ne_nil_of_mem inParagraph)).kind_mem token inParagraph
    rw [eq_of_structureKinds kind isTag (by decide : _ = [.paragraphClose])]
    exact inParagraph
  · have kind := (shaped.itemEnd.resolve_left (List.ne_nil_of_mem inItem)).kind_mem token inItem
    rw [eq_of_structureKinds kind isTag (by decide : _ = [.itemClose])]
    exact inItem
  · have kind := (shaped.rowEnd.resolve_left (List.ne_nil_of_mem inRow)).kind_mem token inRow
    rw [eq_of_structureKinds kind isTag (by decide : _ = [.rowClose])]
    exact inRow

/-- Groups stay in shape when some of them are removed. -/
theorem Match.Regular.shaped_remaining {styles : Table} {found : Match}
    (regular : found.Regular styles) : found.remaining.Shaped := by
  have left {group : List Token} {removed : Bool} {shape : List Token → Prop}
      (shaped : group = [] ∨ shape group) :
      kept group removed = [] ∨ shape (kept group removed) := by
    cases removed with
    | true => exact Or.inl rfl
    | false => exact shaped
  exact ⟨left regular.shaped.rowStart, left regular.shaped.itemStart,
    left regular.shaped.paragraphStart, left regular.shaped.spanEnd, left regular.shaped.spanStart,
    left regular.shaped.paragraphEnd, left regular.shaped.itemEnd, left regular.shaped.rowEnd⟩

/-- A group before a run that was found holds a tag of its kind. -/
theorem Taken.Shaped.exists_lead {taken : Taken} (shaped : taken.Shaped) {kind : Kind}
    (isOpening : kind ∈ [Kind.rowOpen, .itemOpen, .paragraphOpen])
    (found : taken.group kind ≠ []) : ∃ token ∈ taken.lead, token.kind = kind := by
  simp only [List.mem_cons, List.not_mem_nil, or_false] at isOpening
  rcases isOpening with rfl | rfl | rfl
  · obtain ⟨token, member, isKind⟩ :=
      (shaped.rowStart.resolve_left found).exists_kind (by decide) List.mem_cons_self
    exact ⟨token, by simp [lead, member], isKind⟩
  · obtain ⟨token, member, isKind⟩ :=
      (shaped.itemStart.resolve_left found).exists_kind (by decide) List.mem_cons_self
    exact ⟨token, by simp [lead, member], isKind⟩
  · obtain ⟨token, member, isKind⟩ :=
      (shaped.paragraphStart.resolve_left found).exists_kind (by decide) List.mem_cons_self
    exact ⟨token, by simp [lead, member], isKind⟩

/-- A group after a run that was found holds a tag of its kind. -/
theorem Taken.Shaped.exists_trail {taken : Taken} (shaped : taken.Shaped) {kind : Kind}
    (isClosing : kind ∈ [Kind.rowClose, .itemClose, .paragraphClose])
    (found : taken.group kind ≠ []) : ∃ token ∈ taken.trail, token.kind = kind := by
  simp only [List.mem_cons, List.not_mem_nil, or_false] at isClosing
  rcases isClosing with rfl | rfl | rfl
  · obtain ⟨count, ended⟩ := shaped.rowEnd.resolve_left found
    have isLast : Kind.rowClose ∈ rowEndKinds count := by simp [rowEndKinds]
    obtain ⟨token, member, isKind⟩ := ended.exists_kind (space_not_mem_rowEndKinds count) isLast
    exact ⟨token, by simp [trail, member], isKind⟩
  · obtain ⟨token, member, isKind⟩ :=
      (shaped.itemEnd.resolve_left found).exists_kind (by decide) List.mem_cons_self
    exact ⟨token, by simp [trail, member], isKind⟩
  · obtain ⟨token, member, isKind⟩ :=
      (shaped.paragraphEnd.resolve_left found).exists_kind (by decide) List.mem_cons_self
    exact ⟨token, by simp [trail, member], isKind⟩

namespace Match

/-- A match drops tags when it has groups of their kinds of which nothing remains. -/
theorem Regular.drops_iff {styles : Table} {found : Match} (regular : found.Regular styles)
    {opens closes : Kind} (isOpening : opens ∈ [Kind.rowOpen, .itemOpen, .paragraphOpen])
    (isClosing : closes ∈ [Kind.rowClose, .itemClose, .paragraphClose]) :
    found.Drops opens closes ↔
      (found.taken.group opens ≠ [] ∧ found.taken.group closes ≠ []) ∧
        found.remaining.group opens = [] ∧ found.remaining.group closes = [] := by
  have openTag : opens ∈ structureKinds :=
    (by decide : [Kind.rowOpen, .itemOpen, .paragraphOpen] ⊆ structureKinds) isOpening
  have closeTag : closes ∈ structureKinds :=
    (by decide : [Kind.rowClose, .itemClose, .paragraphClose] ⊆ structureKinds) isClosing
  have remaining := regular.shaped_remaining
  rw [Drops, written_eq]
  constructor
  · rintro ⟨⟨start, inLead, rfl⟩, ⟨finish, inTrail, rfl⟩, none⟩
    have inStart := regular.shaped.mem_group_of_lead inLead openTag
    have inFinish := regular.shaped.mem_group_of_trail inTrail closeTag
    refine ⟨⟨List.ne_nil_of_mem inStart, List.ne_nil_of_mem inFinish⟩, ?_, ?_⟩
    · by_contra isKept
      obtain ⟨token, member, isKind⟩ := remaining.exists_lead isOpening isKept
      exact (none token (List.mem_append_left _ member)).1 isKind
    · by_contra isKept
      obtain ⟨token, member, isKind⟩ := remaining.exists_trail isClosing isKept
      exact (none token (List.mem_append_right _ member)).2 isKind
  · rintro ⟨⟨hasStart, hasFinish⟩, noStart, noFinish⟩
    have holds {token : Token} (member : token ∈ found.remaining.lead ++ found.remaining.trail)
        (isTag : token.kind ∈ structureKinds) : token ∈ found.remaining.group token.kind :=
      (List.mem_append.mp member).elim (fun inLead => remaining.mem_group_of_lead inLead isTag)
        (fun inTrail => remaining.mem_group_of_trail inTrail isTag)
    refine ⟨regular.shaped.exists_lead isOpening hasStart,
      regular.shaped.exists_trail isClosing hasFinish, fun token member => ⟨?_, ?_⟩⟩
    · rintro rfl
      exact List.ne_nil_of_mem (holds member openTag) noStart
    · rintro rfl
      exact List.ne_nil_of_mem (holds member closeTag) noFinish

/-- Of two groups that were found nothing remains exactly when they are removed. -/
theorem removed_iff {start finish : List Token} {removed : Bool}
    (found : removed = true → start ≠ [] ∧ finish ≠ []) :
    (start ≠ [] ∧ finish ≠ []) ∧ kept start removed = [] ∧ kept finish removed = [] ↔
      removed = true := by
  cases removed with
  | true => simpa [kept] using found
  | false =>
    simp only [kept, Bool.false_eq_true, if_false, iff_false]
    exact fun both => both.1.1 both.2.1

theorem Regular.drops_paragraph {styles : Table} {found : Match} (regular : found.Regular styles) :
    found.Drops .paragraphOpen .paragraphClose ↔ found.collapse.paragraph = true := by
  rw [regular.drops_iff (by decide) (by decide)]
  apply removed_iff
  intro removed
  simp only [regular.collapse_eq, Bool.and_eq_true, Taken.hasParagraph_iff] at removed
  exact removed.2

theorem Regular.drops_item {styles : Table} {found : Match} (regular : found.Regular styles) :
    found.Drops .itemOpen .itemClose ↔ found.collapse.item = true := by
  rw [regular.drops_iff (by decide) (by decide)]
  apply removed_iff
  intro removed
  simp only [regular.collapse_eq, Bool.and_eq_true, Taken.hasItem_iff] at removed
  exact removed.2

theorem Regular.drops_row {styles : Table} {found : Match} (regular : found.Regular styles) :
    found.Drops .rowOpen .rowClose ↔ found.collapse.row = true := by
  rw [regular.drops_iff (by decide) (by decide)]
  apply removed_iff
  intro removed
  simp only [regular.collapse_eq, Bool.and_eq_true, Taken.hasRow_iff] at removed
  exact removed.2

end Match

end FormLetter.Markup
