/-!
# Values by name

Lists of named values in the order in which the names were first entered, each name once. A name
that is entered again keeps its place; one that was taken out and is entered again comes last.
-/

namespace FormLetter.Keyed

variable {α : Type}

/-- Enters a value. A name that is present keeps its place and takes the value. -/
def put (name : String) (value : α) (entries : List (String × α)) : List (String × α) :=
  if (entries.lookup name).isSome then
    entries.map fun (known, old) => if known == name then (known, value) else (known, old)
  else entries ++ [(name, value)]

/-- Takes a name out. -/
def drop (name : String) (entries : List (String × α)) : List (String × α) :=
  entries.filter fun (known, _) => known != name

/-- The names, in order. -/
def names (entries : List (String × α)) : List String := entries.map (·.1)

/-- True when a name was entered. -/
def has (name : String) (entries : List (String × α)) : Bool := (entries.lookup name).isSome

/-! ## Looking up -/

theorem lookup_cons_eq (name : String) (entry : String × α) (rest : List (String × α)) :
    (entry :: rest).lookup name = if name = entry.1 then some entry.2 else rest.lookup name := by
  rw [List.lookup_cons]
  by_cases same : name = entry.1
  · simp [same]
  · rw [if_neg same, beq_false_of_ne same]

@[simp] theorem names_nil : names ([] : List (String × α)) = [] := rfl

@[simp] theorem names_cons (entry : String × α) (entries : List (String × α)) :
    names (entry :: entries) = entry.1 :: names entries := rfl

@[simp] theorem names_append (left right : List (String × α)) :
    names (left ++ right) = names left ++ names right := List.map_append

theorem lookup_isSome_iff {name : String} {entries : List (String × α)} :
    (entries.lookup name).isSome ↔ name ∈ names entries := by
  induction entries with
  | nil => simp
  | cons entry rest ih =>
    rw [names_cons, List.mem_cons, lookup_cons_eq, ← ih]
    by_cases same : name = entry.1 <;> simp [same]

theorem has_iff {name : String} {entries : List (String × α)} :
    has name entries = true ↔ name ∈ names entries := lookup_isSome_iff

theorem lookup_eq_none {name : String} {entries : List (String × α)} :
    entries.lookup name = none ↔ name ∉ names entries := by
  rw [← lookup_isSome_iff, Bool.not_eq_true, Option.isSome_eq_false_iff, Option.isNone_iff_eq_none]

/-- What is found under a key stands there. -/
theorem mem_of_lookup {κ β : Type} [BEq κ] [LawfulBEq κ] {entries : List (κ × β)} {key : κ}
    {value : β} (found : entries.lookup key = some value) : (key, value) ∈ entries := by
  obtain ⟨before, behind, whole, -⟩ := List.lookup_eq_some_iff.mp found
  rw [whole]
  exact List.mem_append_right _ List.mem_cons_self

/-- Where each name stands once, an entry is what its name leads to. -/
theorem lookup_eq_some_iff {entries : List (String × α)} (distinct : (names entries).Nodup)
    {name : String} {value : α} : entries.lookup name = some value ↔ (name, value) ∈ entries := by
  induction entries with
  | nil => simp
  | cons entry rest ih =>
    rw [names_cons, List.nodup_cons] at distinct
    rw [lookup_cons_eq, List.mem_cons]
    by_cases same : name = entry.1
    · have absent : (name, value) ∉ rest := fun member =>
        distinct.1 (same ▸ List.mem_map_of_mem (f := (·.1)) member)
      rw [if_pos same, or_iff_left absent, Option.some.injEq, Prod.ext_iff]
      exact ⟨fun found => ⟨same, found.symm⟩, fun found => found.2.symm⟩
    · rw [if_neg same, ih distinct.2, Prod.ext_iff]
      exact ⟨Or.inr, fun either => either.elim (fun found => absurd found.1 same) id⟩

/-! ## Entering and taking out -/

/-- What a name leads to when one value is replaced. -/
theorem lookup_replaced (name other : String) (value : α) (entries : List (String × α)) :
    (entries.map fun (known, old) => if known == name then (known, value) else (known, old)).lookup
        other
      = if other = name then (entries.lookup other).map fun _ => value
        else entries.lookup other := by
  induction entries with
  | nil => simp
  | cons entry rest ih =>
    rw [List.map_cons, lookup_cons_eq, lookup_cons_eq, ih]
    by_cases here : entry.1 = name
    · by_cases same : other = name
      · simp [here, same]
      · simp [here, same]
    · by_cases same : other = name
      · have first : name ≠ entry.1 := fun equal => here equal.symm
        simp [here, first, same]
      · simp [here, same]

theorem lookup_put (name other : String) (value : α) (entries : List (String × α)) :
    (put name value entries).lookup other
      = if other = name then some value else entries.lookup other := by
  unfold put
  by_cases same : other = name
  · subst same
    split
    · rename_i present
      obtain ⟨old, found⟩ := Option.isSome_iff_exists.mp present
      rw [lookup_replaced, if_pos rfl, found, if_pos rfl, Option.map_some]
    · rename_i absent
      rw [Option.not_isSome_iff_eq_none] at absent
      rw [List.lookup_append, absent, lookup_cons_eq]
      simp
  · split
    · rw [lookup_replaced, if_neg same]
    · rw [List.lookup_append, lookup_cons_eq, if_neg same]
      simp

theorem names_put (name : String) (value : α) (entries : List (String × α)) :
    names (put name value entries)
      = if name ∈ names entries then names entries else names entries ++ [name] := by
  unfold put
  by_cases present : name ∈ names entries
  · rw [if_pos (lookup_isSome_iff.mpr present), if_pos present]
    unfold names
    rw [List.map_map]
    refine List.map_congr_left fun entry _ => ?_
    by_cases same : entry.1 = name <;> simp [same]
  · rw [if_neg fun found => present (lookup_isSome_iff.mp found), if_neg present, names_append]
    rfl

theorem mem_names_put {name other : String} {value : α} {entries : List (String × α)} :
    other ∈ names (put name value entries) ↔ other = name ∨ other ∈ names entries := by
  rw [names_put]
  split
  · rename_i present
    exact ⟨Or.inr, fun either => either.elim (fun same => same ▸ present) id⟩
  · rw [List.mem_append, List.mem_singleton, or_comm]

theorem nodup_names_put {name : String} {value : α} {entries : List (String × α)}
    (distinct : (names entries).Nodup) : (names (put name value entries)).Nodup := by
  rw [names_put]
  split
  · exact distinct
  · rename_i absent
    rw [List.nodup_append]
    refine ⟨distinct, by simp, fun other member new single same => ?_⟩
    rw [List.mem_singleton] at single
    exact absent (single ▸ same ▸ member)

theorem lookup_drop (name other : String) (entries : List (String × α)) :
    (drop name entries).lookup other = if other = name then none else entries.lookup other := by
  unfold drop
  induction entries with
  | nil => simp
  | cons entry rest ih =>
    rw [List.filter_cons, lookup_cons_eq]
    by_cases dropped : entry.1 = name
    · rw [if_neg (by simpa using dropped), ih]
      by_cases same : other = name
      · simp [same]
      · simp [same, dropped]
    · rw [if_pos (by simpa using dropped), lookup_cons_eq, ih]
      by_cases first : other = entry.1
      · simp [first, dropped]
      · simp [first]

theorem names_drop (name : String) (entries : List (String × α)) :
    names (drop name entries) = (names entries).filter (· != name) := by
  unfold drop names
  rw [List.filter_map]
  rfl

theorem nodup_names_drop {name : String} {entries : List (String × α)}
    (distinct : (names entries).Nodup) : (names (drop name entries)).Nodup := by
  rw [names_drop]
  exact distinct.filter _

end FormLetter.Keyed
