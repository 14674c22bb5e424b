import FormLetter.Markup.Token

/-!
# Nesting of tags

A tag opens an element, closes one, or does neither. Tokens are gone through with the names of the
open elements on a stack; they are well nested when every closing tag closes the element that was
opened last and nothing stays open. The law that carries the proofs about compiled parts is that a
walk can be cut anywhere, and that it does not look below the elements that it closes.

A kind that the compiler tells apart says by itself which bracket the token is. Only tokens of the
kind `other` have brackets that their kind does not know.
-/

namespace FormLetter.Markup

open FormLetter.Text

/-- What a token does to the elements that are open. -/
inductive Bracket where
  | opens (name : List Char)
  | closes (name : List Char)
  | neither
  deriving DecidableEq, Repr

/-- The bracket that a piece of markup is. Comments, instructions, declarations, empty elements and
text are none. The name of an opening tag ends at white space, and so does the name of a closing
one; what counts as white space is left open. -/
def bracketBy (blank : Char → Bool) (text : List Char) : Bracket :=
  match text with
  | '<' :: first :: rest =>
    if first == '/' then .closes (rest.dropLast.reverse.dropWhile blank).reverse
    else if first == '!' || first == '?' || rest.dropLast.getLast? == some '/' then .neither
    else .opens ((first :: rest.dropLast).takeWhile (!blank ·))
  | _ => .neither

/-- The bracket that a piece of markup is to the compiler, whose names end at any white space. -/
def bracketOf (text : List Char) : Bracket :=
  bracketBy isBlank text

/-! ## Walking -/

/-- The open elements after one bracket, innermost first. A closing tag has to name the innermost
one. -/
def Bracket.step (opened : List (List Char)) : Bracket → Option (List (List Char))
  | .opens name => some (name :: opened)
  | .closes name =>
    match opened with
    | [] => none
    | innermost :: outer => if innermost = name then some outer else none
  | .neither => some opened

/-- The open elements after some pieces of text, innermost first, for a reading of tags. -/
def walkBy (read : List Char → Bracket) (opened : List (List Char)) :
    List (List Char) → Option (List (List Char))
  | [] => some opened
  | text :: rest => ((read text).step opened).bind fun opened => walkBy read opened rest

/-- The open elements after some tokens, innermost first. -/
def walk (opened : List (List Char)) (tokens : List Token) : Option (List (List Char)) :=
  walkBy bracketOf opened (tokens.map Token.text)

/-- Every tag has its partner, and elements do not overlap. -/
def WellNested (tokens : List Token) : Prop :=
  walk [] tokens = some []

instance (tokens : List Token) : Decidable (WellNested tokens) :=
  inferInstanceAs (Decidable (walk [] tokens = some []))

@[simp] theorem walk_nil (opened : List (List Char)) : walk opened [] = some opened := rfl

theorem walk_cons (opened : List (List Char)) (token : Token) (rest : List Token) :
    walk opened (token :: rest) =
      ((bracketOf token.text).step opened).bind fun opened => walk opened rest := rfl

/-- A walk goes on where the walk over the pieces before it ended. -/
theorem walkBy_append (read : List Char → Bracket) (opened : List (List Char))
    (left right : List (List Char)) :
    walkBy read opened (left ++ right) =
      (walkBy read opened left).bind fun opened => walkBy read opened right := by
  induction left generalizing opened with
  | nil => rfl
  | cons text rest inductionHypothesis =>
    rw [List.cons_append, walkBy, walkBy, Option.bind_assoc]
    congr 1
    funext after
    exact inductionHypothesis after

/-- A walk goes on where the walk over the tokens before it ended. -/
theorem walk_append (opened : List (List Char)) (left right : List Token) :
    walk opened (left ++ right) = (walk opened left).bind fun opened => walk opened right := by
  rw [walk, List.map_append, walkBy_append]
  rfl

/-- A walk over two lists of tokens that ends has passed a stack between them. -/
theorem walk_append_some {opened closed : List (List Char)} {left right : List Token}
    (walked : walk opened (left ++ right) = some closed) :
    ∃ between, walk opened left = some between ∧ walk between right = some closed := by
  rw [walk_append] at walked
  exact Option.bind_eq_some_iff.mp walked

/-- Two walks that fit together are one. -/
theorem walk_append_of {opened between closed : List (List Char)} {left right : List Token}
    (first : walk opened left = some between) (second : walk between right = some closed) :
    walk opened (left ++ right) = some closed := by
  rw [walk_append, first]
  exact second

/-- One bracket does not look below the elements that it closes. -/
theorem step_frame {bracket : Bracket} {opened closed : List (List Char)}
    (stepped : bracket.step opened = some closed) (outer : List (List Char)) :
    bracket.step (opened ++ outer) = some (closed ++ outer) := by
  cases bracket with
  | opens name =>
    simp only [Bracket.step, Option.some.injEq] at stepped
    subst stepped
    rfl
  | closes name =>
    cases opened with
    | nil => simp [Bracket.step] at stepped
    | cons innermost rest =>
      simp only [Bracket.step, Option.ite_none_right_eq_some, Option.some.injEq] at stepped
      obtain ⟨same, rfl⟩ := stepped
      simp [Bracket.step, same]
  | neither =>
    simp only [Bracket.step, Option.some.injEq] at stepped
    subst stepped
    rfl

/-- A walk does not look below the elements that it closes: what is open around it stays open. -/
theorem walk_frame {opened closed : List (List Char)} {tokens : List Token}
    (walked : walk opened tokens = some closed) (outer : List (List Char)) :
    walk (opened ++ outer) tokens = some (closed ++ outer) := by
  induction tokens generalizing opened with
  | nil =>
    simp only [walk_nil, Option.some.injEq] at walked
    subst walked
    rfl
  | cons token rest inductionHypothesis =>
    rw [walk_cons] at walked
    obtain ⟨after, stepped, walkedRest⟩ := Option.bind_eq_some_iff.mp walked
    rw [walk_cons, step_frame stepped outer]
    exact inductionHypothesis walkedRest

/-- Tokens that are no brackets leave the open elements as they are. -/
theorem walk_of_neither {tokens : List Token}
    (none : ∀ token ∈ tokens, bracketOf token.text = .neither) (opened : List (List Char)) :
    walk opened tokens = some opened := by
  induction tokens with
  | nil => rfl
  | cons token rest inductionHypothesis =>
    rw [walk_cons, none token List.mem_cons_self]
    exact inductionHypothesis fun other member => none other (List.mem_cons_of_mem token member)

/-! ## Brackets of kinds -/

/-- The name of a table row. -/
def rowName : List Char := "table:table-row".toList

/-- The name of a table cell. -/
def cellName : List Char := "table:table-cell".toList

/-- The name of a list item. -/
def itemName : List Char := "text:list-item".toList

/-- The name of a paragraph. -/
def paragraphName : List Char := "text:p".toList

/-- The name of a span. -/
def spanName : List Char := "text:span".toList

/-- The bracket of every token of a kind, where the kind determines it. -/
def Kind.bracket? : Kind → Option Bracket
  | rowOpen => some (.opens rowName)
  | rowClose => some (.closes rowName)
  | cellOpen => some (.opens cellName)
  | cellClose => some (.closes cellName)
  | itemOpen => some (.opens itemName)
  | itemClose => some (.closes itemName)
  | paragraphOpen => some (.opens paragraphName)
  | paragraphClose => some (.closes paragraphName)
  | spanOpen => some (.opens spanName)
  | spanClose => some (.closes spanName)
  | coveredCell | inlineSpace | space | text => some .neither
  | other => none

/-- The bracket of a tag of a shape. -/
def Shape.bracket (shape : Shape) (element : String) : Bracket :=
  match shape with
  | .opening => .opens element.toList
  | .closing => .closes element.toList
  | .empty => .neither

/-- True for element names that a tag can be read back from, for a reading of white space. -/
def isPlainNameBy (blank : Char → Bool) (name : List Char) : Bool :=
  match name with
  | [] => false
  | first :: _ => first != '!' && first != '?' && name.all fun c => !blank c && c != '/'

/-- True for element names that the compiler can read back from a tag. -/
def isPlainName (name : List Char) : Bool :=
  isPlainNameBy isBlank name

theorem head?_of_isPlainNameBy {blank : Char → Bool} {name : List Char}
    (plain : isPlainNameBy blank name = true) : ∃ first, name.head? = some first ∧ first ≠ '/' := by
  cases name with
  | nil => exact absurd plain Bool.false_ne_true
  | cons first rest =>
    simp only [isPlainNameBy, List.all_cons, Bool.and_eq_true, bne_iff_ne, ne_eq] at plain
    exact ⟨first, rfl, plain.2.1.2⟩

/-- The rows of the table of tags agree with the brackets of kinds, and their names can be read
back. -/
theorem tagKinds_brackets : ∀ row ∈ tagKinds,
    isPlainName row.2.1.toList = true ∧ row.2.2.bracket? = some (row.1.bracket row.2.1) := by
  decide

/-- A text that begins with a lead is the lead and what comes after it. -/
theorem eq_append_of_afterName? {lead : String} {text tail : List Char}
    (found : afterName? lead text = some tail) : text = lead.toList ++ tail := by
  simp only [afterName?, Option.ite_none_right_eq_some, Option.some.injEq,
    List.isPrefixOf_iff_prefix] at found
  obtain ⟨begins, rfl⟩ := found
  exact (List.prefix_iff_eq_append.mp begins).symm

/-- A text whose last character is known is what stands before it and that character. -/
theorem eq_dropLast_append {text : List Char} {last : Char}
    (ends : (text.getLast? == some last) = true) : text = text.dropLast ++ [last] := by
  obtain ⟨front, rfl⟩ := List.getLast?_eq_some_iff.mp (beq_iff_eq.mp ends)
  simp

/-- The bracket of an opening tag: its body begins with white space or is empty, so its name ends
where the element name ends. -/
theorem bracketBy_opening {blank : Char → Bool} {name body : List Char}
    (plain : isPlainNameBy blank name = true)
    (begins : body.head?.all blank = true) (isOpen : body.getLast? ≠ some '/') :
    bracketBy blank ('<' :: (name ++ body ++ ['>'])) = .opens name := by
  cases name with
  | nil => simp [isPlainNameBy] at plain
  | cons first rest =>
    simp only [isPlainNameBy, List.all_cons, Bool.and_eq_true, bne_iff_ne, ne_eq,
      Bool.not_eq_true', List.all_eq_true] at plain
    obtain ⟨⟨notMark, notQuery⟩, ⟨firstDark, notSlash⟩, restPlain⟩ := plain
    have notEmpty : (rest ++ body).getLast? ≠ some '/' := by
      intro ends
      rw [List.getLast?_append] at ends
      cases last : body.getLast? with
      | some c =>
        rw [last, Option.some_or, Option.some.injEq] at ends
        exact isOpen (last.trans (congrArg some ends))
      | none =>
        rw [last, Option.none_or] at ends
        exact (restPlain '/' (List.mem_of_getLast? ends)).2 rfl
    have bodyBegins : body.takeWhile (!blank ·) = [] := by
      cases body with
      | nil => rfl
      | cons c more =>
        rw [List.head?_cons, Option.all_some] at begins
        simp [begins]
    have nameTaken : (first :: (rest ++ body)).takeWhile (!blank ·) = first :: rest := by
      rw [← List.cons_append, List.takeWhile_append_of_pos, bodyBegins, List.append_nil]
      intro c member
      rcases List.mem_cons.mp member with rfl | inRest
      · simp [firstDark]
      · simp [(restPlain c inRest).1]
    have dropped : (rest ++ body ++ ['>']).dropLast = rest ++ body := List.dropLast_concat
    have slashless : ((rest ++ body).getLast? == some '/') = false := beq_false_of_ne notEmpty
    simp only [List.cons_append, bracketBy, dropped, slashless, nameTaken]
    simp [notSlash, notMark, notQuery]

/-- The bracket of a closing tag: white space after the name does not belong to the name. -/
theorem bracketBy_closing {blank : Char → Bool} {name body : List Char}
    (plain : isPlainNameBy blank name = true) (isBlankBody : body.all blank = true) :
    bracketBy blank ('<' :: '/' :: (name ++ body ++ ['>'])) = .closes name := by
  have trimmed : ((name ++ body).reverse.dropWhile blank).reverse = name := by
    cases name with
    | nil => simp [isPlainNameBy] at plain
    | cons first rest =>
      simp only [isPlainNameBy, Bool.and_eq_true, List.all_eq_true, Bool.not_eq_true'] at plain
      have dark : ∀ c ∈ (first :: rest).reverse, blank c = false := fun c member =>
        (plain.2 c (List.mem_reverse.mp member)).1
      have allBlank : ∀ c ∈ body.reverse, blank c = true := fun c member =>
        List.all_eq_true.mp isBlankBody c (List.mem_reverse.mp member)
      rw [List.reverse_append, List.dropWhile_append_of_pos allBlank]
      cases reversed : (first :: rest).reverse with
      | nil => simp at reversed
      | cons last more =>
        rw [List.dropWhile_cons_of_neg (by simp [dark last (by simp [reversed])]), ← reversed,
          List.reverse_reverse]
  have dropped : (name ++ body ++ ['>']).dropLast = name ++ body := List.dropLast_concat
  simp only [bracketBy, dropped, trimmed]
  rfl

/-- The bracket of an empty tag: a slash stands before its end. -/
theorem bracketBy_empty {name body : List Char} {first : Char} (begins : name.head? = some first)
    (notSlash : first ≠ '/') (blank : Char → Bool) :
    bracketBy blank ('<' :: (name ++ (body ++ ['/']) ++ ['>'])) = .neither := by
  obtain ⟨rest, rfl⟩ := List.head?_eq_some_iff.mp begins
  have ends : (rest ++ (body ++ ['/'])).getLast? = some '/' := by simp
  have dropped : (rest ++ (body ++ ['/']) ++ ['>']).dropLast = rest ++ (body ++ ['/']) :=
    List.dropLast_concat
  simp only [List.cons_append, bracketBy, dropped, ends]
  simp [notSlash]

/-- What may follow an element name in a tag begins with white space. -/
theorem head?_of_isTagBody {body : List Char} (isBody : isTagBody body = true) :
    body.head?.all isBlank = true := by
  cases body with
  | nil => rfl
  | cons c more =>
    simp only [isTagBody, Bool.and_eq_true] at isBody
    simp [isBody.1]

/-- A text that a row of the table of tags matches is the bracket of the row's shape. -/
theorem bracketOf_of_matches {shape : Shape} {element : String} {text : List Char}
    (plain : isPlainName element.toList = true) (matched : shape.matches element text = true) :
    bracketOf text = shape.bracket element := by
  cases shape with
  | opening =>
    simp only [Shape.matches] at matched
    split at matched
    · simp at matched
    · rename_i tail found
      simp only [Bool.and_eq_true, bne_iff_ne] at matched
      obtain ⟨⟨ends, isBody⟩, isOpen⟩ := matched
      have whole : text = '<' :: (element.toList ++ tail.dropLast ++ ['>']) := by
        rw [eq_append_of_afterName? found, List.append_assoc, ← eq_dropLast_append ends]
        simp
      rw [whole]
      exact bracketBy_opening plain (head?_of_isTagBody isBody) isOpen
  | closing =>
    simp only [Shape.matches] at matched
    split at matched
    · simp at matched
    · rename_i tail found
      simp only [Bool.and_eq_true] at matched
      obtain ⟨ends, blank⟩ := matched
      have whole : text = '<' :: '/' :: (element.toList ++ tail.dropLast ++ ['>']) := by
        rw [eq_append_of_afterName? found, List.append_assoc, ← eq_dropLast_append ends]
        simp
      rw [whole]
      exact bracketBy_closing plain blank
  | empty =>
    simp only [Shape.matches] at matched
    split at matched
    · simp at matched
    · rename_i tail found
      simp only [Bool.and_eq_true] at matched
      obtain ⟨⟨ends, slash⟩, _⟩ := matched
      have whole :
          text = '<' :: (element.toList ++ (tail.dropLast.dropLast ++ ['/']) ++ ['>']) := by
        rw [← eq_dropLast_append slash, eq_append_of_afterName? found, List.append_assoc,
          ← eq_dropLast_append ends]
        simp
      obtain ⟨first, begins, notSlash⟩ := head?_of_isPlainNameBy plain
      rw [whole]
      exact bracketBy_empty begins notSlash isBlank

/-- Where a kind determines the bracket, every text of that kind is this bracket. -/
theorem bracketOf_kindOf {text : List Char} {bracket : Bracket}
    (known : (kindOf text).bracket? = some bracket) : bracketOf text = bracket := by
  unfold kindOf at known
  split at known
  · split at known
    · rename_i shape element kind found
      have row := tagKinds_brackets _ (List.mem_of_find?_eq_some found)
      have same : some (shape.bracket element) = some bracket := row.2.symm.trans known
      have matched := List.find?_some found
      rw [bracketOf_of_matches row.1 matched]
      exact Option.some.inj same
    · simp [Kind.bracket?] at known
  · simp only [Kind.bracket?, Option.some.injEq] at known
    exact known
  · rename_i noTag _
    have neither : bracketOf text = .neither := by
      unfold bracketOf bracketBy
      split
      · exact absurd rfl (noTag _ _)
      · rfl
    rw [neither]
    split at known <;> exact Option.some.inj known

end FormLetter.Markup
