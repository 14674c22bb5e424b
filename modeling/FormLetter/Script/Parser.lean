import FormLetter.Script.Syntax
import FormLetter.Script.Token

/-!
# Reading templates

From tokens to statements. Operators bind in layers, from the conditional down to filters; each
layer is a reader of its own, and only what stands in brackets goes back to the whole. A mistake is
reported with the line of the token at which it is noticed.
-/

namespace FormLetter.Script

/-- A mistake at a line of a template. -/
structure Mistake where
  problem : Problem
  line : Nat
  deriving DecidableEq, Repr

/-- The tokens that are unread. The line is that of the last token that was read. -/
structure Stream where
  tokens : List Token
  line : Nat
  deriving Repr

/-- A reader of tokens. -/
abbrev Parser := StateT Stream (Except Mistake)

namespace Parser

/-! ## Tokens -/

/-- Stops with a mistake. -/
def fail {α : Type} (problem : Problem) (line : Nat) : Parser α :=
  throw ⟨problem, line⟩

/-- Stops when the next token is one that tells of a mistake. -/
def checkNext : Parser Unit := do
  match (← get).tokens with
  | ⟨.fault problem, line⟩ :: _ => fail problem line
  | _ => return ()

/-- The next token, which stays unread. -/
def current : Parser Token := do
  let stream ← get
  return stream.tokens.head?.getD ⟨.ending, stream.line⟩

/-- Reads a token. -/
def next : Parser Token := do
  let token ← current
  modify fun stream => ⟨stream.tokens.drop 1, token.line⟩
  checkNext
  return token

/-- The token after the next one. -/
def second : Parser Token := do
  let stream ← get
  let _ ← next
  let token ← current
  set stream
  return token

/-- True for the token of the given word. -/
def isWord (word : String) (token : Token) : Bool :=
  match token.lexeme with
  | .name text => text == word
  | _ => false

/-- True for the token of the given sign. -/
def isSign (sign : Operator) (token : Token) : Bool :=
  match token.lexeme with
  | .operator found => found == sign
  | _ => false

/-- True for the end of an output. -/
def isOutputEnd (token : Token) : Bool :=
  match token.lexeme with
  | .outputEnd => true
  | _ => false

/-- What a token is called in a message. -/
def describe (token : Token) : String :=
  match token.lexeme with
  | .data _ => "template data / text"
  | .outputBegin => "begin of print statement"
  | .outputEnd => "end of print statement"
  | .blockBegin => "begin of statement block"
  | .blockEnd => "end of statement block"
  | .name text => text
  | .text _ => "string"
  | .int _ => "integer"
  | .float _ => "float"
  | .operator sign => sign.written
  | .fault _ | .ending => "end of template"

/-- Reads a token that must pass a test. -/
def expect (isExpected : Token → Bool) (expected : String) : Parser Token := do
  let token ← current
  if isExpected token then next
  else
    match token.lexeme with
    | .ending => fail (.endExpecting expected) token.line
    | _ => fail (.expectedToken expected (describe token)) token.line

/-- Reads a sign. -/
def expectSign (sign : Operator) : Parser Token :=
  expect (isSign sign) sign.written

/-- Reads a word. -/
def expectWord (word : String) : Parser Token :=
  expect (isWord word) word

/-- Reads the end of a block. -/
def expectBlockEnd : Parser Unit := do
  let _ ← expect (fun token => match token.lexeme with | .blockEnd => true | _ => false)
    "end of statement block"

/-- Reads any name. -/
def expectName : Parser (String × Nat) := do
  let token ← expect (fun token => match token.lexeme with | .name _ => true | _ => false) "name"
  match token.lexeme with
  | .name text => return (text, token.line)
  | _ => return ("", token.line)

/-- Reads a token if it passes a test, and tells whether it did. -/
def skipIf (isExpected : Token → Bool) : Parser Bool := do
  if isExpected (← current) then
    let _ ← next
    return true
  else return false

/-- Repeats a step until it gives a result. A step that goes on has read a token, so the tokens
bound their number. -/
def repeatStep {α β : Type} (step : α → Parser (α ⊕ β)) (start : α) : Parser β := do
  go ((← get).tokens.length + 1) start
where
  /-- Repeats the step so many times at most. -/
  go : Nat → α → Parser β
    | 0, _ => do fail (.unexpectedToken (describe (← current))) (← current).line
    | fuel + 1, state => do
      match ← step state with
      | .inl state => go fuel state
      | .inr result => return result

/-! ## Expressions -/

section Layers

-- The reader of a whole expression, for what stands in brackets.
variable (inner : Parser Expr)

/-- Reads items with commas between them up to a closing sign, which is read too. `trailing` says
whether a comma may stand before it. -/
def itemsUntil {α : Type} (closing : Operator) (trailing : Bool) (item : Parser α) :
    Parser (List α) :=
  repeatStep (fun items : List α => do
    if isSign closing (← current) then
      let _ ← next
      return .inr items.reverse
    else
      if !items.isEmpty then let _ ← expectSign .comma
      if trailing && isSign closing (← current) then
        let _ ← next
        return .inr items.reverse
      else return .inl ((← item) :: items)) []

/-- True for the tokens in front of which a tuple ends. -/
def endsTuple (isEnd : Token → Bool) (token : Token) : Bool :=
  match token.lexeme with
  | .outputEnd | .blockEnd => true
  | _ => isSign .closeParen token || isEnd token

/-- Reads one expression, or several with commas between them, which are a tuple. `isEnd` tells
where nothing more can come. Nothing at all is a tuple in brackets only. -/
def tupleOf (item : Parser Expr) (isEnd : Token → Bool) (inBrackets : Bool) : Parser Expr := do
  let line := (← current).line
  let (items, isTuple, line) ← repeatStep
    (fun ((items, isTuple, line) : List Expr × Bool × Nat) => do
    if !items.isEmpty then let _ ← expectSign .comma
    if endsTuple isEnd (← current) then return .inr (items, isTuple, line)
    else
      let items := items ++ [← item]
      if isSign .comma (← current) then return .inl (items, true, (← current).line)
      else return .inr (items, isTuple, line)) ([], false, line)
  if isTuple then return .tuple line items
  else
    match items with
    | first :: _ => return first
    | [] =>
      if inBrackets then return .tuple line []
      else
        let token ← current
        fail (.expectedExpression (describe token)) token.line

/-- A tuple or an expression, conditionals and all. -/
def tuple : Parser Expr :=
  tupleOf inner (fun _ => false) false

/-- What the arguments of a call are made of, while they are read. -/
structure CallParts where
  positional : List Expr
  names : List String
  values : List Expr
  rest : Option Expr
  restNamed : Option Expr
  started : Bool

/-- Reads the arguments of a call. Named ones come after the others, and the rest after all. -/
def arguments : Parser Arguments := do
  let opening ← expectSign .openParen
  let ensure (holds : Bool) : Parser Unit :=
    if holds then return () else fail .callArguments opening.line
  repeatStep (fun parts : CallParts => do
    let finish : Parser (CallParts ⊕ Arguments) := do
      let _ ← next
      return .inr (.mk parts.positional parts.names parts.values parts.rest parts.restNamed)
    if isSign .closeParen (← current) then finish
    else
      if parts.started then let _ ← expectSign .comma
      let token ← current
      if isSign .closeParen token then finish
      else if isSign .mul token then
        ensure (parts.rest.isNone && parts.restNamed.isNone)
        let _ ← next
        return .inl { parts with rest := some (← inner), started := true }
      else if isSign .pow token then
        ensure parts.restNamed.isNone
        let _ ← next
        return .inl { parts with restNamed := some (← inner), started := true }
      else
        let named ← match token.lexeme with
          | .name name => do
            if isSign .assign (← second) then pure (some name) else pure none
          | _ => pure none
        match named with
        | some name =>
          ensure parts.restNamed.isNone
          let _ ← next
          let _ ← next
          let value ← inner
          return .inl
            { parts with
              names := parts.names ++ [name], values := parts.values ++ [value], started := true }
        | none =>
          ensure (parts.rest.isNone && parts.restNamed.isNone && parts.names.isEmpty)
          let value ← inner
          return .inl { parts with positional := parts.positional ++ [value], started := true })
    ⟨[], [], [], none, none, false⟩

/-- Reads the texts that stand side by side. -/
def texts (value : List Char) : Parser (List Char) :=
  repeatStep (fun value : List Char => do
    match (← current).lexeme with
    | .text more =>
      let _ ← next
      return .inl (value ++ more)
    | _ => return .inr value) value

/-- Reads a pair of a dictionary. -/
def pair : Parser (Expr × Expr) := do
  let key ← inner
  let _ ← expectSign .colon
  let value ← inner
  return (key, value)

/-- Reads an expression that begins with none of the signs for operations. With `places`, a member
of a name is a place that can be assigned to. -/
def primary (places : Bool) : Parser Expr := do
  let token ← current
  let line := token.line
  match token.lexeme with
  | .name word =>
    let _ ← next
    match word with
    | "true" | "True" => return .constant line (.bool true)
    | "false" | "False" => return .constant line (.bool false)
    | "none" | "None" => return .constant line .none
    | _ =>
      if places && isSign .dot (← current) then
        let _ ← next
        let (name, _) ← expectName
        return .place line word name
      else return .name line word
  | .text value =>
    let _ ← next
    return .constant line (.text (← texts value))
  | .int value =>
    let _ ← next
    return .constant line (.int value)
  | .float value =>
    let _ ← next
    return .constant line (.float value)
  | .operator .openParen =>
    let _ ← next
    let value ← tupleOf inner (fun _ => false) true
    let _ ← expectSign .closeParen
    return value
  | .operator .openBracket =>
    let _ ← next
    return .list line (← itemsUntil .closeBracket true inner)
  | .operator .openBrace =>
    let _ ← next
    let pairs ← itemsUntil .closeBrace true (pair inner)
    return .dict line (pairs.flatMap fun (key, value) => [key, value])
  | _ => fail (.unexpectedToken (describe token)) line

/-- What stands between square brackets: an index or the parts of a slice. -/
inductive Index where
  | single (value : Expr)
  | slice (start stop step : Option Expr)

/-- True for what can come after the parts of a slice. -/
def endsSlice (token : Token) : Bool :=
  isSign .closeBracket token || isSign .comma token

/-- Reads one index. -/
def index : Parser Index := do
  let start? ← if isSign .colon (← current) then pure none else some <$> inner
  if !isSign .colon (← current) then
    match start? with
    | some start => return .single start
    | none => return .slice none none none
  else
    let _ ← next
    let token ← current
    let stop? ←
      if isSign .colon token || endsSlice token then pure none else some <$> inner
    let step? ←
      if isSign .colon (← current) then do
        let _ ← next
        if endsSlice (← current) then pure none else some <$> inner
      else pure none
    return .slice start? stop? step?

/-- Reads a member or an index of a value after its sign. -/
def subscript (subject : Expr) : Parser Expr := do
  let token ← next
  let line := token.line
  if isSign .dot token then
    let token ← next
    match token.lexeme with
    | .name name => return .member line subject name
    | .int value => return .item line subject (.constant token.line (.int value))
    | _ => fail .expectedNameOrNumber token.line
  else
    match ← itemsUntil .closeBracket false (index inner) with
    | [.single value] => return .item line subject value
    | [.slice start stop step] => return .slice line subject start stop step
    | indices =>
      let values := indices.map fun
        | .single value => value
        | .slice _ _ _ => .constant line .none
      return .item line subject (.tuple line values)

/-- Reads the members, indices and calls after a value. -/
def postfixes (value : Expr) : Parser Expr :=
  repeatStep (fun value : Expr => do
    let token ← current
    if isSign .dot token || isSign .openBracket token then return .inl (← subscript inner value)
    else if isSign .openParen token then return .inl (.call token.line value (← arguments inner))
    else return .inr value) value

/-- Reads a name with points in it. -/
def dottedName : Parser (String × Nat) := do
  let (first, line) ← expectName
  let name ← repeatStep (fun name : String => do
    if isSign .dot (← current) then
      let _ ← next
      let (more, _) ← expectName
      return .inl (name ++ "." ++ more)
    else return .inr name) first
  return (name, line)

/-- Reads the arguments of a call if there are any. -/
def optionalArguments : Parser Arguments := do
  if isSign .openParen (← current) then arguments inner else return .none

/-- Reads one filter after its sign. -/
def oneFilter (subject : Expr) : Parser Expr := do
  let (name, line) ← dottedName
  return .filter line subject name (← optionalArguments inner)

/-- Reads the filters that follow on each other. -/
def filters (subject : Expr) : Parser Expr :=
  repeatStep (fun subject : Expr => do
    if ← skipIf (isSign .pipe) then return .inl (← oneFilter inner subject)
    else return .inr subject) subject

/-- True for a token with which the argument of a test can begin. -/
def beginsArgument (token : Token) : Bool :=
  match token.lexeme with
  | .name word => word != "else" && word != "or" && word != "and"
  | .text _ | .int _ | .float _ => true
  | _ => isSign .openParen token || isSign .openBracket token || isSign .openBrace token

/-- Reads a test. One argument may stand without brackets. -/
def testOf (subject : Expr) : Parser Expr := do
  let line := (← next).line
  let negated ← skipIf (isWord "not")
  let (name, _) ← dottedName
  let token ← current
  let arguments ←
    if isSign .openParen token then arguments inner
    else if beginsArgument token then
      if isWord "is" token then fail .chainedTests token.line
      else do
        let value ← postfixes inner (← primary inner false)
        pure (.mk [value] [] [] none none)
    else pure .none
  let value : Expr := .test line subject name arguments
  return if negated then .negation line value else value

/-- Reads the filters, tests and calls after a value. -/
def filterChain (value : Expr) : Parser Expr :=
  repeatStep (fun value : Expr => do
    let token ← current
    if isSign .pipe token then return .inl (← filters inner value)
    else if isWord "is" token then return .inl (← testOf inner value)
    else if isSign .openParen token then return .inl (.call token.line value (← arguments inner))
    else return .inr value) value

/-- Reads signs, a value and what follows it. A sign binds closer than a filter. -/
def unary : Parser Expr := do
  let signs ← repeatStep (fun signs : List (Bool × Nat) => do
    let token ← current
    if isSign .sub token then
      let _ ← next
      return .inl ((true, token.line) :: signs)
    else if isSign .add token then
      let _ ← next
      return .inl ((false, token.line) :: signs)
    else return .inr signs) []
  let value ← postfixes inner (← primary inner false)
  let signed := signs.foldl (fun value (isMinus, line) =>
    if isMinus then Expr.minus line value else .plus line value) value
  filterChain inner signed

/-- Reads operands with operators of one layer between them. They group to the left, and the line
of a group is where its last operation began. -/
def leftLayer (operand : Parser Expr) (operation : Nat → Token → Option (Expr → Expr → Expr)) :
    Parser Expr := do
  let line := (← current).line
  let first ← operand
  repeatStep (fun ((left, line) : Expr × Nat) => do
    match operation line (← current) with
    | some combine =>
      let _ ← next
      let right ← operand
      return .inl (combine left right, (← current).line)
    | none => return .inr left) (first, line)

/-- The arithmetic of a layer. -/
def arithmeticOf (table : List (Operator × Arithmetic)) (line : Nat) (token : Token) :
    Option (Expr → Expr → Expr) :=
  match token.lexeme with
  | .operator sign => (table.lookup sign).map (Expr.arithmetic line)
  | _ => none

/-- Reads powers. -/
def power : Parser Expr :=
  leftLayer (unary inner) (arithmeticOf [(.pow, .pow)])

/-- Reads products. -/
def product : Parser Expr :=
  leftLayer (power inner)
    (arithmeticOf [(.mul, .mul), (.div, .div), (.floorDiv, .floorDiv), (.mod, .mod)])

/-- Reads texts that are put together. -/
def concatenation : Parser Expr := do
  let line := (← current).line
  let first ← product inner
  let items ← repeatStep (fun items : List Expr => do
    if ← skipIf (isSign .tilde) then return .inl (items ++ [← product inner])
    else return .inr items) [first]
  match items with
  | [single] => return single
  | items => return .concat line items

/-- Reads sums. -/
def sum : Parser Expr :=
  leftLayer (concatenation inner) (arithmeticOf [(.add, .add), (.sub, .sub)])

/-- The comparison of a sign. -/
def comparison? : Operator → Option Comparison
  | .eq => some .eq
  | .ne => some .ne
  | .lt => some .lt
  | .le => some .le
  | .gt => some .gt
  | .ge => some .ge
  | _ => none

/-- Reads a comparison operator if there is one. -/
def comparator? : Parser (Option Comparison) := do
  let token ← current
  match token.lexeme with
  | .operator sign =>
    match comparison? sign with
    | some found =>
      let _ ← next
      return some found
    | none => return none
  | .name "in" =>
    let _ ← next
    return some .isIn
  | .name "not" =>
    if isWord "in" (← second) then
      let _ ← next
      let _ ← next
      return some .notIn
    else return none
  | _ => return none

/-- Reads comparisons, which chain. -/
def comparisons : Parser Expr := do
  let line := (← current).line
  let first ← sum inner
  let (operators, operands, line) ←
    repeatStep (fun ((operators, operands, line) : List Comparison × List Expr × Nat) => do
      match ← comparator? with
      | some operator =>
        let operand ← sum inner
        return .inl (operators ++ [operator], operands ++ [operand], (← current).line)
      | none => return .inr (operators, operands, line)) ([], [], line)
  if operators.isEmpty then return first else return .compare line first operators operands

/-- Reads negations. -/
def negations : Parser Expr := do
  let lines ← repeatStep (fun lines : List Nat => do
    let token ← current
    if isWord "not" token then
      let _ ← next
      return .inl (token.line :: lines)
    else return .inr lines) []
  let value ← comparisons inner
  return lines.foldl (fun value line => .negation line value) value

/-- Reads conjunctions. -/
def conjunctions : Parser Expr :=
  leftLayer (negations inner) fun line token =>
    if isWord "and" token then some (.both line) else none

/-- Reads disjunctions. -/
def disjunctions : Parser Expr :=
  leftLayer (conjunctions inner) fun line token =>
    if isWord "or" token then some (.either line) else none

/-- Reads conditionals. -/
def conditionals : Parser Expr := do
  let line := (← current).line
  let first ← disjunctions inner
  repeatStep (fun ((value, line) : Expr × Nat) => do
    if ← skipIf (isWord "if") then
      let test ← disjunctions inner
      let orElse ← if ← skipIf (isWord "else") then some <$> inner else pure none
      return .inl (.conditional line test value orElse, (← current).line)
    else return .inr value) (first, line)

end Layers

/-- Reads an expression in which brackets are nested so deep at most. -/
def expressionWithin : Nat → Parser Expr
  | 0 => do fail (.unexpectedToken (describe (← current))) (← current).line
  | depth + 1 => conditionals (expressionWithin depth)

/-- The nesting that is enough for the tokens that are left: each level reads one. -/
def depthEnough : Parser Nat := do
  return (← get).tokens.length + 1

/-- Reads an expression. -/
def expression : Parser Expr := do
  expressionWithin (← depthEnough)

/-- Reads an expression that is no conditional. -/
def plainExpression : Parser Expr := do
  disjunctions (expressionWithin (← depthEnough))

/-! ## Targets of assignments -/

/-- The target that an expression can be. -/
def targetOf? : Expr → Option Target
  | .name _ name => some (.name name)
  | .place _ space name => some (.place space name)
  | .tuple _ items => (targetsOf? items).map .items
  | _ => none
where
  /-- The targets that expressions can be. -/
  targetsOf? : List Expr → Option (List Target)
    | [] => some []
    | first :: rest => do return (← targetOf? first) :: (← targetsOf? rest)

/-- Reads a target, or several with commas between them. -/
def target (places : Bool) (isEnd : Token → Bool) : Parser Target := do
  let depth ← depthEnough
  let value ← tupleOf (primary (expressionWithin depth) places) isEnd false
  match targetOf? value with
  | some target => return target
  | none => fail (.cannotAssign value.kind) value.line

/-- The words that stand for values. None of them can be assigned to. -/
def constantWords : List String := ["true", "false", "none", "True", "False", "None"]

/-- Reads a name that can be assigned to. -/
def targetName : Parser (String × Nat) := do
  let (name, line) ← expectName
  if constantWords.contains name then fail (.cannotAssign "name") line else return (name, line)

/-! ## Statements -/

/-- The blocks around a place, the innermost first: their tags, and the tags that can close each of
them. -/
structure Around where
  tags : List String
  closers : List (List String)

namespace Around

/-- The mistake of a tag that is not known at a place. -/
def unknownTag (around : Around) (name : String) : Problem :=
  .unknownTag name (around.closers.headD []) (around.closers.any (·.contains name))
    around.tags.head?

end Around

section Bodies

-- The reader of the statements of a block, up to one of the given tags.
variable (statements : Around → List String → Parser (List Statement))

/-- Reads the body of a block after its tag, up to one of the closing tags. That one is read too,
and given back. -/
def body (around : Around) (closers : List String) : Parser (List Statement × String) := do
  let _ ← skipIf (isSign .colon)
  expectBlockEnd
  let result ← statements { around with closers := closers :: around.closers } closers
  let token ← current
  match token.lexeme with
  | .name word =>
    let _ ← next
    return (result, word)
  | _ => fail (.endOfTemplate closers around.tags.head?) token.line

/-- Reads the conditional block after its word: a test, a body, and what holds otherwise. -/
def branches (around : Around) : Parser Statement := do
  let line := (← next).line
  let parts ← repeatStep (fun (parts : List (Nat × Expr × List Statement)) => do
    let here := (← current).line
    let line := if parts.isEmpty then line else here
    let test ← tupleOf plainExpression (fun _ => false) false
    let (content, closer) ← body statements around ["elif", "else", "endif"]
    let parts := (line, test, content) :: parts
    if closer == "elif" then return .inl parts
    else if closer == "else" then
      let (orElse, _) ← body statements around ["endif"]
      return .inr (parts, orElse)
    else return .inr (parts, [])) []
  let (parts, orElse) := parts
  match parts.foldl (fun orElse (line, test, content) => [.branch line test content orElse])
    orElse with
  | [statement] => return statement
  | _ => return .text []

/-- Reads a loop after its word. -/
def loopOver (around : Around) : Parser Statement := do
  let line := (← next).line
  let target ← target false (isWord "in")
  let _ ← expectWord "in"
  let source ← tupleOf plainExpression (isWord "recursive") false
  let guard ← if ← skipIf (isWord "if") then some <$> expression else pure none
  let _ ← skipIf (isWord "recursive")
  let (content, closer) ← body statements around ["endfor", "else"]
  let orElse ←
    if closer == "endfor" then pure []
    else do
      let (orElse, _) ← body statements around ["endfor"]
      pure orElse
  return .loop line target source guard content orElse

/-- Reads an assignment after its word: of a value, or of the text of a block. -/
def assignment (around : Around) : Parser Statement := do
  let line := (← next).line
  let target ← target true (fun _ => false)
  if ← skipIf (isSign .assign) then
    return .assign line target (← tuple expression)
  else
    let token ← current
    let filter ←
      if isSign .pipe token then some <$> filters expression (.captured token.line) else pure none
    let (content, _) ← body statements around ["endset"]
    return .capture line target filter content

/-- Reads a block with variables of its own after its word. -/
def scopedBlock (around : Around) : Parser Statement := do
  let line := (← next).line
  let bindings ← repeatStep (fun bindings : List (Target × Expr) => do
    match (← current).lexeme with
    | .blockEnd => return .inr bindings
    | _ =>
      if !bindings.isEmpty then let _ ← expectSign .comma
      let target ← target false (fun _ => false)
      let _ ← expectSign .assign
      return .inl (bindings ++ [(target, ← expression)])) []
  let (content, _) ← body statements around ["endwith"]
  return .bind line (bindings.map (·.1)) (bindings.map (·.2)) content

/-- Reads the parameters of a macro. Those with defaults come last. -/
def signature : Parser (List String × List Expr) := do
  let _ ← expectSign .openParen
  repeatStep (fun ((names, defaults) : List String × List Expr) => do
    if ← skipIf (isSign .closeParen) then return .inr (names, defaults)
    else
      if !names.isEmpty then let _ ← expectSign .comma
      let (name, _) ← targetName
      if ← skipIf (isSign .assign) then
        return .inl (names ++ [name], defaults ++ [← expression])
      else if !defaults.isEmpty then fail .defaultOrder (← current).line
      else return .inl (names ++ [name], defaults)) ([], [])

/-- Reads the definition of a macro after its word. -/
def macroDefinition (around : Around) : Parser Statement := do
  let line := (← next).line
  let (name, _) ← targetName
  let (parameters, defaults) ← signature
  let (content, _) ← body statements around ["endmacro"]
  return .define line name parameters defaults content

/-- Reads the call of a macro with a body after its word. -/
def wrappingCall (around : Around) : Parser Statement := do
  let line := (← next).line
  let (parameters, defaults) ←
    if isSign .openParen (← current) then signature else pure ([], [])
  let call ← expression
  match call with
  | .call .. =>
    let (content, _) ← body statements around ["endcall"]
    return .wrap line parameters defaults call content
  | _ => fail .expectedCall line

/-- Reads a block whose text goes through filters after its word. -/
def filteredBlock (around : Around) : Parser Statement := do
  let token ← next
  let filter ← oneFilter expression (.captured token.line)
  let filter ← filters expression filter
  let (content, _) ← body statements around ["endfilter"]
  return .filtered token.line filter content

/-- True for a statement that writes nothing but white space. -/
def isBlankStatement : Statement → Bool
  | .text text => Text.isBlankText text
  | _ => false

/-- Reads a named block after its word. -/
def namedBlock (around : Around) : Parser Statement := do
  let line := (← next).line
  let (name, _) ← expectName
  let isScoped ← skipIf (isWord "scoped")
  let isRequired ← skipIf (isWord "required")
  let token ← current
  if isSign .sub token then fail .hyphenInBlockName token.line
  else
    let (content, _) ← body statements around ["endblock"]
    if isRequired && !content.all isBlankStatement then
      fail .requiredBlockContent (← current).line
    else
      let _ ← skipIf (isWord name)
      return .block line name isScoped isRequired content

end Bodies

/-- Reads the expressions of a printing statement after its word. -/
def prints : Parser (List Statement) := do
  let _ ← next
  repeatStep (fun items : List Statement => do
    match (← current).lexeme with
    | .blockEnd => return .inr items
    | _ =>
      if !items.isEmpty then let _ ← expectSign .comma
      return .inl (items ++ [.print (← expression)])) []

/-- Skips the words that say whether another template sees the variables of this one, and tells
whether there were such words. -/
def skipContextWords : Parser Bool := do
  let token ← current
  if isWord "with" token || isWord "without" token then
    if isWord "context" (← second) then
      let _ ← next
      let _ ← next
      return true
    else return false
  else return false

/-- Reads a statement that names another template. -/
def otherTemplate (word : String) : Parser Statement := do
  let line := (← next).line
  let template ← expression
  match word with
  | "include" =>
    if isWord "ignore" (← current) then
      if isWord "missing" (← second) then
        let _ ← next
        let _ ← next
    let _ ← skipContextWords
    return .outside line false template []
  | "import" =>
    let _ ← expectWord "as"
    let (name, _) ← targetName
    let _ ← skipContextWords
    return .outside line false template [name]
  | "from" =>
    let _ ← expectWord "import"
    let names ← repeatStep (fun names : List String => do
      if !names.isEmpty then let _ ← expectSign .comma
      if ← skipContextWords then return .inr names
      else
        let (name, nameLine) ← targetName
        if name.startsWith "_" then fail .importedUnderscore nameLine
        else
          let name ←
            if ← skipIf (isWord "as") then do
              let (renamed, _) ← targetName
              pure renamed
            else pure name
          let names := names ++ [name]
          if ← skipContextWords then return .inr names
          else if isSign .comma (← current) then return .inl names
          else return .inr names) []
    return .outside line false template names
  | _ => return .outside line true template []

/-- Reads the statement of a directive after its opening mark. -/
def statement (statements : Around → List String → Parser (List Statement)) (around : Around) :
    Parser (List Statement) := do
  let token ← current
  match token.lexeme with
  | .name word =>
    let inside := { around with tags := word :: around.tags }
    match word with
    | "if" => return [← branches statements inside]
    | "for" => return [← loopOver statements inside]
    | "set" => return [← assignment statements inside]
    | "with" => return [← scopedBlock statements inside]
    | "macro" => return [← macroDefinition statements inside]
    | "call" => return [← wrappingCall statements inside]
    | "filter" => return [← filteredBlock statements inside]
    | "block" => return [← namedBlock statements inside]
    | "print" => prints
    | "do" =>
      let line := (← next).line
      return [.evaluate line (← tuple expression)]
    | "break" => return [.leave (← next).line .stop]
    | "continue" => return [.leave (← next).line .next]
    | "include" | "import" | "from" | "extends" => return [← otherTemplate word]
    | _ => fail (around.unknownTag word) token.line
  | _ => fail .expectedTagName token.line

/-- Reads a text, an output or another statement, and adds it to those that were read. One of the
given tags ends them and stays unread, as the end of the template does. -/
def nextStatement (statements : Around → List String → Parser (List Statement)) (around : Around)
    (closers : List String) (read : List Statement) :
    Parser (List Statement ⊕ List Statement) := do
  let token ← current
  match token.lexeme with
  | .data text =>
    let _ ← next
    return .inl (.text text :: read)
  | .outputBegin =>
    let _ ← next
    let value ← tuple expression
    let _ ← expect isOutputEnd "end of print statement"
    return .inl (.print value :: read)
  | .blockBegin =>
    let _ ← next
    let first ← current
    if closers.any fun word => isWord word first then return .inr read.reverse
    else
      let more ← statement statements around
      expectBlockEnd
      return .inl (more.reverse ++ read)
  | _ => return .inr read.reverse

/-- Reads statements up to one of the given tags or up to the end of the template. Blocks are nested
so deep at most. -/
def statementsWithin : Nat → Around → List String → Parser (List Statement)
  | 0, _, _ => do fail (.unexpectedToken (describe (← current))) (← current).line
  | depth + 1, around, closers =>
    repeatStep (nextStatement (statementsWithin depth) around closers) []

/-- Reads a whole template. -/
def wholeTemplate : Parser (List Statement) := do
  checkNext
  statementsWithin (← depthEnough) ⟨[], []⟩ []

end Parser

/-- The statements of a template. -/
def parse (template : List Char) : Except Mistake (List Statement) :=
  (Parser.wholeTemplate.run ⟨tokens template, 1⟩).map (·.1)

end FormLetter.Script
