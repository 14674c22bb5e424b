import FormLetter.Script.Filter
import FormLetter.Script.Parser

/-!
# Checking templates

What can be found wrong with a template once it is read: names of filters and tests that nothing is
known by, blocks that are there twice, and assignments to what loops set. A filter that is not known
is no mistake inside of a condition, since the condition may well ask for it. The names that a
template uses and nothing in it sets are found here too.
-/

namespace FormLetter.Script

/-- The names that every template knows. -/
def builtinNames : List String :=
  ["range", "dict", "lipsum", "cycler", "joiner", "namespace"]

namespace Check

/-- Fails with a mistake. -/
def fail {α : Type} (problem : Problem) (line : Nat) : Except Mistake α :=
  throw ⟨problem, line⟩

mutual

/-- Checks the filters and tests of an expression. With `isSoft`, the names of unknown ones are let
pass. -/
def expression (isSoft : Bool) : Expr → Except Mistake Unit
  | .name _ _ | .constant _ _ | .captured _ | .place _ _ _ => return ()
  | .tuple _ items | .list _ items | .dict _ items | .concat _ items => expressions isSoft items
  | .conditional _ test body orElse => do
    expression true test
    expression true body
    optional true orElse
  | .either _ left right | .both _ left right | .arithmetic _ _ left right => do
    expression isSoft left
    expression isSoft right
  | .negation _ operand | .minus _ operand | .plus _ operand => expression isSoft operand
  | .compare _ first _ operands => do
    expression isSoft first
    expressions isSoft operands
  | .member _ subject _ => expression isSoft subject
  | .item _ subject index => do
    expression isSoft subject
    expression isSoft index
  | .slice _ subject start stop step => do
    expression isSoft subject
    optional isSoft start
    optional isSoft stop
    optional isSoft step
  | .call _ callee given => do
    expression isSoft callee
    arguments isSoft given
  | .filter line subject name given => do
    if !isSoft && !filterNames.contains name then fail (.unknownFilter name) line
    expression isSoft subject
    arguments isSoft given
  | .test line subject name given => do
    if !isSoft && !testNames.contains name then fail (.unknownTest name) line
    expression isSoft subject
    arguments isSoft given

/-- Checks several expressions. -/
def expressions (isSoft : Bool) : List Expr → Except Mistake Unit
  | [] => return ()
  | first :: rest => do
    expression isSoft first
    expressions isSoft rest

/-- Checks an expression, if there is one. -/
def optional (isSoft : Bool) : Option Expr → Except Mistake Unit
  | none => return ()
  | some value => expression isSoft value

/-- Checks the arguments of a call. -/
def arguments (isSoft : Bool) : Arguments → Except Mistake Unit
  | .mk positional _ values rest restNamed => do
    expressions isSoft positional
    expressions isSoft values
    optional isSoft rest
    optional isSoft restNamed

end

/-- The names that a target sets. -/
def setNames (target : Target) : List String :=
  target.names.filterMap fun (isRead, name) => if isRead then none else some name

mutual

/-- The names that a statement sets at any depth. -/
def setIn : Statement → List String
  | .text _ | .print _ | .leave _ _ | .evaluate _ _ => []
  | .branch _ _ body orElse => setInAll body ++ setInAll orElse
  | .loop _ target _ _ body orElse => setNames target ++ setInAll body ++ setInAll orElse
  | .assign _ target _ => setNames target
  | .capture _ target _ body => setNames target ++ setInAll body
  | .bind _ targets _ body => targets.flatMap setNames ++ setInAll body
  | .define _ _ parameters _ body | .wrap _ parameters _ _ body => parameters ++ setInAll body
  | .filtered _ _ body | .block _ _ _ _ body => setInAll body
  | .outside _ _ _ _ => []

/-- The names that statements set at any depth. -/
def setInAll : List Statement → List String
  | [] => []
  | first :: rest => setIn first ++ setInAll rest

end

mutual

/-- The named blocks of a statement, with their lines and bodies. -/
def blocksOf : Statement → List (String × Nat × List Statement)
  | .block line name _ _ body => (name, line, body) :: blocksOfAll body
  | .branch _ _ body orElse | .loop _ _ _ _ body orElse => blocksOfAll body ++ blocksOfAll orElse
  | .capture _ _ _ body | .bind _ _ _ body | .define _ _ _ _ body | .wrap _ _ _ _ body
  | .filtered _ _ body => blocksOfAll body
  | _ => []

/-- The named blocks of statements. -/
def blocksOfAll : List Statement → List (String × Nat × List Statement)
  | [] => []
  | first :: rest => blocksOf first ++ blocksOfAll rest

end

/-- Checks that no block is there twice. -/
def blocksDiffer : List String → List (String × Nat × List Statement) → Except Mistake Unit
  | _, [] => return ()
  | known, (name, line, _) :: rest =>
    if known.contains name then fail (.blockTwice name) line
    else blocksDiffer (name :: known) rest

/-- Checks the parameters of a macro: the special one for its caller must have a default. -/
def parametersOf (line : Nat) (parameters : List String) (defaults : List Expr)
    (body : List Statement) : Except Mistake Unit :=
  let needed := parameters.take (parameters.length - defaults.length)
  if needed.contains "caller" && readsFirst "caller" body then fail .callerWithoutDefault line
  else return ()

mutual

/-- Checks a statement. Blocks are checked on their own. -/
def statement (isSoft : Bool) : Statement → Except Mistake Unit
  | .text _ | .leave _ _ | .block .. => return ()
  | .print value | .evaluate _ value => expression isSoft value
  | .branch _ test body orElse => do
    expression true test
    statements true body
    statements true orElse
  | .loop line target source guard body orElse => do
    optional false guard
    if (setNames target ++ setInAll body ++ setInAll orElse).contains "loop" then
      fail .assignedLoop line
    expression isSoft source
    statements false body
    statements false orElse
  | .assign _ _ value => expression isSoft value
  | .capture _ _ filter body => do
    statements false body
    optional false filter
  | .bind _ _ values body => do
    expressions isSoft values
    statements false body
  | .define line _ parameters defaults body => do
    parametersOf line parameters defaults body
    expressions false defaults
    statements false body
  | .wrap line parameters defaults call body => do
    parametersOf line parameters defaults body
    expressions false defaults
    statements false body
    expression isSoft call
  | .filtered _ filter body => do
    statements false body
    expression false filter
  | .outside _ _ template _ => expression isSoft template

/-- Checks several statements. -/
def statements (isSoft : Bool) : List Statement → Except Mistake Unit
  | [] => return ()
  | first :: rest => do
    statement isSoft first
    statements isSoft rest

end

/-- Finds a parent template that is named inside of another statement. -/
def nestedParent? : List Statement → Option Nat
  | [] => none
  | .branch _ _ body orElse :: rest =>
    match parentIn? (body ++ orElse) with
    | some line => some line
    | none => nestedParent? rest
  | .loop _ _ _ _ body orElse :: rest =>
    match parentIn? (body ++ orElse) with
    | some line => some line
    | none => nestedParent? rest
  | .bind _ _ _ body :: rest =>
    match parentIn? body with
    | some line => some line
    | none => nestedParent? rest
  | _ :: rest => nestedParent? rest
where
  /-- The line of a parent template among statements. -/
  parentIn? : List Statement → Option Nat
    | [] => none
    | .outside line true _ _ :: _ => some line
    | _ :: rest => parentIn? rest

/-- Checks a whole template, and then its blocks. -/
def template (content : List Statement) : Except Mistake Unit := do
  let blocks := blocksOfAll content
  blocksDiffer [] blocks
  (nestedParent? content).forM (fail .nestedExtends)
  statements false content
  blocks.forM fun (_, _, body) => statements false body

end Check

/-! ## Names that nothing sets -/

/-- The names that a frame looks up outside of the template. -/
def Symbols.lookedUp (symbols : Symbols) : List String :=
  symbols.inner.loads.filterMap fun (name, load) =>
    if load == .lookUp && name != "self" then some name else none

/-- True for a loop whose body asks for the loop itself. -/
def asksForLoop (body : List Statement) : Bool :=
  readsFirst "loop" body || body.any fun
    | .block _ _ isScoped _ _ => isScoped
    | _ => false

mutual

/-- The names that the frames inside of a statement look up outside of the template. -/
def Statement.lookedUp (symbols : Symbols) : Statement → List String
  | .branch _ _ body orElse => lookedUpInAll symbols body ++ lookedUpInAll symbols orElse
  | .loop _ target _ guard body orElse =>
    let inner := symbols.loopBody target (asksForLoop body) body
    let other := symbols.inside orElse
    let guarded := match guard with
      | none => []
      | some guard => (symbols.loopGuard target guard).lookedUp
    guarded ++ inner.lookedUp ++ lookedUpInAll inner body ++ other.lookedUp
      ++ lookedUpInAll other orElse
  | .capture _ _ _ body | .filtered _ _ body =>
    let inner := symbols.inside body
    inner.lookedUp ++ lookedUpInAll inner body
  | .bind _ targets _ body =>
    let inner := symbols.bound targets body
    inner.lookedUp ++ lookedUpInAll inner body
  | .define _ _ parameters defaults body | .wrap _ parameters defaults _ body =>
    let inner := symbols.macroBody parameters defaults (specialNames parameters body) body
    inner.lookedUp ++ lookedUpInAll inner body
  | _ => []

/-- The names that the frames inside of statements look up outside of the template. -/
def lookedUpInAll (symbols : Symbols) : List Statement → List String
  | [] => []
  | first :: rest => first.lookedUp symbols ++ lookedUpInAll symbols rest

end

/-- The names that a template uses and nothing in it sets, each once. -/
def undeclared (content : List Statement) : List String :=
  let frame (body : List Statement) : List String :=
    let symbols := Symbols.root.statements body
    symbols.lookedUp ++ lookedUpInAll symbols body
  let names := frame content
    ++ (Check.blocksOfAll content).flatMap fun (_, _, body) => frame body
  (names.filter fun name => !builtinNames.contains name).eraseDups

/-- Reads and checks a template. -/
def load (template : List Char) : Except Mistake (List Statement) := do
  let content ← parse template
  Check.template content
  return content

end FormLetter.Script
