import FormLetter.Script.Syntax

/-!
# Variables and their frames

Which variables the frame of a block has, and how each gets its first value: from a frame further
out, from the names that the template is rendered with, or not at all. A variable that is set
anywhere in a block belongs to the frame of that block from its beginning on. The branches of a
condition have no frame of their own.
-/

namespace FormLetter.Script

/-- Where a variable is kept: the depth of its frame, and its name. -/
structure Slot where
  depth : Nat
  name : String
  deriving DecidableEq, Repr, Inhabited

/-- How a variable gets its value when its frame is entered. -/
inductive Load where
  /-- Whoever enters the frame gives it. -/
  | parameter
  /-- It is looked up among the names that the template is rendered with. -/
  | lookUp
  | copy (outer : Slot)
  | empty
  deriving DecidableEq, Repr

/-- The variables of one frame. -/
structure Layer where
  loads : List (String × Load)
  stores : List String
  deriving Repr, Inhabited

namespace Layer

/-- Gives a variable its load; one that is known keeps its place. -/
def define (layer : Layer) (name : String) (load : Load) : Layer :=
  if (layer.loads.lookup name).isSome then
    { layer with
      loads := layer.loads.map fun (known, old) => (known, if known == name then load else old) }
  else { layer with loads := layer.loads ++ [(name, load)] }

/-- Notes that a variable is set. -/
def noteStore (layer : Layer) (name : String) : Layer :=
  if layer.stores.contains name then layer else { layer with stores := layer.stores ++ [name] }

end Layer

/-- The frames around a place, the innermost first. There is always one. -/
structure Symbols where
  inner : Layer
  outer : List Layer
  deriving Repr, Inhabited

namespace Symbols

/-- The frame of a template or of a named block. -/
def root : Symbols := ⟨⟨[], []⟩, []⟩

/-- A new frame inside of the others. -/
def enter (symbols : Symbols) : Symbols := ⟨⟨[], []⟩, symbols.inner :: symbols.outer⟩

/-- Finds a variable in frames, of which the first has the given depth. -/
def findIn? (name : String) : List Layer → Option Slot
  | [] => none
  | layer :: rest =>
    if (layer.loads.lookup name).isSome then some ⟨rest.length, name⟩ else findIn? name rest

/-- Where a name is kept, as far as the frames know. -/
def find? (symbols : Symbols) (name : String) : Option Slot :=
  findIn? name (symbols.inner :: symbols.outer)

/-- Notes that a name is read. A name that no frame knows is looked up. -/
def load (symbols : Symbols) (name : String) : Symbols :=
  if (symbols.find? name).isSome then symbols
  else { symbols with inner := symbols.inner.define name .lookUp }

/-- Notes that a name is set here. -/
def store (symbols : Symbols) (name : String) : Symbols :=
  let inner := symbols.inner.noteStore name
  if (inner.loads.lookup name).isSome then { symbols with inner }
  else
    match findIn? name symbols.outer with
    | some slot => { symbols with inner := inner.define name (.copy slot) }
    | none => { symbols with inner := inner.define name .empty }

/-- Notes that whoever enters the frame gives the name its value. -/
def declare (symbols : Symbols) (name : String) : Symbols :=
  { symbols with inner := (symbols.inner.noteStore name).define name .parameter }

/-- Joins the branches of a condition into the frame that they share. A variable that is new in a
branch may not be set, so it gets a value from outside first. -/
def join (symbols : Symbols) (branches : List Symbols) : Symbols :=
  let stored := (branches.flatMap (·.inner.stores)).filter fun name =>
    !symbols.inner.stores.contains name
  let merged := branches.foldl (fun layer branch =>
    let layer := branch.inner.loads.foldl (fun layer (name, load) => layer.define name load) layer
    branch.inner.stores.foldl Layer.noteStore layer) symbols.inner
  let inner := stored.foldl (fun layer name =>
    match findIn? name symbols.outer with
    | some slot => layer.define name (.copy slot)
    | none => layer.define name .lookUp) merged
  { symbols with inner }

end Symbols

/-! ## The names of expressions -/

mutual

/-- The names that an expression reads, in order. -/
def Expr.names : Expr → List String
  | .name _ word => [word]
  | .constant _ _ | .captured _ => []
  | .tuple _ items | .list _ items | .dict _ items | .concat _ items => namesOfAll items
  | .conditional _ test body orElse => test.names ++ body.names ++ namesOfOption orElse
  | .either _ left right | .both _ left right | .arithmetic _ _ left right =>
    left.names ++ right.names
  | .negation _ operand | .minus _ operand | .plus _ operand => operand.names
  | .compare _ first _ operands => first.names ++ namesOfAll operands
  | .member _ subject _ => subject.names
  | .item _ subject index => subject.names ++ index.names
  | .slice _ subject start stop step =>
    subject.names ++ namesOfOption start ++ namesOfOption stop ++ namesOfOption step
  | .call _ callee arguments => callee.names ++ arguments.names
  | .filter _ subject _ arguments | .test _ subject _ arguments =>
    subject.names ++ arguments.names
  | .place _ space _ => [space]

/-- The names that several expressions read. -/
def namesOfAll : List Expr → List String
  | [] => []
  | first :: rest => first.names ++ namesOfAll rest

/-- The names that an expression reads, if there is one. -/
def namesOfOption : Option Expr → List String
  | none => []
  | some value => value.names

/-- The names that arguments read. -/
def Arguments.names : Arguments → List String
  | .mk positional _ values rest restNamed =>
    namesOfAll positional ++ namesOfAll values ++ namesOfOption rest ++ namesOfOption restNamed

end

/-- The names that a target sets, and the namespaces that it reads: the latter are marked. -/
def Target.names : Target → List (Bool × String)
  | .name word => [(false, word)]
  | .place space _ => [(true, space)]
  | .items parts => namesOfItems parts
where
  /-- The names of several targets. -/
  namesOfItems : List Target → List (Bool × String)
    | [] => []
    | first :: rest => first.names ++ namesOfItems rest

/-! ## The frames of statements -/

namespace Symbols

/-- Notes the names that an expression reads. -/
def visit (symbols : Symbols) (value : Expr) : Symbols :=
  value.names.foldl load symbols

/-- Notes the names that several expressions read. -/
def visitAll (symbols : Symbols) (values : List Expr) : Symbols :=
  values.foldl visit symbols

/-- Notes the names of a target of an assignment. -/
def assign (symbols : Symbols) (target : Target) : Symbols :=
  target.names.foldl (fun symbols (isRead, name) =>
    if isRead then symbols.load name else symbols.store name) symbols

/-- Notes the names of a target whose values are given when the frame is entered. -/
def bind (symbols : Symbols) (target : Target) : Symbols :=
  target.names.foldl (fun symbols (isRead, name) =>
    if isRead then symbols.load name else symbols.declare name) symbols

mutual

/-- Notes the names of a statement, as far as they belong to the frame that it stands in. Of a
block with a frame of its own only that is looked at which is evaluated outside of it. -/
def statement (symbols : Symbols) : Statement → Symbols
  | .text _ | .leave _ _ | .block .. => symbols
  | .print value | .evaluate _ value => symbols.visit value
  | .branch _ test body orElse =>
    let symbols := symbols.visit test
    symbols.join [statements symbols body, statements symbols orElse]
  | .loop _ _ source _ _ _ => symbols.visit source
  | .assign _ target value => (symbols.visit value).assign target
  | .capture _ target filter _ =>
    (match filter with
      | none => symbols
      | some filter => symbols.visit filter).assign target
  | .bind _ _ values _ => symbols.visitAll values
  | .define _ name _ _ _ => symbols.store name
  | .wrap _ _ _ call _ => symbols.visit call
  | .filtered _ filter _ => symbols.visit filter
  | .outside _ _ template names => names.foldl store (symbols.visit template)

/-- Notes the names of several statements. -/
def statements (symbols : Symbols) : List Statement → Symbols
  | [] => symbols
  | first :: rest => statements (symbols.statement first) rest

end

/-- The frame of the body of a loop. With `special`, the loop itself is one of its variables. -/
def loopBody (symbols : Symbols) (target : Target) (special : Bool) (body : List Statement) :
    Symbols :=
  let symbols := if special then symbols.enter.declare "loop" else symbols.enter
  (symbols.bind target).statements body

/-- The frame of the condition on the items of a loop. -/
def loopGuard (symbols : Symbols) (target : Target) (guard : Expr) : Symbols :=
  (symbols.enter.bind target).visit guard

/-- The frame of a block that has no variables of its own but those it sets. -/
def inside (symbols : Symbols) (body : List Statement) : Symbols :=
  symbols.enter.statements body

/-- The frame of a block that is given variables. -/
def bound (symbols : Symbols) (targets : List Target) (body : List Statement) : Symbols :=
  (targets.foldl bind symbols.enter).statements body

/-- The frame of the body of a macro, with the special variables that it uses. -/
def macroBody (symbols : Symbols) (parameters : List String) (defaults : List Expr)
    (special : List String) (body : List Statement) : Symbols :=
  let symbols := special.foldl declare (parameters.foldl declare symbols.enter)
  (symbols.visitAll defaults).statements body

end Symbols

/-! ## Mentions -/

mutual

/-- The names that a statement mentions at any depth, in order; those that are read are marked.
Named blocks are not looked into. -/
def Statement.mentions : Statement → List (Bool × String)
  | .text _ | .leave _ _ | .block .. => []
  | .print value | .evaluate _ value => reads value.names
  | .branch _ test body orElse => reads test.names ++ mentionsOfAll body ++ mentionsOfAll orElse
  | .loop _ target source guard body orElse =>
    writes target ++ reads source.names ++ mentionsOfAll body ++ mentionsOfAll orElse
      ++ reads (namesOfOption guard)
  | .assign _ target value => writes target ++ reads value.names
  | .capture _ target filter body =>
    writes target ++ reads (namesOfOption filter) ++ mentionsOfAll body
  | .bind _ targets values body =>
    targets.flatMap writes ++ reads (namesOfAll values) ++ mentionsOfAll body
  | .define _ _ parameters defaults body =>
    parameters.map ((false, ·)) ++ reads (namesOfAll defaults) ++ mentionsOfAll body
  | .wrap _ parameters defaults call body =>
    reads call.names ++ parameters.map ((false, ·)) ++ reads (namesOfAll defaults)
      ++ mentionsOfAll body
  | .filtered _ filter body => mentionsOfAll body ++ reads filter.names
  | .outside _ _ template _ => reads template.names
where
  /-- Names that are read. -/
  reads (names : List String) : List (Bool × String) := names.map ((true, ·))
  /-- Names that are set. A namespace whose member is set is not mentioned by that. -/
  writes (target : Target) : List (Bool × String) :=
    target.names.filter fun (isRead, _) => !isRead

/-- The names that statements mention. -/
def mentionsOfAll : List Statement → List (Bool × String)
  | [] => []
  | first :: rest => first.mentions ++ mentionsOfAll rest

end

/-- True when statements read a name before they set it. -/
def readsFirst (name : String) (body : List Statement) : Bool :=
  match (mentionsOfAll body).find? fun (_, mentioned) => mentioned == name with
  | some (isRead, _) => isRead
  | none => false

/-- The special variables of a macro that its body uses and its parameters do not name. -/
def specialNames (parameters : List String) (body : List Statement) : List String :=
  ["caller", "kwargs", "varargs"].filter fun name =>
    readsFirst name body && !parameters.contains name

end FormLetter.Script
