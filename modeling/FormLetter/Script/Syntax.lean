/-!
# The template language

Expressions and statements. Each carries the line of the token that it is known by: that of an
operation is where its first operand begins, that of a filter is where its name stands.
-/

namespace FormLetter.Script

/-- A value that is written out. -/
inductive Constant where
  | none
  | bool (value : Bool)
  | int (value : Nat)
  | float (value : Float)
  | text (value : List Char)
  deriving Repr, Inhabited

/-- The ways to compare two values. -/
inductive Comparison where
  | eq | ne | lt | le | gt | ge | isIn | notIn
  deriving DecidableEq, Repr, Inhabited

/-- The operations on two values. -/
inductive Arithmetic where
  | add | sub | mul | div | floorDiv | mod | pow
  deriving DecidableEq, Repr, Inhabited

mutual

/-- An expression. -/
inductive Expr where
  | name (line : Nat) (name : String)
  | constant (line : Nat) (value : Constant)
  | tuple (line : Nat) (items : List Expr)
  | list (line : Nat) (items : List Expr)
  /-- Keys and values by turns. -/
  | dict (line : Nat) (parts : List Expr)
  | conditional (line : Nat) (test body : Expr) (orElse : Option Expr)
  | either (line : Nat) (left right : Expr)
  | both (line : Nat) (left right : Expr)
  | negation (line : Nat) (operand : Expr)
  /-- A chain of comparisons: as many operators as operands after the first. -/
  | compare (line : Nat) (first : Expr) (operators : List Comparison) (operands : List Expr)
  | arithmetic (line : Nat) (operation : Arithmetic) (left right : Expr)
  | concat (line : Nat) (items : List Expr)
  | minus (line : Nat) (operand : Expr)
  | plus (line : Nat) (operand : Expr)
  | member (line : Nat) (subject : Expr) (name : String)
  | item (line : Nat) (subject index : Expr)
  | slice (line : Nat) (subject : Expr) (start stop step : Option Expr)
  | call (line : Nat) (callee : Expr) (arguments : Arguments)
  | filter (line : Nat) (subject : Expr) (name : String) (arguments : Arguments)
  | test (line : Nat) (subject : Expr) (name : String) (arguments : Arguments)
  /-- The text of the block that a filter stands at. -/
  | captured (line : Nat)
  /-- A member of a namespace as the target of an assignment. -/
  | place (line : Nat) (space name : String)

/-- The arguments of a call. -/
inductive Arguments where
  | mk (positional : List Expr) (names : List String) (values : List Expr)
      (rest : Option Expr) (restNamed : Option Expr)

end

instance : Inhabited Expr := ⟨.captured 0⟩

/-- No arguments. -/
def Arguments.none : Arguments := .mk [] [] [] .none .none

namespace Expr

/-- The line of an expression. -/
def line : Expr → Nat
  | name line _ | constant line _ | tuple line _ | list line _ | dict line _
  | conditional line _ _ _ | either line _ _ | both line _ _ | negation line _
  | compare line _ _ _ | arithmetic line _ _ _ | concat line _ | minus line _ | plus line _
  | member line _ _ | item line _ _ | slice line _ _ _ _ | call line _ _ | filter line _ _ _
  | test line _ _ _ | captured line | place line _ _ => line

/-- What an expression is called in a message. -/
def kind : Expr → String
  | name .. => "name"
  | constant .. => "const"
  | tuple .. => "tuple"
  | list .. => "list"
  | dict .. => "dict"
  | conditional .. => "condexpr"
  | either .. => "or"
  | both .. => "and"
  | negation .. => "not"
  | compare .. => "compare"
  | arithmetic _ operation _ _ =>
    match operation with
    | .add => "add" | .sub => "sub" | .mul => "mul" | .div => "div" | .floorDiv => "floordiv"
    | .mod => "mod" | .pow => "pow"
  | concat .. => "concat"
  | minus .. => "neg"
  | plus .. => "pos"
  | member .. => "getattr"
  | item .. | slice .. => "getitem"
  | call .. => "call"
  | filter .. => "filter"
  | test .. => "test"
  | captured .. => "filter"
  | place .. => "nsref"

end Expr

/-- What can be assigned to: a variable, a member of a namespace, or several of them at once. -/
inductive Target where
  | name (name : String)
  | place (space name : String)
  | items (items : List Target)
  deriving Repr, Inhabited

/-- The ways to leave the body of a loop early. -/
inductive Leave where
  | stop
  | next
  deriving DecidableEq, Repr

/-- A statement. -/
inductive Statement where
  | text (text : List Char)
  | print (value : Expr)
  | branch (line : Nat) (test : Expr) (body orElse : List Statement)
  | loop (line : Nat) (target : Target) (source : Expr) (guard : Option Expr)
      (body orElse : List Statement)
  | leave (line : Nat) (how : Leave)
  | assign (line : Nat) (target : Target) (value : Expr)
  /-- Assigns the text of a block, after a filter if there is one. -/
  | capture (line : Nat) (target : Target) (filter : Option Expr) (body : List Statement)
  | evaluate (line : Nat) (value : Expr)
  /-- Gives variables to a block alone. -/
  | bind (line : Nat) (targets : List Target) (values : List Expr) (body : List Statement)
  /-- Defines a macro. The defaults belong to the last parameters. -/
  | define (line : Nat) (name : String) (parameters : List String) (defaults : List Expr)
      (body : List Statement)
  /-- Calls a macro that can call the body in turn. -/
  | wrap (line : Nat) (parameters : List String) (defaults : List Expr) (call : Expr)
      (body : List Statement)
  | filtered (line : Nat) (filter : Expr) (body : List Statement)
  | block (line : Nat) (name : String) (isScoped isRequired : Bool) (body : List Statement)
  /-- Takes in another template, or names of it. There are no other templates. -/
  | outside (line : Nat) (isParent : Bool) (template : Expr) (names : List String)

instance : Inhabited Statement := ⟨.text []⟩

end FormLetter.Script
