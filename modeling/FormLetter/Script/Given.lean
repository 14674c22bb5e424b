import FormLetter.Script.Member

/-!
# Arguments

The arguments that a call gives, and how they meet the parameters of what is called: by position
first and then by name. Each parameter takes one argument at most, and one without a default needs
it.
-/

namespace FormLetter.Script

open FormLetter.Text

/-- The arguments of a call. -/
structure Given where
  positional : List Value
  named : List (String × Value)
  deriving Inhabited

namespace Given

/-- No arguments. -/
def none : Given := ⟨[], []⟩

end Given

/-- A parameter with its default, if it has one. -/
structure Parameter where
  name : String
  default : Option Value

/-- A parameter that needs an argument. -/
def required (name : String) : Parameter := ⟨name, none⟩

/-- A parameter that has a default. -/
def optional (name : String) (value : Value := .none) : Parameter := ⟨name, some value⟩

/-- Fails because of the arguments of a call. -/
def argumentTrouble {α : Type} (callee complaint : String) : Local α :=
  kindTrouble (.arguments (callee ++ "()") complaint)

/-- Names as they are listed in a sentence. -/
def sentenceOf : List String → String
  | [] => ""
  | [name] => name
  | [first, second] => first ++ " and " ++ second
  | several => ", ".intercalate several.dropLast ++ ", and " ++ several.getLastD ""

/-- The complaint about arguments that no parameter is left for. -/
def surplusComplaint (least most given : Nat) : String :=
  let range := if least == most then toString most
    else "from " ++ toString least ++ " to " ++ toString most
  " takes " ++ range ++ " positional argument"
    ++ (if least == most && most == 1 then "" else "s")
    ++ " but " ++ toString given ++ (if given == 1 then " was" else " were") ++ " given"

/-- The complaint about parameters that got no argument. -/
def lackComplaint (names : List String) : String :=
  " missing " ++ toString names.length ++ " required positional argument"
    ++ (if names.length == 1 then "" else "s") ++ ": "
    ++ sentenceOf (names.map Quoted.quote)

/-- The values of parameters, in their order. `own` is the number of arguments that are always
given; a complaint counts them, too. -/
def bindParameters (callee : String) (given : Given) (parameters : List Parameter)
    (own : Nat := 0) : Local (List Value) := do
  let filled := parameters.take given.positional.length
  given.named.forM fun (name, _) => do
    if filled.any (·.name == name) then
      argumentTrouble callee (" got multiple values for argument " ++ Quoted.quote name)
    else if !parameters.any (·.name == name) then
      argumentTrouble callee (" got an unexpected keyword argument " ++ Quoted.quote name)
    else return ()
  if parameters.length < given.positional.length then
    let least := (parameters.filter (·.default.isNone)).length
    argumentTrouble callee
      (surplusComplaint (least + own) (parameters.length + own) (given.positional.length + own))
  else
    let left := parameters.drop given.positional.length
    let valueOf (parameter : Parameter) : Option Value :=
      given.named.lookup parameter.name <|> parameter.default
    let lacking := left.filter fun parameter => (valueOf parameter).isNone
    if lacking.isEmpty then return given.positional ++ left.filterMap valueOf
    else argumentTrouble callee (lackComplaint (lacking.map (·.name)))

end FormLetter.Script
