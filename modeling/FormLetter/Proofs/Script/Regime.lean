import FormLetter.Proofs.Script.Methods
import FormLetter.Script.Render

/-!
# What goes from steps and calls to whole templates

Templates also call things of the world outside. What is said of computations that call, next to a
discipline for those that keep to themselves, is a regime: whole templates follow it when the calls
do.
-/

namespace FormLetter.Script

variable {σ : Type} [World σ]

/-- A discipline, together with something that is said of computations that call. Those that keep
to themselves follow it among others when they obey the discipline. -/
structure Regime (σ : Type) [World σ] extends Discipline where
  follows {α : Type} (action : M σ α) : Prop
  pureOut {α : Type} (value : α) : follows (Pure.pure value)
  throwOut {α : Type} (fault : Fault) : follows (throw fault : M σ α)
  bindOut {α β : Type} {action : M σ α} {next : α → M σ β} :
    follows action → (∀ value, follows (next value)) → follows (action >>= next)
  lift {α : Type} {action : Local α} : holds action → follows (liftM action)

/-- A computation that follows a regime. -/
class Follows {α : Type} (regime : Regime σ) (action : M σ α) : Prop where
  followed : regime.follows action

namespace Obeys

variable {discipline : Discipline}

/-! ## Names and arguments -/

instance variablesAt (place : Address) : Obeys discipline (variablesAt place) :=
  andThen fun cell => by cases cell <;> infer_instance

instance setVariable (place : Address) (name : String) (value : Value) :
    Obeys discipline (setVariable place name value) := by
  unfold Script.setVariable
  infer_instance

instance lookOutside? (scope : Scope) (name : String) :
    Obeys discipline (lookOutside? scope name) := by
  unfold Script.lookOutside?
  exact of_ite inferInstance (andThen fun exported => by split <;> infer_instance)

instance slotValue? (scope : Scope) (slot : Slot) : Obeys discipline (slotValue? scope slot) := by
  unfold Script.slotValue?
  split <;> infer_instance

instance enterFrame (scope : Scope) : Obeys discipline (enterFrame scope) := by
  unfold Script.enterFrame
  split
  · infer_instance
  · refine andThen fun given => (of_filterMapM fun entry => ?_).bind inferInstance
    dsimp only
    split <;> infer_instance

instance readName (scope : Scope) (name : String) : Obeys discipline (readName scope name) := by
  have known (found : Option Value) : Obeys discipline (match found with
      | some value => Pure.pure value
      | none => Script.unknownName name) := by
    cases found <;> infer_instance
  unfold Script.readName
  dsimp only
  split <;> infer_instance

instance compareBy (comparison : Comparison) (left right : Value) :
    Obeys discipline (compareBy comparison left right) := by
  unfold Script.compareBy
  split <;> infer_instance

instance concatenate (values : List Value) : Obeys discipline (concatenate values) := by
  unfold Script.concatenate
  infer_instance

instance namedArguments (value : Value) : Obeys discipline (namedArguments value) := by
  unfold Script.namedArguments
  split <;> try infer_instance
  refine andThen fun entries => of_mapM fun entry => ?_
  dsimp only
  split <;> infer_instance

instance givenOf (positional : List Value) (rest : Option Value) (names : List String)
    (values : List Value) (restNamed : Option Value) :
    Obeys discipline (givenOf positional rest names values restNamed) := by
  unfold Script.givenOf
  dsimp only
  split
  all_goals
    refine andThen fun more => ?_
    split <;> exact andThen fun named => by split <;> infer_instance

instance bindings (data : List (String × Json)) : Obeys discipline (bindings data) := by
  unfold Script.bindings
  infer_instance

/-! ## Variables and frames -/

instance unpack (count : Nat) (value : Value) : Obeys discipline (unpack count value) := by
  unfold Script.unpack
  infer_instance

instance spaceNamed (scope : Scope) (name : String) :
    Obeys discipline (spaceNamed scope name) := by
  have known (found : Option Value) : Obeys discipline (match found with
      | some (.record .space place) => Pure.pure place
      | _ => Script.trouble .notNamespace : Local Address) := by
    split <;> infer_instance
  unfold Script.spaceNamed
  dsimp only
  split <;> infer_instance

mutual

theorem assign (scope : Scope) (value : Value) :
    (target : Target) → Obeys discipline (target.assign scope value)
  | .name word => by
    unfold Target.assign
    split <;> infer_instance
  | .place space field => by
    unfold Target.assign
    infer_instance
  | .items parts => by
    unfold Target.assign
    exact andThen fun values => assignAll scope values parts

theorem assignAll (scope : Scope) (values : List Value) :
    (targets : List Target) → Obeys discipline (Script.assignAll scope values targets)
  | [] => by
    unfold Script.assignAll
    infer_instance
  | first :: rest => by
    unfold Script.assignAll
    split
    · infer_instance
    · exact (assign scope _ first).bind fun _ => assignAll scope _ rest

end

attribute [instance] assign

instance exportNames (scope : Scope) (names : List String) :
    Obeys discipline (exportNames scope names) := by
  unfold Script.exportNames
  split
  · refine of_ite (andThen fun bound => of_forM fun name => ?_) inferInstance
    split <;> infer_instance
  · infer_instance

instance enter (scope : Scope) (symbols : Symbols) : Obeys discipline (scope.enter symbols) := by
  unfold Scope.enter
  infer_instance

instance forBlock (scope : Scope) (isScoped : Bool) (body : List Statement) :
    Obeys discipline (scope.forBlock isScoped body) := by
  unfold Scope.forBlock
  dsimp only
  infer_instance

instance callerOf (routine : Routine) (named : List (String × Value)) :
    Obeys discipline (callerOf routine named) := by
  unfold Script.callerOf
  refine of_ite inferInstance ?_
  split <;> infer_instance

instance namedSurplus (routine : Routine) (named : List (String × Value)) :
    Obeys discipline (namedSurplus routine named) := by
  unfold Script.namedSurplus Script.routineTrouble
  refine of_ite inferInstance ?_
  split <;> infer_instance

instance placedSurplus (routine : Routine) (positional : List Value) :
    Obeys discipline (placedSurplus routine positional) := by
  unfold Script.placedSurplus Script.routineTrouble
  infer_instance

instance bindRoutine (routine : Routine) (given : Given) :
    Obeys discipline (bindRoutine routine given) := by
  unfold Script.bindRoutine
  infer_instance

instance routineOf (scope : Scope) (line : Nat) (name : String) (parameters : List String)
    (defaults : List Expr) (body : List Statement) :
    Obeys discipline (routineOf scope line name parameters defaults body) := by
  unfold Script.routineOf
  infer_instance

instance guardScope (scope : Scope) (target : Target) (guard : Option Expr) :
    Obeys discipline (guardScope scope target guard) := by
  unfold Script.guardScope
  split <;> infer_instance

instance loopOver (source : Value) (cursor : Address) :
    Obeys discipline (loopOver source cursor) := by
  unfold Script.loopOver
  infer_instance

instance checkSpaces (scope : Scope) (target : Target) :
    Obeys discipline (Statement.run.checkSpaces scope target) := by
  unfold Statement.run.checkSpaces
  refine of_forM fun name => ?_
  dsimp only
  infer_instance

end Obeys

namespace Follows

variable {regime : Regime σ} {α β : Type}

/-! ## Steps -/

theorem pure (value : α) : Follows regime (pure value : M σ α) :=
  ⟨regime.pureOut value⟩

theorem throw (fault : Fault) : Follows regime (throw fault : M σ α) :=
  ⟨regime.throwOut fault⟩

/-- What keeps to itself follows when it obeys. -/
theorem lift (action : Local α) [obeyed : Obeys regime.toDiscipline action] :
    Follows regime (liftM action : M σ α) :=
  ⟨regime.lift obeyed.obeyed⟩

theorem bind {action : M σ α} {next : α → M σ β} (first : Follows regime action)
    (second : ∀ value, Follows regime (next value)) : Follows regime (action >>= next) :=
  ⟨regime.bindOut first.followed fun value => (second value).followed⟩

theorem seq {first : M σ α} {second : M σ β} (begun : Follows regime first)
    (ended : Follows regime second) : Follows regime (first >>= fun _ => second) :=
  bind begun fun _ => ended

theorem ite {condition : Prop} [Decidable condition] {first second : M σ α}
    (holds : Follows regime first) (fails : Follows regime second) :
    Follows regime (if condition then first else second) := by
  split
  · exact holds
  · exact fails

/-! ## Lists -/

theorem forM {items : List β} {body : β → M σ PUnit} (each : ∀ item, Follows regime (body item)) :
    Follows regime (items.forM body) := by
  induction items with
  | nil => exact pure _
  | cons item rest ih => exact (each item).seq ih

theorem filterM {items : List β} {test : β → M σ Bool} (each : ∀ item, Follows regime (test item)) :
    Follows regime (items.filterM test) := by
  have kept (items found : List β) : Follows regime (items.filterAuxM test found) := by
    induction items generalizing found with
    | nil => exact pure found
    | cons item rest ih => exact (each item).bind fun passes => ih _
  exact (kept items []).bind fun found => pure _

/-! ## Expressions -/

section

variable {call : Value → Given → M σ Value}
  (calls : ∀ callee given, Follows regime (call callee given))

include calls

set_option linter.unusedSectionVars false in
mutual

theorem evaluate (scope : Scope) : (expr : Expr) → Follows regime (expr.evaluate call scope)
  | .name _ word => by
    unfold Expr.evaluate
    exact lift _
  | .constant _ _ => by
    unfold Expr.evaluate
    exact pure _
  | .tuple _ items => by
    unfold Expr.evaluate
    exact (evaluateAll scope items).bind fun values => pure _
  | .list _ items | .concat _ items => by
    unfold Expr.evaluate
    exact (evaluateAll scope items).bind fun values => lift _
  | .dict _ parts => by
    unfold Expr.evaluate
    exact (evaluateAll scope parts).bind fun values => (lift _).bind fun entries => lift _
  | .conditional _ test body orElse => by
    unfold Expr.evaluate
    refine (evaluate scope test).bind fun value => (lift _).bind fun isTrue => ?_
    refine ite (evaluate scope body) ((evaluateOption scope orElse).bind fun other => ?_)
    cases other with
    | some value => exact pure _
    | none => exact lift _
  | .either _ left right => by
    unfold Expr.evaluate
    refine (evaluate scope left).bind fun value => (lift _).bind fun isTrue => ?_
    exact ite (pure _) (evaluate scope right)
  | .both _ left right => by
    unfold Expr.evaluate
    refine (evaluate scope left).bind fun value => (lift _).bind fun isTrue => ?_
    exact ite (evaluate scope right) (pure _)
  | .negation _ operand => by
    unfold Expr.evaluate
    exact (evaluate scope operand).bind fun value => (lift _).bind fun isTrue => pure _
  | .compare _ first operators operands => by
    unfold Expr.evaluate
    refine (evaluate scope first).bind fun value => ?_
    exact (compareAll scope value operators operands).bind fun holds => pure _
  | .arithmetic _ operation left right => by
    unfold Expr.evaluate
    refine (evaluate scope left).bind fun value => ?_
    exact (evaluate scope right).bind fun other => lift _
  | .minus _ operand | .plus _ operand | .member _ operand _ => by
    unfold Expr.evaluate
    exact (evaluate scope operand).bind fun value => lift _
  | .item _ subject index => by
    unfold Expr.evaluate
    refine (evaluate scope subject).bind fun value => ?_
    exact (evaluate scope index).bind fun place => lift _
  | .slice _ subject start stop step => by
    unfold Expr.evaluate
    refine (evaluate scope subject).bind fun value => ?_
    refine (evaluateOption scope start).bind fun first => ?_
    refine (evaluateOption scope stop).bind fun last => ?_
    exact (evaluateOption scope step).bind fun by_ => lift _
  | .call _ callee given => by
    unfold Expr.evaluate
    refine (evaluate scope callee).bind fun value => ?_
    exact (evaluateArguments scope given).bind fun arguments => calls value arguments
  | .filter _ subject name given => by
    unfold Expr.evaluate
    refine (evaluate scope subject).bind fun value => ?_
    exact (evaluateArguments scope given).bind fun arguments => lift _
  | .test _ subject name given => by
    unfold Expr.evaluate
    refine (evaluate scope subject).bind fun value => ?_
    exact (evaluateArguments scope given).bind fun arguments => (lift _).bind fun holds => pure _
  | .captured _ | .place _ _ _ => by
    unfold Expr.evaluate
    exact pure _

theorem evaluateAll (scope : Scope) :
    (items : List Expr) → Follows regime (Script.evaluateAll call scope items)
  | [] => by
    unfold Script.evaluateAll
    exact pure _
  | first :: rest => by
    unfold Script.evaluateAll
    refine (evaluate scope first).bind fun value => ?_
    exact (evaluateAll scope rest).bind fun others => pure _

theorem evaluateOption (scope : Scope) :
    (found : Option Expr) → Follows regime (Script.evaluateOption call scope found)
  | none => by
    unfold Script.evaluateOption
    exact pure _
  | some found => by
    unfold Script.evaluateOption
    exact (evaluate scope found).bind fun value => pure _

theorem compareAll (scope : Scope) (left : Value) (operators : List Comparison) :
    (operands : List Expr) → Follows regime (Script.compareAll call scope left operators operands)
  | [] => by
    unfold Script.compareAll
    exact pure _
  | first :: rest => by
    unfold Script.compareAll
    refine (evaluate scope first).bind fun right => ?_
    cases operators with
    | nil => exact pure _
    | cons operator operators =>
      exact (lift _).bind fun holds => ite (compareAll scope right operators rest) (pure _)

theorem evaluateArguments (scope : Scope) :
    (arguments : Arguments) → Follows regime (arguments.evaluate call scope)
  | .mk positional names values rest restNamed => by
    unfold Arguments.evaluate
    refine (evaluateAll scope positional).bind fun given => ?_
    refine (evaluateOption scope rest).bind fun more => ?_
    refine (evaluateAll scope values).bind fun named => ?_
    exact (evaluateOption scope restNamed).bind fun moreNamed => lift _

end

/-! ## Loops -/

omit calls in
theorem repeatRounds {round : M σ (Option Outcome)} (each : Follows regime round) (limit : Nat)
    (rounds : Rounds) : Follows regime (repeatRounds round limit rounds) := by
  induction limit generalizing rounds with
  | zero => exact lift _
  | succ limit ih =>
    unfold Script.repeatRounds
    refine each.bind fun outcome => ?_
    cases outcome with
    | none => exact pure _
    | some outcome =>
      dsimp only
      split
      · exact ih _
      · exact ih _
      · exact pure _

omit calls in
theorem takeWhere {take : M σ (Option Value)} {test : Value → M σ Bool} (taken : Follows regime take)
    (tested : ∀ item, Follows regime (test item)) (limit : Nat) :
    Follows regime (takeWhere take test limit) := by
  induction limit with
  | zero => exact lift _
  | succ limit ih =>
    unfold Script.takeWhere
    refine taken.bind fun item => ?_
    cases item with
    | none => exact pure _
    | some item => exact (tested item).bind fun passes => ite (pure _) ih

theorem passes (target : Target) (inner : Scope) (guard : Expr) (item : Value) :
    Follows regime (passes call target inner guard item) := by
  unfold Script.passes
  refine (lift _).seq ((lift _).seq ?_)
  exact (evaluate calls inner guard).bind fun value => lift _

omit calls in
theorem enterRound {target : Target} {inner : Scope} {body : M σ Outcome}
    (run : Follows regime body) (given : List (String × Value)) (item : Value) :
    Follows regime (enterRound target inner body given item) := by
  unfold Script.enterRound
  exact (lift _).seq ((lift _).seq ((lift _).seq (run.bind fun outcome => pure _)))

theorem testedItems (target : Target) (guarded : Option (Scope × Expr)) (source : Value)
    (cursor : Address) : Follows regime (testedItems call target guarded source cursor) := by
  unfold Script.testedItems
  cases guarded with
  | none => exact pure _
  | some guarded =>
    refine (lift _).bind fun items => ?_
    refine (filterM fun item => passes calls target guarded.1 guarded.2 item).bind fun kept => ?_
    exact (lift _).bind fun place => pure _

theorem nextPassing (target : Target) (guarded : Option (Scope × Expr)) (cursor : Address) :
    Follows regime (nextPassing call target guarded cursor) := by
  unfold Script.nextPassing
  cases guarded with
  | none => exact lift _
  | some guarded => exact takeWhere (lift _) (passes calls target guarded.1 guarded.2) _

omit calls in
theorem nextAsked {round : List (String × Value) → Value → M σ (Option Outcome)}
    (each : ∀ given item, Follows regime (round given item)) (line : Nat) (loop : Address) :
    Follows regime (nextAsked line loop round) := by
  unfold Script.nextAsked
  refine (lift _).seq ((lift _).bind fun item => ?_)
  cases item with
  | none => exact pure _
  | some item => exact each _ item

theorem nextPlain {round : List (String × Value) → Value → M σ (Option Outcome)}
    (each : ∀ given item, Follows regime (round given item)) (line : Nat) (target : Target)
    (guarded : Option (Scope × Expr)) (cursor : Address) :
    Follows regime (nextPlain call line target guarded cursor round) := by
  unfold Script.nextPlain
  refine (lift _).seq ((nextPassing calls target guarded cursor).bind fun next => ?_)
  refine (lift _).seq ?_
  cases next with
  | none => exact pure _
  | some item => exact each _ item

theorem runRounds {round : List (String × Value) → Value → M σ (Option Outcome)}
    (each : ∀ given item, Follows regime (round given item)) (isAsked : Bool) (line : Nat)
    (target : Target) (guarded : Option (Scope × Expr)) (source : Value) (cursor : Address) :
    Follows regime (runRounds call isAsked line target guarded source cursor round) := by
  unfold Script.runRounds
  refine ite ?_ (repeatRounds (nextPlain calls each line target guarded cursor) _ _)
  refine (testedItems calls target guarded source cursor).bind fun kept => ?_
  exact (lift _).bind fun loop => repeatRounds (nextAsked each line loop) _ _

/-! ## Statements -/

theorem throughFilter (scope : Scope) (output : List Char) (filter : Option Expr) :
    Follows regime (throughFilter call scope output filter) := by
  unfold Script.throughFilter
  cases filter with
  | none => exact pure _
  | some found => exact evaluate calls _ found

theorem defaultOf (scope : Scope) (name : String) (default : Option Expr) :
    Follows regime (defaultOf call scope name default) := by
  unfold Script.defaultOf
  cases default with
  | none => exact lift _
  | some found => exact evaluate calls scope found

theorem fillDefaults (scope : Scope) (place : Address) (defaults : List (String × Option Expr)) :
    Follows regime (fillDefaults call scope place defaults) := by
  unfold Script.fillDefaults
  refine forM fun parameter => (lift _).bind fun known => ite (pure _) ?_
  exact (defaultOf calls scope parameter.1 parameter.2).bind fun value => lift _

set_option linter.unusedSectionVars false in
mutual

theorem statement (scope : Scope) :
    (statement : Statement) → Follows regime (statement.run call scope)
  | .text _ | .leave _ _ => by
    unfold Statement.run
    exact pure _
  | .print value => by
    unfold Statement.run
    refine (lift _).seq ((evaluate calls scope value).bind fun value => ?_)
    exact (lift _).bind fun text => pure _
  | .branch line test body orElse => by
    unfold Statement.run
    refine (lift _).seq ((evaluate calls scope test).bind fun value => ?_)
    exact (lift _).bind fun isTrue => ite (statements scope body) (statements scope orElse)
  | .loop line target source guard body orElse => by
    unfold Statement.run
    refine (lift _).seq ((evaluate calls scope source).bind fun source => ?_)
    refine (lift _).bind fun cursor => (lift _).bind fun guarded => (lift _).bind fun inner => ?_
    have round (given : List (String × Value)) (item : Value) :
        Follows regime (Script.enterRound target inner (runAll call inner body) given item) :=
      enterRound (statements inner body) given item
    refine (runRounds calls round _ line target guarded source cursor).bind fun rounds => ?_
    refine ite (pure _) ((lift _).bind fun other => (lift _).seq ?_)
    exact (statements other orElse).bind fun outcome => pure _
  | .assign line target value => by
    unfold Statement.run
    refine (lift _).seq ((lift _).seq ((evaluate calls scope value).bind fun value => ?_))
    exact (lift _).seq ((lift _).seq (pure _))
  | .capture line target filter body => by
    unfold Statement.run
    refine (lift _).bind fun inner => (lift _).seq ?_
    refine (statements inner body).bind fun outcome => (lift _).seq ?_
    refine (throughFilter calls scope outcome.output filter).bind fun value => ?_
    exact (lift _).seq ((lift _).seq (pure _))
  | .evaluate line value => by
    unfold Statement.run
    exact (lift _).seq ((evaluate calls scope value).bind fun value => pure _)
  | .bind _ targets values body => by
    unfold Statement.run
    refine (lift _).bind fun inner => (lift _).seq (seq ?_ (statements inner body))
    exact forM fun pair => (evaluate calls scope pair.2).bind fun value => lift _
  | .define line name parameters defaults body => by
    unfold Statement.run
    refine (lift _).seq ((lift _).bind fun value => ?_)
    exact (lift _).seq ((lift _).seq (pure _))
  | .wrap line parameters defaults callee body => by
    unfold Statement.run
    refine (lift _).seq ((lift _).bind fun caller => ?_)
    split
    · refine (evaluate calls scope _).bind fun callee => ?_
      refine (evaluateArguments calls scope _).bind fun given => ?_
      exact (calls callee _).bind fun result => (lift _).bind fun text => pure _
    · exact pure _
  | .filtered line filter body => by
    unfold Statement.run
    refine (lift _).bind fun inner => (lift _).seq ?_
    refine (statements inner body).bind fun outcome => (lift _).seq ?_
    refine (throughFilter calls inner outcome.output (some filter)).bind fun value => ?_
    exact (lift _).bind fun text => pure _
  | .block line name isScoped isRequired body => by
    unfold Statement.run
    refine (lift _).seq (ite (lift _) ?_)
    refine (lift _).bind fun inner => (lift _).seq ?_
    exact (statements inner body).bind fun outcome => pure _
  | .outside line kind template details => by
    unfold Statement.run
    exact (lift _).seq ((evaluate calls scope template).bind fun value => lift _)

theorem statements (scope : Scope) :
    (statements : List Statement) → Follows regime (runAll call scope statements)
  | [] => by
    unfold runAll
    exact pure _
  | first :: rest => by
    unfold runAll
    refine (statement scope first).bind fun outcome => ?_
    split
    · exact pure _
    · exact (statements scope rest).bind fun others => pure _

end

theorem runRoutine (bound locals : List (String × Value)) (blocks : List String)
    (routine : Routine) (given : Given) :
    Follows regime (runRoutine call bound locals blocks routine given) := by
  unfold Script.runRoutine
  refine (lift _).bind fun frame => (lift _).bind fun place => (lift _).bind fun line => ?_
  refine (lift _).seq ((lift _).seq ?_)
  refine (fillDefaults calls _ place _).seq ?_
  refine (statements calls _ routine.body).bind fun outcome => ?_
  exact (lift _).seq (pure _)

end

/-! ## Templates -/

section

theorem callWithin {stage : Stage σ}
    (hosted : ∀ subject name given, Follows regime (stage.host subject name given)) (depth : Nat)
    (callee : Value) (given : Given) : Follows regime (stage.callWithin depth callee given) := by
  induction depth generalizing callee given with
  | zero => exact lift _
  | succ depth ih =>
    unfold Stage.callWithin
    split
    · refine (lift _).bind fun cell => ?_
      split
      · exact runRoutine ih _ _ _ _ given
      · exact pure _
    · refine (lift _).bind fun place => (lift _).bind fun line => (lift _).seq ?_
      exact (statements ih _ _).bind fun outcome => (lift _).seq (pure _)
    · split <;> first | exact lift _ | exact hosted _ _ given
    · exact lift _
    · exact (lift _).seq (lift _)
    · exact lift _
    · exact lift _

theorem render {host : Host σ}
    (hosted : ∀ subject name given, Follows regime (host subject name given))
    (bound : List (String × Value)) (template : List Char) :
    Follows regime (render host bound template) := by
  unfold Script.render
  split
  · exact throw _
  · unfold Stage.run
    refine (lift _).seq ((lift _).bind fun place => (lift _).seq ?_)
    exact (statements (callWithin hosted callLimit) _ _).bind fun outcome => pure _

end

end Follows

end FormLetter.Script
