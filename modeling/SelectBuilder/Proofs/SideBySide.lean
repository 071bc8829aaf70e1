import Mathlib.Data.List.Forall2
import SelectBuilder.Proofs.ScriptInduction

namespace SelectBuilder

/-!
# Two runs side by side

Some properties are not of one run but of two: the same calls on two queries,
or two scripts of one shape.  They are compared call by call.  What a call that
holds no others does is first said once and for all: it fails, or it comes to
one change of the query, and it is known beforehand which.  Two runs then match
when matching calls come to matching changes, and when these and the scopes
keep the queries related.
-/

/-! ## What a call comes to -/

/-- The one change that a call makes when it succeeds. -/
inductive Change where
  /-- Add the group of a filter, if there is anything in it. -/
  | push (group : Option Condition)
  | record (plan : JoinPlan)
  | order (target : Target) (direction : Direction)
  | select (key : Key) (options : ColumnOptions)
  | selectOnly (key : Key) (options : ColumnOptions)
  | groupBy (key : Key)
  | resetOrder
  | limit (limit : UInt64)
  | offset (offset : UInt64)
  | distinct (distinct : Bool)

def Change.apply (query : Query) : Change -> Query
  | .push group => group.elim query query.pushCondition
  | .record plan => query.record plan
  | .order target direction => { query with ordering := query.ordering ++ [(target, direction)] }
  | .select key options => query.select key options
  | .selectOnly key options => query.selectOnly key options
  | .groupBy key => query.groupBy key
  | .resetOrder => query.resetOrder
  | .limit number => query.setLimit number
  | .offset number => query.setOffset number
  | .distinct only => query.setDistinct only

/-- The change that a filter comes to. -/
def Filter.change (base : String) (filter : Filter) : Except BuildError Change :=
  Change.push <$> filter.compileGroup base

/-- What a call comes to on a query: an error or a change.  A call that holds
others comes to whatever these come to, so for it nothing is said here. -/
def Call.change (query : Query) : Call -> Except BuildError Change
  | .filter given => given.change query.base
  | .filterJson document => Filter.ofJson document >>= Filter.change query.base
  | .reject reason => .error (.invalidValue (.stated reason))
  | .join table foreignKey options => Change.record <$> query.planJoin table foreignKey options
  | .select key options => .ok (.select key options)
  | .selectOnly key options => .ok (.selectOnly key options)
  | .groupBy key => .ok (.groupBy key)
  | .orderBy key name => Change.order (key.resolve query.base) <$> Direction.ofName name
  | .resetOrder => .ok .resetOrder
  | .limit number => .ok (.limit number)
  | .offset number => .ok (.offset number)
  | .distinct only => .ok (.distinct only)
  | .either _ _ | .tolerate _ => .ok (.push none)

/-- Make a change, if there was no error. -/
def Query.make (query : Query) : Except BuildError Change -> Outcome
  | .ok change => .success (change.apply query)
  | .error error => .failure error query

theorem Query.filter_eq_make (query : Query) (filter : Filter) :
    query.filter filter = query.make (filter.change query.base) := by
  rw [filter_eq, Filter.change]
  rcases filter.compileGroup query.base with error | _ | group <;> rfl

/-- A call that holds no others makes its change, and nothing is reported inside. -/
theorem Call.run_eq_make (query : Query) {call : Call} (isSimple : call.IsSimple) :
    call.run query = (query.make (call.change query)).report := by
  cases call with
  | filter filter => rw [Call.run, Query.filter_eq_make, Call.change]
  | filterJson document =>
      rw [Call.run, Query.filterJson, Call.change]
      cases Filter.ofJson document with
      | error error => rfl
      | ok filter => exact congrArg Outcome.report (query.filter_eq_make filter)
  | join table foreignKey options =>
      rw [Call.run, Query.join_eq, Call.change]
      cases query.planJoin table foreignKey options <;> rfl
  | orderBy key name =>
      rw [Call.run, Query.orderBy_eq, Call.change]
      cases Direction.ofName name <;> rfl
  | either onFailure body => exact isSimple.elim
  | tolerate call => exact isSimple.elim
  | _ => rw [Call.run]; rfl

/-! ## Matching runs -/

/-- Outcomes match when the results are the same and the queries are related. -/
structure Outcome.Match (relation : Query -> Query -> Prop) (first second : Outcome) : Prop where
  result : first.result = second.result
  query : relation first.query second.query

/-- Reports match when their outcomes do and the reports inside match one by one. -/
inductive Report.Match (relation : Query -> Query -> Prop) : Report -> Report -> Prop where
  | intro {first second : Report} (outcome : first.outcome.Match relation second.outcome)
      (inside : List.Forall₂ (Report.Match relation) first.inside second.inside) :
      Report.Match relation first second

theorem Report.Match.outcome {relation : Query -> Query -> Prop} {first second : Report} :
    first.Match relation second -> first.outcome.Match relation second.outcome
  | .intro outcome _ => outcome

/-- Runs match when the same calls were made, with matching reports, and their
outcomes match too. -/
structure Run.Match (relation : Query -> Query -> Prop) (first second : Run) : Prop where
  reports : List.Forall₂ (Report.Match relation) first.reports second.reports
  outcome : first.outcome.Match relation second.outcome

section Weaker

variable {relation weaker : Query -> Query -> Prop}

theorem Outcome.Match.imp (implies : forall first second, relation first second ->
      weaker first second) {first second : Outcome} (same : first.Match relation second) :
    first.Match weaker second :=
  ⟨same.result, implies _ _ same.query⟩

mutual

theorem Report.Match.imp (implies : forall first second, relation first second ->
      weaker first second) : forall {first second : Report},
    first.Match relation second -> first.Match weaker second
  | ⟨_, _, _⟩, _, .intro outcome inside =>
      .intro (outcome.imp implies) (Report.Match.impAll implies inside)

theorem Report.Match.impAll (implies : forall first second, relation first second ->
      weaker first second) : forall {first second : List Report},
    List.Forall₂ (Report.Match relation) first second ->
      List.Forall₂ (Report.Match weaker) first second
  | [], _, .nil => .nil
  | _ :: _, _, .cons head tail =>
      .cons (head.imp implies) (Report.Match.impAll implies tail)

end

/-- Runs that match in a relation match in every weaker one. -/
theorem Run.Match.imp (implies : forall first second, relation first second ->
      weaker first second) {first second : Run} (same : first.Match relation second) :
    first.Match weaker second :=
  ⟨Report.Match.impAll implies same.reports, same.outcome.imp implies⟩

end Weaker

/-! ## Scripts of one shape -/

/-- A way to put one call in the place of another that keeps the shape of every script. -/
structure Translation where
  call : Call -> Call
  change : Change -> Change
  isSimple : forall {original}, original.IsSimple -> (call original).IsSimple
  either : forall onFailure body,
    call (.either onFailure body) = .either onFailure (body.map call)
  tolerate : forall original, call (.tolerate original) = .tolerate (call original)

/-- Every call stays itself. -/
def Translation.refl : Translation where
  call := id
  change := id
  isSimple := id
  either onFailure body := by rw [List.map_id]; rfl
  tolerate _ := rfl

theorem Translation.map_refl (calls : List Call) : calls.map refl.call = calls :=
  List.map_id calls

theorem Call.onFailure_of_isSimple {call : Call} (isSimple : call.IsSimple)
    (script : OnFailure) : call.onFailure script = script := by
  cases call with
  | tolerate call => exact isSimple.elim
  | _ => rfl

theorem Translation.onFailure (translation : Translation) (call : Call) (script : OnFailure) :
    (translation.call call).onFailure script = call.onFailure script := by
  induction call using Call.induction with
  | simple call isSimple =>
      rw [Call.onFailure_of_isSimple isSimple,
        Call.onFailure_of_isSimple (translation.isSimple isSimple)]
  | either onFailure body => rw [translation.either]; rfl
  | tolerate call => rw [translation.tolerate]; rfl

/-- The translated calls come to the translated changes, and the changes and the
scopes keep the queries related. -/
structure Simulation (translation : Translation) (relation : Query -> Query -> Prop) :
    Prop where
  change : forall {first second : Query} {call : Call}, relation first second -> call.IsSimple ->
    (translation.call call).change second = translation.change <$> call.change first
  apply : forall {first second : Query} {call : Call} {change : Change},
    relation first second -> call.IsSimple -> call.change first = .ok change ->
    relation (change.apply first) ((translation.change change).apply second)
  openScope : forall {first second : Query}, relation first second ->
    relation first.openScope second.openScope
  closeScope : forall {first second : Query}, relation first second ->
    relation first.closeScope second.closeScope

namespace Simulation

variable {translation : Translation} {relation : Query -> Query -> Prop}

theorem run_simple (simulation : Simulation translation relation) {first second : Query}
    (related : relation first second) {call : Call} (isSimple : call.IsSimple) :
    (call.run first).Match relation ((translation.call call).run second) := by
  rw [Call.run_eq_make first isSimple, Call.run_eq_make second (translation.isSimple isSimple),
    simulation.change related isSimple]
  cases come : call.change first with
  | error error => exact .intro ⟨rfl, related⟩ .nil
  | ok change => exact .intro ⟨rfl, simulation.apply related isSimple come⟩ .nil

/-- Scripts match when their calls do: a failure stops both of them or neither. -/
theorem runScript_of_calls {calls : List Call}
    (each : forall call, call ∈ calls -> forall first second, relation first second ->
      (call.run first).Match relation ((translation.call call).run second))
    (onFailure : OnFailure) {first second : Query} (related : relation first second) :
    (runScript onFailure first calls).Match relation
      (runScript onFailure second (calls.map translation.call)) := by
  induction calls generalizing first second with
  | nil =>
      rw [List.map_nil, runScript_nil, runScript_nil]
      exact ⟨.nil, rfl, related⟩
  | cons call rest ih =>
      have head := each call List.mem_cons_self first second related
      have sameResult : (call.run first).result = ((translation.call call).run second).result :=
        head.outcome.result
      have next : relation (call.run first).query ((translation.call call).run second).query :=
        head.outcome.query
      have behind := ih (fun inner member => each inner (List.mem_cons_of_mem _ member)) next
      have both : ((runScript onFailure (call.run first).query rest).after (call.run first)).Match
          relation ((runScript onFailure ((translation.call call).run second).query
            (rest.map translation.call)).after ((translation.call call).run second)) :=
        ⟨.cons head behind.reports, behind.outcome⟩
      -- Results and handling are the same, so both scripts stop here or neither does.
      rw [List.map_cons]
      cases result : (call.run first).result with
      | ok =>
          rw [runScript_cons_of_ok onFailure rest result,
            runScript_cons_of_ok onFailure _ (sameResult.symm.trans result)]
          exact both
      | error error =>
          have sameHandling := translation.onFailure call onFailure
          cases handling : call.onFailure onFailure with
          | goOn =>
              rw [runScript_cons_of_goOn _ rest handling,
                runScript_cons_of_goOn _ _ (sameHandling.trans handling)]
              exact both
          | stop =>
              rw [runScript_cons_of_error rest handling result,
                runScript_cons_of_error _ (sameHandling.trans handling)
                  (sameResult.symm.trans result)]
              exact ⟨.cons head .nil, rfl, next⟩

theorem settleScope (simulation : Simulation translation relation) {first second : Query}
    (related : relation first second) {inside other : Outcome}
    (same : inside.Match relation other) :
    (first.settleScope inside).Match relation (second.settleScope other) := by
  unfold Query.settleScope
  rw [← same.result]
  cases inside.result with
  | ok => exact ⟨rfl, simulation.closeScope same.query⟩
  | error error => exact ⟨rfl, related⟩

/-- A call and its translation do the same to related queries. -/
theorem call (simulation : Simulation translation relation) (call : Call)
    {first second : Query} (related : relation first second) :
    (call.run first).Match relation ((translation.call call).run second) := by
  induction call using Call.induction generalizing first second with
  | simple call isSimple => exact simulation.run_simple related isSimple
  | either onFailure body ih =>
      have inside := runScript_of_calls (fun call member _ _ related => ih call member related)
        onFailure (simulation.openScope related)
      rw [translation.either, Call.run, Call.run]
      exact .intro (simulation.settleScope related inside.outcome) inside.reports
  | tolerate call ih =>
      rw [translation.tolerate, Call.run, Call.run]
      exact ih related

/-- A script and its translation match, from related queries on. -/
theorem script (simulation : Simulation translation relation) (onFailure : OnFailure)
    (calls : List Call) {first second : Query} (related : relation first second) :
    (runScript onFailure first calls).Match relation
      (runScript onFailure second (calls.map translation.call)) :=
  runScript_of_calls (fun call _ _ _ related => simulation.call call related) onFailure related

end Simulation

/-! ## Queries with the same scopes -/

/-- Related queries have the same scopes, and stay related when their conditions are
changed in the same way. -/
structure SharesScopes (relation : Query -> Query -> Prop) : Prop where
  scopes : forall {first second : Query}, relation first second -> second.scopes = first.scopes
  update : forall {first second : Query}, relation first second ->
    forall (conditions : List Condition -> List Condition)
      (scopes : List (List Condition) -> List (List Condition)),
    relation
      { first with conditions := conditions first.conditions, scopes := scopes first.scopes }
      { second with conditions := conditions second.conditions, scopes := scopes second.scopes }

namespace SharesScopes

variable {relation : Query -> Query -> Prop} {first second : Query}

theorem openScope (shares : SharesScopes relation) (related : relation first second) :
    relation first.openScope second.openScope :=
  shares.update related id ([] :: ·)

theorem pushCondition (shares : SharesScopes relation) (related : relation first second)
    (condition : Condition) :
    relation (first.pushCondition condition) (second.pushCondition condition) := by
  unfold Query.pushCondition
  rw [shares.scopes related]
  split
  · exact shares.update related (· ++ [condition]) fun _ => first.scopes
  · next innermost outer _ =>
      exact shares.update related id fun _ => (innermost ++ [condition]) :: outer

theorem closeScope (shares : SharesScopes relation) (related : relation first second) :
    relation first.closeScope second.closeScope := by
  unfold Query.closeScope
  rw [shares.scopes related]
  split
  · exact related
  · next outer _ => exact shares.update related id fun _ => outer
  · next outer _ _ =>
      exact shares.pushCondition (shares.update related id fun _ => outer) _

/-- A join changes the conditions by one more, and the rest as it is attached. -/
theorem record (shares : SharesScopes relation) {plan : JoinPlan}
    (attached : relation (first.attach plan) (second.attach plan)) :
    relation (first.record plan) (second.record plan) := by
  rw [Query.record_eq, Query.record_eq]
  cases plan.group with
  | none => exact attached
  | some group => exact shares.pushCondition attached group

end SharesScopes
end SelectBuilder
