import SelectBuilder.Proofs.ScriptInduction

namespace SelectBuilder

/-!
# What a scope of alternatives means

The builder keeps a stack of open scopes, and every condition goes to the
innermost one.  The meaning of a scope needs no stack: run its body by itself,
on the query without any conditions, and take what the `WHERE` clause is then
as the alternatives.  The two agree because a run by itself, once its query is
put inside the enclosing one, is the run inside the scope, call by call.
-/

namespace Query

/-- The query with none of its conditions and none of its scopes. -/
def withoutConditions (query : Query) : Query :=
  { query with conditions := [], scopes := [] }

/-- A query of its own, put into a scope of another one: its conditions are the
scope's alternatives, and its scopes are open inside that scope. -/
def within (inner outer : Query) : Query :=
  { inner with
    conditions := outer.conditions
    scopes := inner.scopes ++ inner.conditions :: outer.scopes }

/-- The query with the conditions and the scopes of another one. -/
def withConditionsOf (query other : Query) : Query :=
  { query with conditions := other.conditions, scopes := other.scopes }

/-- Conditions go to the innermost scope as one group of alternatives, if
there are any. -/
def pushAlternatives (query : Query) (alternatives : List Condition) : Query :=
  if alternatives.isEmpty then query else query.pushCondition (.group .or alternatives)

theorem withoutConditions_within (query : Query) :
    query.withoutConditions.within query = query.openScope := rfl

/-! ## Every change of a query is the same change inside a scope -/

section Within

variable (inner outer : Query)

theorem pushCondition_within (condition : Condition) :
    (inner.within outer).pushCondition condition =
      (inner.pushCondition condition).within outer := by
  cases scopes : inner.scopes <;> simp [pushCondition, within, scopes]

theorem openScope_within : (inner.within outer).openScope = inner.openScope.within outer := rfl

/-- The scope that closes must be one of the inner query's own. -/
theorem closeScope_within (isOpen : inner.scopes ≠ []) :
    (inner.within outer).closeScope = inner.closeScope.within outer := by
  cases scopes : inner.scopes with
  | nil => exact absurd scopes isOpen
  | cons innermost rest =>
      cases innermost with
      | nil => simp [closeScope, within, scopes]
      | cons first others =>
          have pushed :=
            pushCondition_within { inner with scopes := rest } outer (.group .or (first :: others))
          simpa [closeScope, within, scopes] using pushed

theorem planJoin_within (table : String) (foreignKey : ForeignKey) (options : JoinOptions) :
    (inner.within outer).planJoin table foreignKey options =
      inner.planJoin table foreignKey options := rfl

theorem attach_within (plan : JoinPlan) :
    (inner.within outer).attach plan = (inner.attach plan).within outer := by
  cases next : plan.nextCounter <;> simp [attach, within, setCounter, next]

theorem record_within (plan : JoinPlan) :
    (inner.within outer).record plan = (inner.record plan).within outer := by
  rw [record_eq, record_eq, attach_within]
  cases plan.group with
  | none => rfl
  | some group => exact pushCondition_within (inner.attach plan) outer group

end Within
end Query

/-! ## The same call inside a scope -/

/-- Put the query behind a call into a scope. -/
def Outcome.within (outcome : Outcome) (outer : Query) : Outcome :=
  ⟨outcome.result, outcome.query.within outer⟩

mutual

/-- Put all queries of a report into a scope.  No result changes. -/
def Report.within (outer : Query) : Report -> Report
  | ⟨result, inside, query⟩ => ⟨result, reportsWithin outer inside, query.within outer⟩

def reportsWithin (outer : Query) : List Report -> List Report
  | [] => []
  | report :: rest => report.within outer :: reportsWithin outer rest

end

/-- Put a whole run into a scope. -/
def Run.within (run : Run) (outer : Query) : Run :=
  ⟨reportsWithin outer run.reports, run.outcome.within outer⟩

theorem Report.result_within (report : Report) (outer : Query) :
    (report.within outer).result = report.result := by
  cases report
  rw [Report.within]

theorem Report.query_within (report : Report) (outer : Query) :
    (report.within outer).query = report.query.within outer := by
  cases report
  rw [Report.within]

theorem Run.within_after (report : Report) (run : Run) (outer : Query) :
    (run.within outer).after (report.within outer) = (run.after report).within outer := by
  simp [Run.after, Run.within, reportsWithin]

theorem Outcome.report_within (outcome : Outcome) (outer : Query) :
    (outcome.within outer).report = outcome.report.within outer := by
  simp [Outcome.report, Outcome.within, Report.within, reportsWithin]

namespace Query

theorem filter_within (inner outer : Query) (filter : Filter) :
    (inner.within outer).filter filter = (inner.filter filter).within outer := by
  have sameBase : (inner.within outer).base = inner.base := rfl
  rw [filter_eq, filter_eq, sameBase]
  rcases filter.compileGroup inner.base with error | _ | group
  · rfl
  · rfl
  · exact congrArg Outcome.success (pushCondition_within inner outer group)

theorem filterJson_within (inner outer : Query) (document : Json) :
    (inner.within outer).filterJson document = (inner.filterJson document).within outer := by
  unfold filterJson
  cases Filter.ofJson document with
  | error error => rfl
  | ok filter => exact filter_within inner outer filter

theorem orderBy_within (inner outer : Query) (key : Key) (direction : String) :
    (inner.within outer).orderBy key direction = (inner.orderBy key direction).within outer := by
  rw [orderBy_eq, orderBy_eq]
  cases Direction.ofName direction <;> rfl

theorem join_within (inner outer : Query) (table : String) (foreignKey : ForeignKey)
    (options : JoinOptions) :
    (inner.within outer).join table foreignKey options =
      (inner.join table foreignKey options).within outer := by
  rw [join_eq, join_eq, planJoin_within]
  cases inner.planJoin table foreignKey options with
  | error error => rfl
  | ok plan => exact congrArg Outcome.success (record_within inner outer plan)

end Query

/-! ## The stack of scopes -/

theorem Query.length_scopes_pushCondition (query : Query) (condition : Condition) :
    (query.pushCondition condition).scopes.length = query.scopes.length := by
  cases scopes : query.scopes <;> simp [pushCondition, scopes]

theorem Query.length_scopes_record (query : Query) (plan : JoinPlan) :
    (query.record plan).scopes.length = query.scopes.length := by
  rw [record_eq]
  cases plan.group with
  | none => rfl
  | some group => exact length_scopes_pushCondition (query.attach plan) group

theorem Query.length_scopes_closeScope (query : Query) :
    query.closeScope.scopes.length = query.scopes.length - 1 := by
  unfold closeScope
  split
  · next none => simp [none]
  · next outer empty => simp [empty]
  · next alternatives outer _ some =>
      rw [length_scopes_pushCondition]
      simp [some]

/-- A call that holds no others leaves as many scopes open as there were. -/
theorem Call.length_scopes_run_simple (call : Call) (query : Query) (isSimple : call.IsSimple) :
    (call.run query).query.scopes.length = query.scopes.length := by
  apply Call.query_run_cases
    (motive := fun _ behind => behind.scopes.length = query.scopes.length)
  case filtered => exact fun _ _ group _ _ => query.length_scopes_pushCondition group
  case joined => exact fun _ _ _ plan _ => query.length_scopes_record plan
  case isSimple => exact isSimple
  all_goals
    intros
    rfl

/-- So does every script: the scopes that it opens it closes again. -/
theorem length_scopes_runScript (onFailure : OnFailure) (query : Query) (calls : List Call) :
    (runScript onFailure query calls).outcome.query.scopes.length = query.scopes.length := by
  have leads : LeadsTo (fun _ => True) fun before behind : Query =>
      behind.scopes.length = before.scopes.length := {
    refl := fun query => rfl
    trans := fun first second => second.trans first
    simple := fun call query isSimple _ => call.length_scopes_run_simple query isSimple
    scope := fun query inside opened => by
      rw [Query.length_scopes_closeScope, opened]
      rfl
    parts := fun _ _ _ _ => trivial }
  exact leads.script (fun _ _ => trivial) onFailure query

/-! ## The same run inside a scope -/

theorem Call.run_simple_within (call : Call) (isSimple : call.IsSimple) (inner outer : Query) :
    call.run (inner.within outer) = (call.run inner).within outer := by
  cases call with
  | filter filter =>
      simp only [Call.run]
      rw [Query.filter_within, Outcome.report_within]
  | filterJson document =>
      simp only [Call.run]
      rw [Query.filterJson_within, Outcome.report_within]
  | join table foreignKey options =>
      simp only [Call.run]
      rw [Query.join_within, Outcome.report_within]
  | orderBy key direction =>
      simp only [Call.run]
      rw [Query.orderBy_within, Outcome.report_within]
  | either onFailure body => exact isSimple.elim
  | tolerate inner => exact isSimple.elim
  | _ => simp only [Call.run]; rw [← Outcome.report_within]; rfl

/-- The run of a script inside a scope, when the runs of its calls are. -/
theorem runScript_within_of_calls {calls : List Call}
    (each : forall call, call ∈ calls -> forall inner outer : Query,
      call.run (inner.within outer) = (call.run inner).within outer)
    (onFailure : OnFailure) (inner outer : Query) :
    runScript onFailure (inner.within outer) calls =
      (runScript onFailure inner calls).within outer := by
  induction calls generalizing inner with
  | nil => simp [runScript_nil, Run.within, reportsWithin, Outcome.within, Outcome.success]
  | cons call rest ih =>
      have first := each call List.mem_cons_self inner outer
      have behind := ih (fun next member => each next (List.mem_cons_of_mem _ member))
        (call.run inner).query
      have sameResult : (call.run (inner.within outer)).result = (call.run inner).result := by
        rw [first, Report.result_within]
      cases result : (call.run inner).result with
      | ok =>
          rw [runScript_cons_of_ok onFailure rest result,
            runScript_cons_of_ok onFailure rest (sameResult.trans result), first,
            Report.query_within, behind, Run.within_after]
      | error error =>
          cases handling : call.onFailure onFailure with
          | goOn =>
              rw [runScript_cons_of_goOn _ rest handling, runScript_cons_of_goOn _ rest handling,
                first, Report.query_within, behind, Run.within_after]
          | stop =>
              rw [runScript_cons_of_error rest handling result,
                runScript_cons_of_error rest handling (sameResult.trans result), first]
              simp [Run.within, reportsWithin, Outcome.within, Outcome.failure, Report.query_within]

theorem Query.settleScope_within (inner outer : Query) (inside : Outcome)
    (isOpen : inside.query.scopes ≠ []) :
    (inner.within outer).settleScope (inside.within outer) =
      (inner.settleScope inside).within outer := by
  rcases inside with ⟨result, query⟩
  cases result with
  | ok => exact congrArg Outcome.success (closeScope_within query outer isOpen)
  | error error => rfl

/-- Every call does inside a scope what it does by itself. -/
theorem Call.run_within (call : Call) (inner outer : Query) :
    call.run (inner.within outer) = (call.run inner).within outer := by
  induction call using Call.induction generalizing inner outer with
  | simple call isSimple => exact call.run_simple_within isSimple inner outer
  | either onFailure body ih =>
      have inside := runScript_within_of_calls ih onFailure inner.openScope outer
      have isOpen : (runScript onFailure inner.openScope body).outcome.query.scopes ≠ [] := by
        intro closed
        have count := length_scopes_runScript onFailure inner.openScope body
        rw [closed] at count
        cases count
      have settled := inner.settleScope_within outer _ isOpen
      rw [Call.run, Call.run, Query.openScope_within, inside]
      simp only [Run.within, settled, Report.within]
      rfl
  | tolerate call ih =>
      rw [Call.run, Call.run]
      exact ih inner outer

theorem runScript_within (onFailure : OnFailure) (inner outer : Query) (calls : List Call) :
    runScript onFailure (inner.within outer) calls =
      (runScript onFailure inner calls).within outer :=
  runScript_within_of_calls (fun call _ => call.run_within) onFailure inner outer

/-! ## The meaning of a scope -/

/-- Closing the scope in which a query by itself was put. -/
theorem Query.closeScope_within_of_closed (inner outer : Query) (closed : inner.scopes = []) :
    (inner.within outer).closeScope =
      (inner.withConditionsOf outer).pushAlternatives inner.conditions := by
  cases conditions : inner.conditions <;>
    simp [closeScope, within, withConditionsOf, pushAlternatives, closed, conditions]

/-- A scope of alternatives does what its body does by itself, to the query
without conditions.  When the body succeeds there, every call in it has the same
result in the scope, the conditions that the body collects become one group
where conditions go, and all else is as the body leaves it.  When the body
fails there, the scope fails with that error and leaves nothing behind. -/
theorem run_either_eq_direct (query : Query) (onFailure : OnFailure) (body : List Call) :
    let direct := runScript onFailure query.withoutConditions body
    let report := (Call.either onFailure body).run query
    report.inside = reportsWithin query direct.reports ∧
      match direct.outcome.result with
      | .ok () =>
          report.result = .ok () ∧
            report.query =
              (direct.outcome.query.withConditionsOf query).pushAlternatives
                direct.outcome.query.conditions
      | .error error => report.result = .error error ∧ report.query = query := by
  intro direct report
  have inside : runScript onFailure query.openScope body = direct.within query := by
    rw [← query.withoutConditions_within]
    exact runScript_within onFailure query.withoutConditions query body
  have settled : report =
      ⟨(query.settleScope (direct.outcome.within query)).result,
        reportsWithin query direct.reports,
        (query.settleScope (direct.outcome.within query)).query⟩ := by
    change (Call.either onFailure body).run query = _
    rw [Call.run, inside]
    rfl
  have closed : direct.outcome.query.scopes = [] :=
    List.eq_nil_of_length_eq_zero
      (length_scopes_runScript onFailure query.withoutConditions body)
  rw [settled]
  refine ⟨rfl, ?_⟩
  have sameResult : (direct.outcome.within query).result = direct.outcome.result := rfl
  cases result : direct.outcome.result with
  | ok =>
      rw [result] at sameResult
      simp only [Query.settleScope, sameResult]
      exact ⟨rfl, direct.outcome.query.closeScope_within_of_closed query closed⟩
  | error error =>
      rw [result] at sameResult
      simp only [Query.settleScope, sameResult]
      exact ⟨rfl, rfl⟩

end SelectBuilder
