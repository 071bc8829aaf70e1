import SelectBuilder.Query.Script

namespace SelectBuilder

/-!
# Induction over scripts

Calls are trees: a scope of alternatives holds a script of its own, and a call
that is tolerated is a call inside another one.  What is proved of a call is
proved once for the calls that hold no others, and once for each of these two
when what they hold is known already.  A run of a script then follows the list
of its calls, and what all calls keep, the run keeps.
-/

/-- The calls that hold no other calls. -/
def Call.IsSimple : Call -> Prop
  | .either _ _ | .tolerate _ => False
  | _ => True

/-- The calls that a call holds. -/
def Call.parts : Call -> List Call
  | .either _ body => body
  | .tolerate call => [call]
  | _ => []

theorem Call.induction {motive : Call -> Prop}
    (simple : forall call, call.IsSimple -> motive call)
    (either : forall onFailure body, (forall call, call ∈ body -> motive call) ->
      motive (.either onFailure body))
    (tolerate : forall call, motive call -> motive (.tolerate call)) (call : Call) :
    motive call := by
  cases call with
  | either onFailure body =>
      exact either onFailure body fun inner member =>
        Call.induction simple either tolerate inner
  | tolerate inner => exact tolerate inner (Call.induction simple either tolerate inner)
  | _ => exact simple _ trivial
termination_by call
decreasing_by
  · simp only [Call.either.sizeOf_spec]
    have smaller := List.sizeOf_lt_of_mem member
    omega
  · simp only [Call.tolerate.sizeOf_spec]
    omega

/-! ## What one call can do -/

/-- The filter that a call adds to the query, given as such or as a document. -/
def Call.filter? : Call -> Option Filter
  | .filter given => some given
  | .filterJson document => (Filter.ofJson document).toOption
  | _ => none

/-- A call that holds no others leaves the query as it is, or makes the one change
that belongs to it, with everything checked before. -/
theorem Call.query_run_cases {query : Query} {motive : Call -> Query -> Prop}
    (unchanged : forall call, motive call query)
    (filtered : forall call filter group, call.filter? = some filter ->
      filter.compileGroup query.base = .ok (some group) ->
      motive call (query.pushCondition group))
    (joined : forall table foreignKey options plan,
      query.planJoin table foreignKey options = .ok plan ->
      motive (.join table foreignKey options) (query.record plan))
    (ordered : forall key name direction, Direction.ofName name = .ok direction ->
      motive (.orderBy key name)
        { query with ordering := query.ordering ++ [(key.resolve query.base, direction)] })
    (selected : forall key options, motive (.select key options) (query.select key options))
    (selectedOnly : forall key options,
      motive (.selectOnly key options) (query.selectOnly key options))
    (grouped : forall key, motive (.groupBy key) (query.groupBy key))
    (unordered : motive .resetOrder query.resetOrder)
    (limited : forall number, motive (.limit number) (query.setLimit number))
    (shifted : forall number, motive (.offset number) (query.setOffset number))
    (distinguished : forall distinct, motive (.distinct distinct) (query.setDistinct distinct))
    (call : Call) (isSimple : call.IsSimple) : motive call (call.run query).query := by
  have filterCase : forall call filter, call.filter? = some filter ->
      motive call (query.filter filter).query := by
    intro call filter given
    rw [Query.filter_eq]
    rcases compiled : filter.compileGroup query.base with error | _ | group
    · exact unchanged call
    · exact unchanged call
    · exact filtered call filter group given compiled
  cases call <;> rw [Call.run]
  case filter filter => exact filterCase _ filter rfl
  case filterJson document =>
    unfold Query.filterJson
    cases read : Filter.ofJson document with
    | error error => exact unchanged _
    | ok filter =>
        apply filterCase
        rw [Call.filter?, read]
        rfl
  case reject reason => exact unchanged _
  case join table foreignKey options =>
    rw [Query.join_eq]
    cases planned : query.planJoin table foreignKey options with
    | error error => exact unchanged _
    | ok plan => exact joined table foreignKey options plan planned
  case orderBy key name =>
    rw [Query.orderBy_eq]
    cases named : Direction.ofName name with
    | error error => exact unchanged _
    | ok direction => exact ordered key name direction named
  case select key options => exact selected key options
  case selectOnly key options => exact selectedOnly key options
  case groupBy key => exact grouped key
  case resetOrder => exact unordered
  case limit number => exact limited number
  case offset number => exact shifted number
  case distinct distinct => exact distinguished distinct
  case either onFailure body => exact isSimple.elim
  case tolerate inner => exact isSimple.elim

/-! ## Runs, call by call -/

theorem runScript_nil (onFailure : OnFailure) (query : Query) :
    runScript onFailure query [] = ⟨[], .success query⟩ := by
  rw [runScript]

/-- Put the report of a call in front of the run of the calls behind it. -/
def Run.after (report : Report) (run : Run) : Run :=
  ⟨report :: run.reports, run.outcome⟩

/-- Behind a call that succeeded the script goes on. -/
theorem runScript_cons_of_ok (onFailure : OnFailure) {query : Query} {call : Call}
    (rest : List Call) (succeeded : (call.run query).result = .ok ()) :
    runScript onFailure query (call :: rest) =
      (runScript onFailure (call.run query).query rest).after (call.run query) := by
  cases handling : call.onFailure onFailure <;> simp [runScript, handling, succeeded, Run.after]

/-- So it does behind a call whose failure does not matter. -/
theorem runScript_cons_of_goOn {onFailure : OnFailure} (query : Query) {call : Call}
    (rest : List Call) (goesOn : call.onFailure onFailure = .goOn) :
    runScript onFailure query (call :: rest) =
      (runScript onFailure (call.run query).query rest).after (call.run query) := by
  simp [runScript, goesOn, Run.after]

theorem runScript_cons_of_error {onFailure : OnFailure} {query : Query} {call : Call}
    (rest : List Call) (stops : call.onFailure onFailure = .stop) {error : BuildError}
    (failed : (call.run query).result = .error error) :
    runScript onFailure query (call :: rest) =
      ⟨[call.run query], .failure error (call.run query).query⟩ := by
  simp [runScript, stops, failed]

theorem runScript_goOn_cons (query : Query) (call : Call) (rest : List Call) :
    runScript .goOn query (call :: rest) =
      (runScript .goOn (call.run query).query rest).after (call.run query) := by
  apply runScript_cons_of_goOn
  cases call <;> rfl

/-- A script that goes on after failures does not fail itself. -/
theorem result_runScript_goOn (query : Query) (calls : List Call) :
    (runScript .goOn query calls).outcome.result = .ok () := by
  induction calls generalizing query with
  | nil => rw [runScript_nil]; rfl
  | cons call rest ih => rw [runScript_goOn_cons]; exact ih _

/-- The first of two scripts leaves the query that the second one starts with. -/
theorem run_append (query : Query) (first second : List Call) :
    query.run (first ++ second) =
      ⟨(query.run first).reports ++ ((query.after first).run second).reports,
        ((query.after first).run second).outcome⟩ := by
  unfold Query.after Query.run
  induction first generalizing query with
  | nil => simp [runScript_nil, Outcome.success]
  | cons call rest ih => simp [runScript_goOn_cons, Run.after, ih]

theorem length_reports_run (query : Query) (calls : List Call) :
    (query.run calls).reports.length = calls.length := by
  unfold Query.run
  induction calls generalizing query with
  | nil => simp [runScript_nil]
  | cons call rest ih => simp [runScript_goOn_cons, Run.after, ih]

/-! ## What runs lead to -/

/-- A relation between the query before a run and the query behind it, given by
what the admitted calls do one by one.  Inside an admitted call only calls that
are admitted themselves are made, and a scope that fails changes nothing. -/
structure LeadsTo (admitted : Call -> Prop) (relation : Query -> Query -> Prop) : Prop where
  refl : forall query, relation query query
  trans : forall {first second third}, relation first second -> relation second third ->
    relation first third
  simple : forall call query, call.IsSimple -> admitted call ->
    relation query (call.run query).query
  scope : forall query inside, relation query.openScope inside -> relation query inside.closeScope
  parts : forall call, admitted call -> forall part, part ∈ call.parts -> admitted part

namespace LeadsTo

variable {admitted : Call -> Prop} {relation : Query -> Query -> Prop}

theorem runScript_of_calls (leads : LeadsTo admitted relation) {calls : List Call}
    (each : forall call, call ∈ calls -> forall query, relation query (call.run query).query)
    (onFailure : OnFailure) (query : Query) :
    relation query (runScript onFailure query calls).outcome.query := by
  induction calls generalizing query with
  | nil => rw [runScript_nil]; exact leads.refl query
  | cons call rest ih =>
      have next : relation query (call.run query).query := each call List.mem_cons_self query
      have behind := ih (fun inner member => each inner (List.mem_cons_of_mem _ member))
        (call.run query).query
      cases result : (call.run query).result with
      | ok =>
          rw [runScript_cons_of_ok onFailure rest result]
          exact leads.trans next behind
      | error error =>
          cases handling : call.onFailure onFailure with
          | goOn =>
              rw [runScript_cons_of_goOn query rest handling]
              exact leads.trans next behind
          | stop =>
              rw [runScript_cons_of_error rest handling result]
              exact next

theorem call (leads : LeadsTo admitted relation) (call : Call) (allowed : admitted call)
    (query : Query) : relation query (call.run query).query := by
  induction call using Call.induction generalizing query with
  | simple call isSimple => exact leads.simple call query isSimple allowed
  | either onFailure body ih =>
      have inside := leads.runScript_of_calls
        (fun call member => ih call member (leads.parts _ allowed call member))
        onFailure query.openScope
      rw [Call.run]
      unfold Query.settleScope
      split
      · exact leads.scope query _ inside
      · exact leads.refl query
  | tolerate call ih =>
      rw [Call.run]
      exact ih (leads.parts _ allowed call List.mem_cons_self) query

/-- What every admitted call leads to, a script of them leads to. -/
theorem script (leads : LeadsTo admitted relation) {calls : List Call}
    (allowed : forall call, call ∈ calls -> admitted call) (onFailure : OnFailure)
    (query : Query) : relation query (runScript onFailure query calls).outcome.query :=
  leads.runScript_of_calls (fun call member => leads.call call (allowed call member)) onFailure
    query

/-- A property that no admitted call destroys. -/
theorem ofProperty {property : Query -> Prop}
    (simple : forall call query, call.IsSimple -> admitted call -> property query ->
      property (call.run query).query)
    (opened : forall query, property query -> property query.openScope)
    (closed : forall query, property query -> property query.closeScope)
    (parts : forall call, admitted call -> forall part, part ∈ call.parts -> admitted part) :
    LeadsTo admitted fun before behind => property before -> property behind where
  refl _ holds := holds
  trans first second holds := second (first holds)
  simple := simple
  scope query inside lead holds := closed inside (lead (opened query holds))
  parts := parts

end LeadsTo

/-! ## What no call changes -/

namespace Query

/-- A new condition changes nothing but conditions. -/
theorem exists_pushCondition_eq (query : Query) (condition : Condition) :
    ∃ conditions scopes,
      query.pushCondition condition = { query with conditions := conditions, scopes := scopes } := by
  unfold pushCondition
  split <;> exact ⟨_, _, rfl⟩

theorem exists_closeScope_eq (query : Query) :
    ∃ conditions scopes,
      query.closeScope = { query with conditions := conditions, scopes := scopes } := by
  unfold closeScope
  split
  · exact ⟨_, _, rfl⟩
  · exact ⟨_, _, rfl⟩
  · exact exists_pushCondition_eq _ _

/-- The conditions of a join change nothing but conditions. -/
theorem exists_record_eq (query : Query) (plan : JoinPlan) :
    ∃ conditions scopes, query.record plan =
      { query.attach plan with conditions := conditions, scopes := scopes } := by
  rw [record_eq]
  cases plan.group with
  | none => exact ⟨_, _, rfl⟩
  | some group => exact exists_pushCondition_eq _ group

theorem joins_record (query : Query) (plan : JoinPlan) :
    (query.record plan).joins = query.joins ++ [plan.join] := by
  rcases query.exists_record_eq plan with ⟨conditions, scopes, recorded⟩
  rw [recorded]
  rfl

/-- Two queries on the same table, read in the same way. -/
structure SameSetup (before behind : Query) : Prop where
  base : behind.base = before.base
  mode : behind.mode = before.mode
  database : behind.database = before.database

namespace SameSetup

theorem refl (query : Query) : SameSetup query query := ⟨rfl, rfl, rfl⟩

theorem trans {first second third : Query} (left : SameSetup first second)
    (right : SameSetup second third) : SameSetup first third :=
  ⟨right.base.trans left.base, right.mode.trans left.mode, right.database.trans left.database⟩

theorem pushCondition (query : Query) (condition : Condition) :
    SameSetup query (query.pushCondition condition) := by
  rcases query.exists_pushCondition_eq condition with ⟨conditions, scopes, pushed⟩
  rw [pushed]
  exact ⟨rfl, rfl, rfl⟩

theorem closeScope (query : Query) : SameSetup query query.closeScope := by
  rcases query.exists_closeScope_eq with ⟨conditions, scopes, closed⟩
  rw [closed]
  exact ⟨rfl, rfl, rfl⟩

theorem record (query : Query) (plan : JoinPlan) : SameSetup query (query.record plan) := by
  rcases query.exists_record_eq plan with ⟨conditions, scopes, recorded⟩
  rw [recorded]
  exact ⟨rfl, rfl, rfl⟩

theorem run_simple (query : Query) (call : Call) (isSimple : call.IsSimple) :
    SameSetup query (call.run query).query := by
  apply Call.query_run_cases (motive := fun _ behind => SameSetup query behind)
  case unchanged => exact fun _ => refl query
  case filtered => exact fun _ _ group _ _ => pushCondition query group
  case joined => exact fun _ _ _ plan _ => record query plan
  case isSimple => exact isSimple
  all_goals
    intros
    exact ⟨rfl, rfl, rfl⟩

theorem leadsTo : LeadsTo (fun _ => True) SameSetup where
  refl := refl
  trans := trans
  simple call query isSimple _ := run_simple query call isSimple
  scope query inside lead := by
    have opened : SameSetup query query.openScope := ⟨rfl, rfl, rfl⟩
    exact (opened.trans lead).trans (closeScope inside)
  parts _ _ _ _ := trivial

/-- A script reads and writes on; it never starts over on another table. -/
theorem after (query : Query) (calls : List Call) : SameSetup query (query.after calls) :=
  leadsTo.script (fun _ _ => trivial) .goOn query

end SameSetup
end Query
end SelectBuilder
