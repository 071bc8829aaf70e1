import SelectBuilder.Proofs.AliasNumbers
import SelectBuilder.Proofs.FailedCalls

namespace SelectBuilder

/-!
# What a join brings along

A join can bring along a filter, columns to select and a column to group by.  None of them
takes part in the join itself.  The same can be had by a join without them and then, with
the alias that it gets, by a call for each of them.  What is left to the join is to write
this alias in front of the keys of the filter, and to fail as a whole where the filter
fails.
-/

/-! ## Keys of an alias -/

/-- A key with the alias written out, where it does not name a table itself. -/
def Key.ofAlias (aliasName : String) : Key -> Key
  | .bare name => .qualified aliasName name
  | key => key

theorem Key.resolve_ofAlias (aliasName : String) (key : Key) (table : String) :
    (key.ofAlias aliasName).resolve table = key.resolve aliasName := by
  cases key <;> rfl

namespace Filter

def ofAlias (aliasName : String) (filter : Filter) : Filter :=
  ⟨filter.entries.map fun entry => (entry.1.ofAlias aliasName, entry.2)⟩

/-- With the alias written out, it does not matter which table is at hand. -/
theorem compile_ofAlias (aliasName : String) (filter : Filter) (table : String) :
    (filter.ofAlias aliasName).compile table = filter.compile aliasName := by
  have each (entry : Key × Operand) :
      compileEntry table (entry.1.ofAlias aliasName, entry.2) = compileEntry aliasName entry := by
    rw [compileEntry, compileEntry, Key.resolve_ofAlias]
  rw [compile, compile, ofAlias, List.mapM_map]
  simp only [Function.comp_def, each]

theorem compileGroup_ofAlias (aliasName : String) (filter : Filter) (table : String) :
    (filter.ofAlias aliasName).compileGroup table = filter.compileGroup aliasName := by
  rw [compileGroup, compileGroup, compile_ofAlias]

end Filter

/-! ## A join without what it brings along -/

namespace JoinOptions

/-- The options of a join alone. -/
structure BringsNothing (options : JoinOptions) : Prop where
  filter : options.filter = {}
  columns : options.columns = []
  groupBy : options.groupBy = none

/-- The same join without anything else. -/
def withoutFeedback (options : JoinOptions) : JoinOptions :=
  { options with filter := {}, columns := [], groupBy := none }

theorem bringsNothing_withoutFeedback (options : JoinOptions) :
    options.withoutFeedback.BringsNothing :=
  ⟨rfl, rfl, rfl⟩

/-- What a join brings along, as calls about its alias. -/
def feedback (options : JoinOptions) (aliasName : String) : List Call :=
  .filter (options.filter.ofAlias aliasName)
    :: (options.columns.map (fun field =>
        .select (.qualified aliasName field) { aliasName := some (aliasName ++ "_" ++ field) })
      ++ options.groupBy.toList.map fun column => .groupBy (.qualified aliasName column))

end JoinOptions

/-- A join and nothing else. -/
structure JoinPlan.BringsNothing (plan : JoinPlan) : Prop where
  group : plan.group = none
  columns : plan.columns = []
  groupBy : plan.groupBy = none

namespace Query

section Plans

variable {query : Query} {table : String} {foreignKey : ForeignKey} {options : JoinOptions}
  {plan : JoinPlan}

theorem bringsNothing_of_planJoin (nothing : options.BringsNothing)
    (planned : query.planJoin table foreignKey options = .ok plan) : plan.BringsNothing := by
  rcases planJoin_eq_ok planned with ⟨kind, conditions, group, -, -, -, grouped, rfl⟩
  rw [nothing.filter] at grouped
  cases grouped
  exact ⟨rfl, nothing.columns, nothing.groupBy⟩

variable (query table foreignKey options)

/-- A join is planned like one that brings nothing along, and its filter behind that. -/
theorem planJoin_eq_bind :
    query.planJoin table foreignKey options = (do
      let plan ← query.planJoin table foreignKey options.withoutFeedback
      let group ← options.filter.compileGroup plan.join.aliasName
      return { plan with
        group := group
        columns := options.columns
        groupBy := options.groupBy }) := by
  rcases options with ⟨kind, name, source, conditions, filter, columns, groupBy⟩
  unfold planJoin JoinOptions.withoutFeedback
  dsimp only
  cases kind.elim (.ok .inner) JoinKind.ofName with
  | error error => rfl
  | ok kind =>
      cases query.aliasInUse (query.chooseAlias table name).aliasName with
      | true => rfl
      | false => cases conditions.compile (query.chooseAlias table name).aliasName <;> rfl

variable {query table foreignKey options}

/-- When all else is in order, only the filter can still be at fault. -/
theorem planJoin_of_planned
    (planned : query.planJoin table foreignKey options.withoutFeedback = .ok plan) :
    query.planJoin table foreignKey options =
      (fun group => { plan with
        group := group
        columns := options.columns
        groupBy := options.groupBy }) <$> options.filter.compileGroup plan.join.aliasName := by
  rw [planJoin_eq_bind, planned, map_eq_pure_bind]
  rfl

/-- Then the join fails where its filter would fail behind it. -/
theorem result_join_of_planned
    (planned : query.planJoin table foreignKey options.withoutFeedback = .ok plan) :
    (query.join table foreignKey options).result =
      ((query.record plan).filter (options.filter.ofAlias plan.join.aliasName)).result := by
  rw [result_join, planJoin_of_planned planned, filter_eq, Filter.compileGroup_ofAlias]
  rcases options.filter.compileGroup plan.join.aliasName with error | _ | group <;> rfl

/-- Where it does not fail, all that the join brings along is recorded with it. -/
theorem exists_group_of_planned
    (planned : query.planJoin table foreignKey options.withoutFeedback = .ok plan)
    (succeeded : (query.join table foreignKey options).result = .ok ()) :
    ∃ group, options.filter.compileGroup plan.join.aliasName = .ok group ∧
      query.join table foreignKey options =
        .success (query.record { plan with
          group := group
          columns := options.columns
          groupBy := options.groupBy }) := by
  rcases exists_plan_of_join succeeded with ⟨whole, found, joined⟩
  rw [planJoin_of_planned planned] at found
  rcases map_eq_ok.mp found with ⟨group, grouped, rfl⟩
  exact ⟨group, grouped, joined⟩

end Plans

/-- What is brought along is recorded behind the join: the group of the filter, then the
columns, then the grouping. -/
theorem record_eq_behind (query : Query) {plan : JoinPlan} (nothing : plan.BringsNothing)
    (group : Option Condition) (columns : List String) (groupBy : Option String) :
    query.record { plan with group := group, columns := columns, groupBy := groupBy } =
      groupBy.toList.foldl
        (fun query column => query.groupBy (.qualified plan.join.aliasName column))
        (columns.foldl (selectField plan.join.aliasName)
          (group.elim (query.record plan) (query.record plan).pushCondition)) := by
  rcases plan with ⟨join, nextCounter, _, _, _⟩
  rcases nothing with ⟨rfl, rfl, rfl⟩
  cases groupBy <;> rfl

end Query

/-! ## The calls behind a join -/

/-- Calls that cannot fail make their changes one after the other. -/
theorem outcome_runScript_map {Part : Type} {call : Part -> Call}
    (change : Query -> Part -> Query)
    (each : forall query part,
      (call part).run query = (Outcome.success (change query part)).report)
    (onFailure : OnFailure) (parts : List Part) (rest : List Call) (query : Query) :
    (runScript onFailure query (parts.map call ++ rest)).outcome =
      (runScript onFailure (parts.foldl change query) rest).outcome := by
  induction parts generalizing query with
  | nil => rfl
  | cons part others ih =>
      have succeeded : ((call part).run query).result = .ok () := by
        rw [each]
        rfl
      rw [List.map_cons, List.cons_append, runScript_cons_of_ok onFailure _ succeeded, each]
      exact ih (change query part)

namespace Query

/-- The filter adds its group, the columns are selected as fields of the alias, and the
column is grouped by. -/
theorem outcome_feedback (query : Query) (options : JoinOptions) {aliasName : String}
    {group : Option Condition} (grouped : options.filter.compileGroup aliasName = .ok group)
    (onFailure : OnFailure) :
    (runScript onFailure query (options.feedback aliasName)).outcome =
      .success
        (options.groupBy.toList.foldl
          (fun query column => query.groupBy (.qualified aliasName column))
          (options.columns.foldl (selectField aliasName)
            (group.elim query query.pushCondition))) := by
  have filters : (Call.filter (options.filter.ofAlias aliasName)).run query =
      (Outcome.success (group.elim query query.pushCondition)).report := by
    rw [Call.run, filter_eq, Filter.compileGroup_ofAlias, grouped]
    cases group <;> rfl
  have selects (query : Query) (field : String) :
      (Call.select (.qualified aliasName field)
          { aliasName := some (aliasName ++ "_" ++ field) }).run query =
        (Outcome.success (selectField aliasName query field)).report := by
    rw [Call.run]
    rfl
  have groups (query : Query) (column : String) :
      (Call.groupBy (.qualified aliasName column)).run query =
        (Outcome.success (query.groupBy (.qualified aliasName column))).report := by
    rw [Call.run]
  have filtered : ((Call.filter (options.filter.ofAlias aliasName)).run query).result =
      .ok () := by
    rw [filters]
    rfl
  rw [JoinOptions.feedback, runScript_cons_of_ok onFailure _ filtered, filters, Run.after,
    outcome_runScript_map _ selects, ← List.append_nil (List.map _ options.groupBy.toList),
    outcome_runScript_map _ groups, runScript_nil]
  rfl

/-- A join that succeeds is a join without what it brings along, which gets the same alias,
and then the calls about this alias, which all succeed.  A join fails if and only if the
join without what it brings along fails, or else its filter behind that one, with the same
error; and then it leaves the query as it was. -/
theorem join_eq_separate_calls (query : Query) (table : String) (foreignKey : ForeignKey)
    (options : JoinOptions) :
    let joined := query.join table foreignKey options
    let plain := query.join table foreignKey options.withoutFeedback
    (joined.result = .ok () -> ∃ aliasName,
      joined.query.aliases = query.aliases ++ [aliasName] ∧
        plain.result = .ok () ∧ plain.query.aliases = query.aliases ++ [aliasName] ∧
        (runScript .stop plain.query (options.feedback aliasName)).outcome = joined) ∧
      (forall error, joined.result = .error error ↔
        plain.result = .error error ∨
          plain.result = .ok () ∧ ∃ aliasName,
            plain.query.aliases = query.aliases ++ [aliasName] ∧
              (plain.query.filter (options.filter.ofAlias aliasName)).result = .error error) ∧
      forall error, joined.result = .error error -> joined.query = query := by
  have clean := query.clean_join table foreignKey options
  dsimp only
  cases planned : query.planJoin table foreignKey options.withoutFeedback with
  | error error =>
      have refused : query.planJoin table foreignKey options = .error error := by
        rw [planJoin_eq_bind, planned]
        rfl
      rw [join_of_error refused, join_of_error planned]
      refine ⟨?_, fun other => (or_iff_left ?_).symm, fun _ _ => rfl⟩
      · intro succeeded
        cases succeeded
      · rintro ⟨succeeded, -⟩
        cases succeeded
  | ok plan =>
      have aliases := query.aliases_record plan
      rw [join_of_ok planned]
      refine ⟨fun succeeded => ?_, fun error => ?_, clean⟩
      · rcases exists_group_of_planned planned succeeded with ⟨group, grouped, joined⟩
        have behind := outcome_feedback (query.record plan) options grouped .stop
        rw [← record_eq_behind query
          (bringsNothing_of_planJoin options.bringsNothing_withoutFeedback planned)] at behind
        rw [joined]
        exact ⟨plan.join.aliasName, query.aliases_record _, rfl, aliases, behind⟩
      · rw [result_join_of_planned planned]
        constructor
        · exact fun failed => .inr ⟨rfl, plan.join.aliasName, aliases, failed⟩
        · rintro (failed | ⟨-, aliasName, others, failed⟩)
          · cases failed
          · -- The alias is the last one behind the join, so there is no other.
            have same := List.append_cancel_left (aliases.symm.trans others)
            rwa [List.singleton_inj.mp same]

/-- All that a join can bring along, with keys of each kind and a column twice. -/
def laden : JoinOptions where
  filter := ⟨[(.bare "a", .operators [("not_in", .list [.bool true]), ("like", .raw "?")]),
    (.qualified "t" "a", .term .null), (.raw "1", .term (.list [])), (.bare "b", .operators [])]⟩
  columns := ["a", "b", "a"]
  groupBy := some "b"

/-- The same with the name of an operator that there is none of, behind a good entry. -/
def overladen : JoinOptions :=
  { laden with filter := ⟨[(.bare "a", .term .null), (.bare "a", .operators [("between", .null)])]⟩ }

/-- In an alternative that is still open, behind a join under the first numbered name. -/
theorem join_eq_separate_calls_laden :
    let query := ((start "t" .prepared none).after
      [.join "x" ⟨"id", "a"⟩ { name := some "u_0" }]).openScope
    let joined := query.join "u" ⟨"id", "a"⟩ laden
    let plain := query.join "u" ⟨"id", "a"⟩ laden.withoutFeedback
    (∃ aliasName, plain.query.aliases = ["u_0"] ++ [aliasName] ∧
      (runScript .stop plain.query (laden.feedback aliasName)).outcome = joined) ∧
      joined.result = .ok () ∧ joined.query.scopes.map List.length = [1] ∧
      (query.join "u" ⟨"id", "a"⟩ overladen).result = .error (.invalidOperator "between") ∧
      (query.join "u" ⟨"id", "a"⟩ overladen).query = query := by
  intro query joined plain
  have succeeded : joined.result = .ok () := by decide
  have failed : (query.join "u" ⟨"id", "a"⟩ overladen).result =
      .error (.invalidOperator "between") := by decide
  rcases (query.join_eq_separate_calls "u" ⟨"id", "a"⟩ laden).1 succeeded with
    ⟨aliasName, -, -, aliases, behind⟩
  exact ⟨⟨aliasName, aliases, behind⟩, succeeded, by decide, failed,
    (query.join_eq_separate_calls "u" ⟨"id", "a"⟩ overladen).2.2 _ failed⟩

end Query
end SelectBuilder
