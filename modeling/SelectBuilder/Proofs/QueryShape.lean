import SelectBuilder.Proofs.LastingConditions
import SelectBuilder.Proofs.Reachability

namespace SelectBuilder

/-!
# The shape of what a query has collected

A filter leaves the group of its comparisons, and a scope the group of its
alternatives, and neither leaves a group without members.  So every condition that
a query has collected is a unit: comparisons that hold together, or units in the
alternative.  Written, each unit stands in parentheses of its own.  The condition
of a join is comparisons that hold together, with the equality of its keys in
front.  Every column in all of this says which table it belongs to.
-/

/-! ## Units -/

namespace Condition

/-- Comparisons that hold together, or units in the alternative; at least one of them. -/
inductive IsUnit : Condition -> Prop where
  | all {comparisons : List Comparison} (some : comparisons ≠ []) :
      IsUnit (.group .and (comparisons.map .compare))
  | any {units : List Condition} (some : units ≠ [])
      (each : forall unit, unit ∈ units -> IsUnit unit) : IsUnit (.group .or units)

namespace IsUnit

variable {condition : Condition}

theorem exists_eq_group (unit : condition.IsUnit) :
    ∃ junction children, condition = .group junction children := by
  cases unit with
  | all some => exact ⟨.and, _, rfl⟩
  | any some each => exact ⟨.or, _, rfl⟩

/-- A unit has a comparison in it. -/
theorem isEmpty_eq_false (unit : condition.IsUnit) : condition.isEmpty = false := by
  induction unit with
  | @all comparisons some =>
      cases comparisons with
      | nil => exact absurd rfl some
      | cons first others => rfl
  | @any units some each ih =>
      cases units with
      | nil => exact absurd rfl some
      | cons first others => simp [isEmpty, allEmpty, ih first List.mem_cons_self]

/-- There is no empty group in a unit, however deep one looks. -/
theorem children_ne_nil (unit : condition.IsUnit) {junction : Junction}
    {children : List Condition} (within : Within (.group junction children) condition) :
    children ≠ [] := by
  induction unit with
  | all some =>
      cases within with
      | here => simpa using some
      | deeper member inside =>
          rcases List.mem_map.mp member with ⟨comparison, _, rfl⟩
          cases inside
  | any some _ ih =>
      cases within with
      | here => exact some
      | deeper member inside => exact ih _ member inside

/-- Written in a clause, a unit stands in parentheses. -/
theorem sql_fragment_true (unit : condition.IsUnit) (mode : RenderMode) :
    (condition.fragment true).sql mode = parenthesized ((condition.fragment false).sql mode) := by
  have visible := unit.isEmpty_eq_false
  rcases unit.exists_eq_group with ⟨junction, children, rfl⟩
  exact Condition.sql_fragment_true visible

end IsUnit

/-- Comparisons that hold together are written one after the other. -/
theorem sql_fragment_all (mode : RenderMode) (comparisons : List Comparison) :
    ((group .and (comparisons.map compare)).fragment false).sql mode =
      Junction.and.sql.intercalate
        (comparisons.map fun comparison => comparison.fragment.sql mode) := by
  cases comparisons with
  | nil => rfl
  | cons first others =>
      have visible : ((first :: others).map compare).filter (fun child => !child.isEmpty) =
          (first :: others).map compare := by
        apply List.filter_eq_self.mpr
        intro child member
        rcases List.mem_map.mp member with ⟨comparison, _, rfl⟩
        rfl
      have notEmpty : (group .and ((first :: others).map compare)).isEmpty = false := rfl
      rw [fragment_group, visible, notEmpty, if_neg Bool.false_ne_true, if_neg Bool.false_ne_true,
        Fragment.sql_separated, List.map_map, List.map_map]
      rfl

end Condition

/-! ## Columns with their tables -/

/-- A column says which table it belongs to; raw SQL has to be trusted in this too. -/
def Target.IsQualified : Target -> Prop
  | .column reference => ∃ table, reference.table = some table
  | .raw _ => True

theorem Key.isQualified_resolve (key : Key) (table : String) :
    (key.resolve table).IsQualified := by
  cases key with
  | bare name => exact ⟨table, rfl⟩
  | qualified other name => exact ⟨other, rfl⟩
  | raw sql => trivial

def Condition.IsQualified (condition : Condition) : Prop :=
  forall comparison, comparison ∈ condition.comparisons -> comparison.target.IsQualified

/-- A filter compiles to comparisons, whose columns have their tables. -/
theorem Filter.exists_comparisons_of_compile {filter : Filter} {table : String}
    {conditions : List Condition} (compiled : filter.compile table = .ok conditions) :
    ∃ comparisons : List Comparison, conditions = comparisons.map .compare ∧
      forall comparison, comparison ∈ comparisons -> comparison.target.IsQualified := by
  have each : forall condition, condition ∈ conditions ->
      ∃ comparison : Comparison, comparison.target.IsQualified ∧
        condition = .compare comparison := by
    intro condition member
    rcases exists_of_mem_compile compiled member with ⟨entry, _, operator, term, _, rfl⟩
    exact ⟨_, entry.1.isQualified_resolve table, rfl⟩
  -- The rest of the conditions need not be what a filter compiles to.
  clear compiled
  induction conditions with
  | nil => exact ⟨[], rfl, fun _ member => by cases member⟩
  | cons condition rest ih =>
      rcases each condition List.mem_cons_self with ⟨comparison, qualified, rfl⟩
      rcases ih fun other member => each other (List.mem_cons_of_mem _ member) with
        ⟨others, rfl, othersQualified⟩
      refine ⟨comparison :: others, rfl, fun other member => ?_⟩
      rcases List.mem_cons.mp member with same | behind
      · rw [same]
        exact qualified
      · exact othersQualified other behind

theorem Condition.isQualified_all {comparisons : List Comparison}
    (each : forall comparison, comparison ∈ comparisons -> comparison.target.IsQualified) :
    (Condition.group .and (comparisons.map .compare)).IsQualified := by
  apply forall_mem_comparisons_group
  intro child member comparison only
  rcases List.mem_map.mp member with ⟨other, among, rfl⟩
  rw [Condition.comparisons, List.mem_singleton] at only
  rw [only]
  exact each other among

/-- What a filter adds to a query is a unit. -/
theorem Filter.isUnit_of_compileGroup {filter : Filter} {table : String} {group : Condition}
    (compiled : filter.compileGroup table = .ok (some group)) :
    group.IsUnit ∧ group.IsQualified := by
  rcases compileGroup_eq_some compiled with ⟨conditions, found, notNil, rfl⟩
  rcases exists_comparisons_of_compile found with ⟨comparisons, rfl, qualified⟩
  exact ⟨.all (by simpa using notNil), Condition.isQualified_all qualified⟩

/-! ## Shaped queries -/

/-- The join is made where the source's local column equals the quoted foreign one,
and where further comparisons hold. -/
def Join.IsKeyedBy (source : String) (foreignKey : ForeignKey) (join : Join) : Prop :=
  ∃ further : List Comparison,
    join.condition = .group .and
      ((⟨.column ⟨some source, foreignKey.localColumn⟩, .equal,
          .raw (Identifier.qualify (some join.aliasName) foreignKey.foreign)⟩ :: further).map
        .compare)

namespace Query

structure IsShaped (query : Query) : Prop where
  collects : query.Collects fun condition => condition.IsUnit ∧ condition.IsQualified
  joins : forall join, join ∈ query.joins ->
    (∃ source foreignKey, join.IsKeyedBy source foreignKey) ∧ join.condition.IsQualified
  grouping : forall target, target ∈ query.grouping -> target.IsQualified
  ordering : forall entry, entry ∈ query.ordering -> entry.1.IsQualified

/-- A planned join is keyed by the table and the columns that were asked for. -/
theorem isKeyedBy_of_planJoin {query : Query} {table : String} {foreignKey : ForeignKey}
    {options : JoinOptions} {plan : JoinPlan}
    (planned : query.planJoin table foreignKey options = .ok plan) :
    plan.join.IsKeyedBy (options.source.getD query.base) foreignKey ∧
      plan.join.condition.IsQualified := by
  rcases planJoin_eq_ok planned with ⟨kind, conditions, group, -, -, compiled, -, rfl⟩
  rcases Filter.exists_comparisons_of_compile compiled with ⟨further, rfl, qualified⟩
  refine ⟨⟨further, rfl⟩, ?_⟩
  rw [keyCondition, ← List.map_cons]
  apply Condition.isQualified_all
  intro comparison member
  rcases List.mem_cons.mp member with key | behind
  · rw [key]
    exact ⟨_, rfl⟩
  · exact qualified comparison behind

namespace IsShaped

variable {query : Query}

theorem start (base : String) (mode : RenderMode) (database : Option String) :
    (Query.start base mode database).IsShaped where
  collects := .start base mode database
  joins _ member := by cases member
  grouping _ member := by cases member
  ordering _ member := by cases member

/-- Of a shaped query nothing but its conditions has changed, and these are units. -/
theorem update (shaped : query.IsShaped) {conditions : List Condition}
    {scopes : List (List Condition)}
    (collects : Query.Collects (fun condition => condition.IsUnit ∧ condition.IsQualified)
      { query with conditions := conditions, scopes := scopes }) :
    Query.IsShaped { query with conditions := conditions, scopes := scopes } :=
  { shaped with collects := collects }

theorem pushCondition (shaped : query.IsShaped) {condition : Condition}
    (unit : condition.IsUnit ∧ condition.IsQualified) :
    (query.pushCondition condition).IsShaped := by
  have collects := shaped.collects.pushCondition unit
  rcases query.exists_pushCondition_eq condition with ⟨conditions, scopes, pushed⟩
  rw [pushed] at collects ⊢
  exact shaped.update collects

theorem openScope (shaped : query.IsShaped) : query.openScope.IsShaped :=
  { shaped with collects := shaped.collects.openScope }

theorem closeScope (shaped : query.IsShaped) : query.closeScope.IsShaped := by
  have collects := shaped.collects.closeScope fun alternatives some each =>
    ⟨.any some fun unit member => (each unit member).1,
      Condition.forall_mem_comparisons_group .or fun unit member => (each unit member).2⟩
  rcases query.exists_closeScope_eq with ⟨conditions, scopes, closed⟩
  rw [closed] at collects ⊢
  exact shaped.update collects

theorem attach (shaped : query.IsShaped) {plan : JoinPlan}
    (keyed : (∃ source foreignKey, plan.join.IsKeyedBy source foreignKey) ∧
      plan.join.condition.IsQualified) : (query.attach plan).IsShaped where
  collects := shaped.collects.congr rfl rfl
  joins := by
    intro join member
    rcases List.mem_append.mp member with before | last
    · exact shaped.joins join before
    · rw [List.mem_singleton.mp last]
      exact keyed
  grouping := by
    intro target member
    rcases List.mem_append.mp member with before | column
    · exact shaped.grouping target before
    · rcases List.mem_map.mp column with ⟨_, _, rfl⟩
      exact ⟨_, rfl⟩
  ordering := shaped.ordering

theorem record (shaped : query.IsShaped) {table : String} {foreignKey : ForeignKey}
    {options : JoinOptions} {plan : JoinPlan}
    (planned : query.planJoin table foreignKey options = .ok plan) :
    (query.record plan).IsShaped := by
  have keyed := isKeyedBy_of_planJoin planned
  have attached := shaped.attach ⟨⟨_, _, keyed.1⟩, keyed.2⟩
  rcases planJoin_eq_ok planned with ⟨kind, conditions, group, -, -, -, grouped, rfl⟩
  rw [record_eq]
  cases group with
  | none => exact attached
  | some group => exact attached.pushCondition (Filter.isUnit_of_compileGroup grouped)

theorem run_simple (shaped : query.IsShaped) {call : Call} (isSimple : call.IsSimple) :
    (call.run query).query.IsShaped := by
  apply Call.query_run_cases (motive := fun _ behind => behind.IsShaped)
  case unchanged => exact fun _ => shaped
  case filtered =>
    intro call filter group _ compiled
    exact shaped.pushCondition (Filter.isUnit_of_compileGroup compiled)
  case joined => exact fun _ _ _ _ planned => shaped.record planned
  case ordered =>
    intro key name direction _
    refine { shaped with
      collects := shaped.collects.congr rfl rfl
      ordering := fun entry member => ?_ }
    rcases List.mem_append.mp member with before | last
    · exact shaped.ordering entry before
    · rw [List.mem_singleton.mp last]
      exact key.isQualified_resolve query.base
  case grouped =>
    intro key
    refine { shaped with
      collects := shaped.collects.congr rfl rfl
      grouping := fun target member => ?_ }
    rcases List.mem_append.mp member with before | last
    · exact shaped.grouping target before
    · rw [List.mem_singleton.mp last]
      exact key.isQualified_resolve query.base
  case unordered =>
    exact { shaped with
      collects := shaped.collects.congr rfl rfl
      ordering := fun _ member => by cases member }
  case isSimple => exact isSimple
  all_goals
    intros
    exact { shaped with collects := shaped.collects.congr rfl rfl }

theorem leadsTo : LeadsTo (fun _ => True) fun before behind =>
    before.IsShaped -> behind.IsShaped := by
  refine .ofProperty ?simple ?opened ?closed ?parts
  case simple => exact fun call query isSimple _ shaped => shaped.run_simple isSimple
  case opened => exact fun query shaped => shaped.openScope
  case closed => exact fun query shaped => shaped.closeScope
  case parts => exact fun _ _ _ _ => trivial

end IsShaped

theorem Reachable.isShaped {query : Query} (reachable : query.Reachable) : query.IsShaped :=
  reachable.holds .start (fun _ shaped => shaped.openScope) IsShaped.leadsTo

/-! ## Shaped queries, written -/

theorem IsShaped.isUnit {query : Query} (shaped : query.IsShaped) :
    query.Collects Condition.IsUnit where
  conditions condition member := (shaped.collects.conditions condition member).1
  scopes scope member condition inside := (shaped.collects.scopes scope member condition inside).1

/-- All conditions of the `WHERE` clause are written, each in its parentheses. -/
theorem IsShaped.conjuncts {query : Query} (shaped : query.IsShaped) :
    query.conjuncts = query.conditions.map fun condition =>
      parenthesized ((condition.fragment false).sql query.mode) := by
  have units := shaped.isUnit.conditions
  have visible : (query.conditions.filter fun condition => !condition.isEmpty) =
      query.conditions := by
    apply List.filter_eq_self.mpr
    intro condition member
    rw [(units condition member).isEmpty_eq_false]
    rfl
  rw [Query.conjuncts, visible]
  apply List.map_congr_left
  intro condition member
  exact (units condition member).sql_fragment_true query.mode

/-- There is a `WHERE` clause as soon as there is a condition, and each condition of
it stands in parentheses. -/
structure IsWrittenInUnits (query : Query) : Prop where
  sql : query.build.sql = query.assembled.sql
  present : query.whereText? = none ↔ query.conditions = []
  text : query.whereText? = conjunction? (query.conditions.map fun condition =>
    parenthesized ((condition.fragment false).sql query.mode))

theorem IsShaped.isWrittenInUnits {query : Query} (shaped : query.IsShaped) :
    query.IsWrittenInUnits := by
  have text : query.whereText? = conjunction? (query.conditions.map fun condition =>
      parenthesized ((condition.fragment false).sql query.mode)) := by
    rw [whereText?_eq_conjunction?, shaped.conjuncts]
  refine ⟨query.sql_build, ?_, text⟩
  rw [text]
  cases query.conditions <;> simp [conjunction?]

/-- A filter that compiles to any comparisons adds them as one group, which is
written as these comparisons in one pair of parentheses. -/
theorem filter_of_compile {query : Query} {filter : Filter} {conditions : List Condition}
    (compiled : filter.compile query.base = .ok conditions) (some : conditions ≠ []) :
    query.filter filter = .success (query.pushCondition (.group .and conditions)) ∧
      ∃ comparisons : List Comparison, conditions = comparisons.map .compare ∧
        forall mode, ((Condition.group .and conditions).fragment true).sql mode =
          parenthesized (Junction.and.sql.intercalate
            (comparisons.map fun comparison => comparison.fragment.sql mode)) := by
  rcases Filter.exists_comparisons_of_compile compiled with ⟨comparisons, rfl, -⟩
  refine ⟨?_, comparisons, rfl, fun mode => ?_⟩
  · have grouped : filter.compileGroup query.base =
        .ok (.some (.group .and (comparisons.map .compare))) := by
      rw [Filter.compileGroup, compiled]
      cases comparisons with
      | nil => exact absurd rfl some
      | cons first others => rfl
    rw [filter_eq, grouped]
  · have unit : (Condition.group .and (comparisons.map .compare)).IsUnit :=
      .all (by simpa using some)
    rw [unit.sql_fragment_true, Condition.sql_fragment_all]

theorem filter_of_compile_nil {query : Query} {filter : Filter}
    (compiled : filter.compile query.base = .ok []) : query.filter filter = .success query := by
  have grouped : filter.compileGroup query.base = .ok none := by
    rw [Filter.compileGroup, compiled]
    rfl
  rw [filter_eq, grouped]

theorem exists_join_of_ok {query : Query} {table : String} {foreignKey : ForeignKey}
    {options : JoinOptions} (succeeded : (query.join table foreignKey options).result = .ok ()) :
    ∃ join, join.IsKeyedBy (options.source.getD query.base) foreignKey ∧
      (query.join table foreignKey options).query.joins = query.joins ++ [join] := by
  rcases exists_plan_of_join succeeded with ⟨plan, planned, joined⟩
  rw [joined]
  exact ⟨plan.join, (isKeyedBy_of_planJoin planned).1, query.joins_record plan⟩

/-- Whatever calls a query comes from, and whether or not scopes are still open, it
has collected units only, and its joins are keyed as their calls have asked.  So
its conditions are written in units, and a filter that asks for any comparisons
adds one more, in which its comparisons stand alone. -/
theorem shape_of_reachable {query : Query} (reachable : query.Reachable) :
    query.IsShaped ∧
      (query.Collects fun condition => forall junction children,
        Condition.Within (.group junction children) condition -> children ≠ []) ∧
      (forall table foreignKey options, (query.join table foreignKey options).result = .ok () ->
        ∃ join, join.IsKeyedBy (options.source.getD query.base) foreignKey ∧
          (query.join table foreignKey options).query.joins = query.joins ++ [join]) ∧
      query.IsWrittenInUnits ∧
      (forall filter, filter.compile query.base = .ok [] ->
        query.filter filter = .success query) ∧
      forall filter conditions, filter.compile query.base = .ok conditions -> conditions ≠ [] ->
        query.filter filter = .success (query.pushCondition (.group .and conditions)) ∧
          ∃ comparisons : List Comparison, conditions = comparisons.map .compare ∧
            forall mode, ((Condition.group .and conditions).fragment true).sql mode =
              parenthesized (Junction.and.sql.intercalate
                (comparisons.map fun comparison => comparison.fragment.sql mode)) := by
  have shaped := reachable.isShaped
  have units := shaped.isUnit
  refine ⟨shaped, ⟨?_, ?_⟩, ?_, shaped.isWrittenInUnits, ?_, ?_⟩
  · exact fun condition member _ _ => (units.conditions condition member).children_ne_nil
  · exact fun scope member condition inside _ _ =>
      (units.scopes scope member condition inside).children_ne_nil
  · exact fun _ _ _ => exists_join_of_ok
  · exact fun _ => filter_of_compile_nil
  · exact fun _ _ => filter_of_compile

/-- A filter that asks for nothing, one that is refused, and a scope that fails, beside
alternatives of which one comes from a join. -/
def unevenCalls : List Call :=
  [.filter ⟨[("a", .operators [])]⟩,
    .either .goOn
      [.filter {}, .filter ⟨[("a", .operators [("between", .null)])]⟩,
        .either .stop [.filter ⟨[("b", .term .null)]⟩, .reject ""],
        .filter ⟨[("a", .term (.scalar (.integer 1))), ("b", .term .null)]⟩,
        .join "u" ⟨"id", "a"⟩ { filter := ⟨[(.raw "x", .term (.list []))]⟩ }],
    .either .goOn []]

/-- The same query, with one more scope open around it. -/
theorem shape_of_reachable_unevenCalls :
    let query := ((start "t" .prepared none).after unevenCalls).openScope
    query.Reachable ∧ query.IsShaped ∧
      query.whereText? =
        some "((\x60t\x60.\x60a\x60 = 1 AND \x60t\x60.\x60b\x60 IS NULL) OR (1=0))" := by
  intro query
  have started : (start "t" .prepared none).Reachable := .start "t" .prepared none
  have reachable : query.Reachable := (started.runScript .goOn unevenCalls).openScope
  refine ⟨reachable, (shape_of_reachable reachable).1, ?_⟩
  rw [(shape_of_reachable reachable).2.2.2.1.text]
  rfl

end Query
end SelectBuilder
