import SelectBuilder.Proofs.CollectedConditions
import SelectBuilder.Proofs.Compilation
import SelectBuilder.Proofs.MentionedNames
import SelectBuilder.Proofs.Reachability

namespace SelectBuilder

/-!
# Scripts without raw SQL

A script is raw-free when none of its calls, at any depth, is given a raw key
or a raw term.  Every text in such a script is a name or a value.  What it
builds is named: no call brings raw SQL into a query by itself, not even a
filter read from a document.
-/

def Key.isRaw : Key -> Bool
  | .raw _ => true
  | _ => false

def Filter.isRawFree (filter : Filter) : Bool :=
  filter.entries.all fun entry => !entry.1.isRaw && entry.2.terms.all (!·.isRaw)

mutual

def Call.isRawFree : Call -> Bool
  | .filter filter => filter.isRawFree
  | .join _ _ options => options.conditions.isRawFree && options.filter.isRawFree
  | .select key _ | .selectOnly key _ | .groupBy key | .orderBy key _ => !key.isRaw
  | .either _ body => allRawFree body
  | .tolerate call => call.isRawFree
  | _ => true

def allRawFree : List Call -> Bool
  | [] => true
  | call :: rest => call.isRawFree && allRawFree rest

end

theorem allRawFree_eq_all (calls : List Call) : allRawFree calls = calls.all Call.isRawFree := by
  induction calls with
  | nil => rfl
  | cons call rest ih => simp [allRawFree, ih]

/-! ## Filters -/

theorem Key.isColumn_resolve {key : Key} (notRaw : key.isRaw = false) (table : String) :
    (key.resolve table).IsColumn := by
  cases key with
  | raw sql => cases notRaw
  | _ => trivial

theorem Term.isNamed_of_not_raw {term : Term} (notRaw : term.isRaw = false) : term.IsNamed := by
  cases term with
  | raw sql => cases notRaw
  | _ => trivial

namespace Filter

theorem isNamed_of_mem_compile {filter : Filter} (rawFree : filter.isRawFree = true)
    {table : String} {conditions : List Condition}
    (compiled : filter.compile table = .ok conditions) {condition : Condition}
    (member : condition ∈ conditions) : condition.IsNamed := by
  rcases exists_of_mem_compile compiled member with ⟨entry, among, operator, term, isTerm, rfl⟩
  have entryFree := List.all_eq_true.mp rawFree entry among
  simp only [Bool.and_eq_true, Bool.not_eq_true', List.all_eq_true] at entryFree
  rcases entryFree with ⟨keyFree, termsFree⟩
  intro comparison only
  rw [Condition.comparisons, List.mem_singleton] at only
  subst only
  exact ⟨Key.isColumn_resolve keyFree table, Term.isNamed_of_not_raw (termsFree term isTerm)⟩

theorem isNamed_of_compileGroup {filter : Filter} (rawFree : filter.isRawFree = true)
    {table : String} {group : Condition} (compiled : filter.compileGroup table = .ok (some group)) :
    group.IsNamed := by
  rcases compileGroup_eq_some compiled with ⟨conditions, found, -, rfl⟩
  exact Condition.isNamed_group _ fun condition => isNamed_of_mem_compile rawFree found

end Filter

/-! ### Filters from documents -/

theorem Term.ofJson_not_raw {document : Json} {term : Term}
    (read : Term.ofJson document = .ok term) : term.isRaw = false := by
  unfold Term.ofJson at read
  split at read
  · cases read
    rfl
  · rcases map_eq_ok.mp read with ⟨values, _, rfl⟩
    rfl
  · rcases map_eq_ok.mp read with ⟨value, _, rfl⟩
    rfl

theorem Operand.ofJson_not_raw {document : Json} {operand : Operand}
    (read : Operand.ofJson document = .ok operand) {term : Term} (member : term ∈ operand.terms) :
    term.isRaw = false := by
  unfold Operand.ofJson at read
  split at read
  · rcases map_eq_ok.mp read with ⟨entries, members, rfl⟩
    rcases List.mem_map.mp member with ⟨entry, among, rfl⟩
    rcases exists_of_mem_mapM members among with ⟨source, _, found⟩
    rcases map_eq_ok.mp found with ⟨term, termRead, rfl⟩
    exact Term.ofJson_not_raw termRead
  · rcases map_eq_ok.mp read with ⟨single, singleRead, rfl⟩
    rw [List.mem_singleton.mp member]
    exact Term.ofJson_not_raw singleRead

/-- A document has no way to say anything raw. -/
theorem Filter.isRawFree_of_ofJson {document : Json} {filter : Filter}
    (read : Filter.ofJson document = .ok filter) : filter.isRawFree = true := by
  unfold Filter.ofJson at read
  split at read
  · rcases map_eq_ok.mp read with ⟨entries, members, rfl⟩
    apply List.all_eq_true.mpr
    intro entry among
    rcases exists_of_mem_mapM members among with ⟨source, _, found⟩
    rcases map_eq_ok.mp found with ⟨operand, operandRead, rfl⟩
    simp only [Key.isRaw, Bool.not_false, Bool.true_and, List.all_eq_true, Bool.not_eq_true']
    exact fun term member => Operand.ofJson_not_raw operandRead member
  · cases read

/-! ## Calls -/

/-- Inside a raw-free call there are only raw-free calls. -/
theorem Call.isRawFree_of_mem_parts {call : Call} (rawFree : call.isRawFree = true)
    {part : Call} (member : part ∈ call.parts) : part.isRawFree = true := by
  cases call with
  | either onFailure body =>
      rw [isRawFree, allRawFree_eq_all] at rawFree
      exact List.all_eq_true.mp rawFree part member
  | tolerate inner =>
      rw [isRawFree] at rawFree
      rw [List.mem_singleton.mp member]
      exact rawFree
  | _ => cases member

/-- What a raw-free call adds to the query is raw-free, given or read. -/
theorem Call.isRawFree_of_filter? {call : Call} {filter : Filter}
    (given : call.filter? = some filter) (rawFree : call.isRawFree = true) :
    filter.isRawFree = true := by
  cases call with
  | filter own =>
      cases given
      exact rawFree
  | filterJson document =>
      rw [Call.filter?] at given
      cases read : Filter.ofJson document with
      | error error => rw [read] at given; cases given
      | ok found =>
          rw [read] at given
          cases given
          exact Filter.isRawFree_of_ofJson read
  | _ => cases given

namespace Query

theorem isNamed_start (base : String) (mode : RenderMode) (database : Option String) :
    (start base mode database).IsNamed where
  selections _ member := by cases member
  joins _ member := by cases member
  conditions _ member := by cases member
  scopes _ member := by cases member
  grouping _ member := by cases member
  ordering _ member := by cases member

namespace IsNamed

variable {query : Query}

theorem collects (named : query.IsNamed) : query.Collects Condition.IsNamed :=
  ⟨named.conditions, named.scopes⟩

theorem pushCondition (named : query.IsNamed) {condition : Condition}
    (conditionNamed : condition.IsNamed) : (query.pushCondition condition).IsNamed := by
  have collects := named.collects.pushCondition conditionNamed
  rcases query.exists_pushCondition_eq condition with ⟨conditions, scopes, pushed⟩
  rw [pushed] at collects ⊢
  exact { named with conditions := collects.conditions, scopes := collects.scopes }

theorem select (named : query.IsNamed) {key : Key} (notRaw : key.isRaw = false)
    (options : ColumnOptions) : (query.select key options).IsNamed := by
  refine { named with selections := fun selection member => ?_ }
  rcases List.mem_append.mp member with before | last
  · exact named.selections selection before
  · rw [List.mem_singleton.mp last]
    exact Key.isColumn_resolve notRaw query.base

theorem selectOnly (named : query.IsNamed) {key : Key} (notRaw : key.isRaw = false)
    (options : ColumnOptions) : (query.selectOnly key options).IsNamed := by
  have emptied : Query.IsNamed { query with selections := [] } :=
    { named with selections := fun _ member => by cases member }
  exact emptied.select notRaw options

theorem groupBy (named : query.IsNamed) {key : Key} (notRaw : key.isRaw = false) :
    (query.groupBy key).IsNamed := by
  refine { named with grouping := fun target member => ?_ }
  rcases List.mem_append.mp member with before | last
  · exact named.grouping target before
  · rw [List.mem_singleton.mp last]
    exact Key.isColumn_resolve notRaw query.base

/-- What a join adds besides its group is columns, and a condition of its own. -/
theorem attach (named : query.IsNamed) {plan : JoinPlan} (condition : plan.join.condition.IsNamed) :
    (query.attach plan).IsNamed := by
  refine { named with selections := ?_, joins := ?_, grouping := ?_ }
  · intro selection member
    rcases List.mem_append.mp member with before | field
    · exact named.selections selection before
    · rcases List.mem_map.mp field with ⟨_, _, rfl⟩
      trivial
  · intro join member
    rcases List.mem_append.mp member with before | last
    · exact named.joins join before
    · rw [List.mem_singleton.mp last]
      exact condition
  · intro target member
    rcases List.mem_append.mp member with before | column
    · exact named.grouping target before
    · rcases List.mem_map.mp column with ⟨_, _, rfl⟩
      trivial

theorem keyCondition (source aliasName : String) (foreignKey : ForeignKey) :
    (Query.keyCondition source aliasName foreignKey).IsNamed := by
  intro comparison only
  rw [Query.keyCondition, Condition.comparisons, List.mem_singleton] at only
  subst only
  exact ⟨trivial, ⟨some aliasName, foreignKey.foreign⟩, rfl⟩

/-- The condition of a planned join is columns and a filter. -/
theorem plan_condition {table : String} {foreignKey : ForeignKey} {options : JoinOptions}
    {plan : JoinPlan} (planned : query.planJoin table foreignKey options = .ok plan)
    (rawFree : options.conditions.isRawFree = true) : plan.join.condition.IsNamed := by
  rcases planJoin_eq_ok planned with ⟨kind, conditions, group, -, -, compiled, -, rfl⟩
  apply Condition.isNamed_group
  intro condition member
  rcases List.mem_cons.mp member with key | further
  · rw [key]
    exact keyCondition _ _ foreignKey
  · exact Filter.isNamed_of_mem_compile rawFree compiled further

theorem record (named : query.IsNamed) {table : String} {foreignKey : ForeignKey}
    {options : JoinOptions} {plan : JoinPlan}
    (planned : query.planJoin table foreignKey options = .ok plan)
    (conditionsFree : options.conditions.isRawFree = true)
    (filterFree : options.filter.isRawFree = true) : (query.record plan).IsNamed := by
  have attached := named.attach (plan_condition planned conditionsFree)
  rcases planJoin_eq_ok planned with ⟨kind, conditions, group, -, -, -, grouped, rfl⟩
  rw [record_eq]
  cases group with
  | none => exact attached
  | some group => exact attached.pushCondition (Filter.isNamed_of_compileGroup filterFree grouped)

theorem openScope (named : query.IsNamed) : query.openScope.IsNamed :=
  { named with scopes := named.collects.openScope.scopes }

theorem closeScope (named : query.IsNamed) : query.closeScope.IsNamed := by
  have collects := named.collects.closeScope fun _ _ => Condition.isNamed_group .or
  rcases query.exists_closeScope_eq with ⟨conditions, scopes, closed⟩
  rw [closed] at collects ⊢
  exact { named with conditions := collects.conditions, scopes := collects.scopes }

/-- No raw-free call by itself brings raw SQL into the query. -/
theorem run_simple (named : query.IsNamed) {call : Call} (isSimple : call.IsSimple)
    (rawFree : call.isRawFree = true) : (call.run query).query.IsNamed := by
  have notRaw : forall key : Key, (!key.isRaw) = true -> key.isRaw = false := by
    intro key free
    simpa using free
  revert rawFree
  apply Call.query_run_cases
    (motive := fun call behind => call.isRawFree = true -> behind.IsNamed)
  case unchanged => exact fun _ _ => named
  case filtered =>
    intro call filter group given compiled rawFree
    exact named.pushCondition
      (Filter.isNamed_of_compileGroup (Call.isRawFree_of_filter? given rawFree) compiled)
  case joined =>
    intro table foreignKey options plan planned rawFree
    have both := Bool.and_eq_true_iff.mp rawFree
    exact named.record planned both.1 both.2
  case ordered =>
    intro key name direction _ rawFree
    refine { named with ordering := fun entry member => ?_ }
    rcases List.mem_append.mp member with before | last
    · exact named.ordering entry before
    · rw [List.mem_singleton.mp last]
      exact Key.isColumn_resolve (notRaw _ rawFree) query.base
  case selected => exact fun _ options rawFree => named.select (notRaw _ rawFree) options
  case selectedOnly =>
    exact fun _ options rawFree => named.selectOnly (notRaw _ rawFree) options
  case grouped => exact fun _ rawFree => named.groupBy (notRaw _ rawFree)
  case unordered => exact fun _ => { named with ordering := fun _ member => by cases member }
  case limited => exact fun _ _ => { named with }
  case shifted => exact fun _ _ => { named with }
  case distinguished => exact fun _ _ => { named with }
  case isSimple => exact isSimple

end IsNamed

theorem leadsTo_isNamed :
    LeadsTo (fun call => call.isRawFree = true) fun before behind =>
      before.IsNamed -> behind.IsNamed := by
  refine .ofProperty ?simple ?opened ?closed ?parts
  case simple => exact fun call query isSimple rawFree named => named.run_simple isSimple rawFree
  case opened => exact fun query named => named.openScope
  case closed => exact fun query named => named.closeScope
  case parts => exact fun call rawFree part member => call.isRawFree_of_mem_parts rawFree member

theorem ReachableBy.isNamed {query : Query}
    (reachable : query.ReachableBy fun call => call.isRawFree = true) : query.IsNamed :=
  reachable.holds isNamed_start (fun _ named => named.openScope) leadsTo_isNamed

theorem reachableBy_after {calls : List Call} (rawFree : allRawFree calls = true) (base : String)
    (mode : RenderMode) (database : Option String) :
    ((start base mode database).after calls).ReachableBy fun call => call.isRawFree = true := by
  rw [allRawFree_eq_all] at rawFree
  have started : (start base mode database).ReachableBy fun call => call.isRawFree = true :=
    .start base mode database
  exact started.runScript .goOn (List.all_eq_true.mp rawFree)

/-- A raw-free script builds a named query. -/
theorem isNamed_after {calls : List Call} (rawFree : allRawFree calls = true) (base : String)
    (mode : RenderMode) (database : Option String) :
    ((start base mode database).after calls).IsNamed :=
  (reachableBy_after rawFree base mode database).isNamed

end Query
end SelectBuilder
