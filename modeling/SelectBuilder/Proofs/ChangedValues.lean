import SelectBuilder.Proofs.Compilation
import SelectBuilder.Proofs.ConditionTree
import SelectBuilder.Proofs.SideBySide

namespace SelectBuilder

/-!
# The same script with other values

A function on values can be applied to a script, to every value in every term
of it, and just as well to a query.  Nothing in between looks at a value: the
changed script does to the changed query what the script does to the query.
-/

/-! ## Values in their places -/

section Places

variable (replace : Value -> Value)

def Term.mapValues : Term -> Term
  | .null => .null
  | .scalar value => .scalar (replace value)
  | .list values => .list (values.map replace)
  | .raw sql => .raw sql

def Operand.mapValues : Operand -> Operand
  | .term single => .term (single.mapValues replace)
  | .operators entries =>
      .operators (entries.map fun entry => (entry.1, entry.2.mapValues replace))

def Filter.mapValues (filter : Filter) : Filter :=
  ⟨filter.entries.map fun entry => (entry.1, entry.2.mapValues replace)⟩

def JoinOptions.mapValues (options : JoinOptions) : JoinOptions :=
  { options with
    conditions := options.conditions.mapValues replace
    filter := options.filter.mapValues replace }

mutual

/-- A call with other values.  What a document says is a filter first, and the
values of that filter are the ones to change; a document that is none has none. -/
def Call.mapValues : Call -> Call
  | .filter given => .filter (given.mapValues replace)
  | .filterJson document =>
      match Filter.ofJson document with
      | .ok read => .filter (read.mapValues replace)
      | .error _ => .filterJson document
  | .join table foreignKey options => .join table foreignKey (options.mapValues replace)
  | .either onFailure body => .either onFailure (mapAllValues body)
  | .tolerate call => .tolerate call.mapValues
  | call => call

def mapAllValues : List Call -> List Call
  | [] => []
  | call :: rest => call.mapValues :: mapAllValues rest

end

theorem mapAllValues_eq_map (calls : List Call) :
    mapAllValues replace calls = calls.map (Call.mapValues replace) := by
  induction calls with
  | nil => rfl
  | cons call rest ih => rw [mapAllValues, ih, List.map_cons]

mutual

def Condition.mapValues : Condition -> Condition
  | .compare comparison => .compare { comparison with term := comparison.term.mapValues replace }
  | .group junction children => .group junction (mapChildren children)

def Condition.mapChildren : List Condition -> List Condition
  | [] => []
  | child :: rest => child.mapValues :: mapChildren rest

end

theorem Condition.mapChildren_eq_map (children : List Condition) :
    mapChildren replace children = children.map (mapValues replace) := by
  induction children with
  | nil => rfl
  | cons child rest ih => rw [mapChildren, ih, List.map_cons]

theorem Condition.mapValues_group (junction : Junction) (children : List Condition) :
    (group junction children).mapValues replace =
      group junction (children.map (mapValues replace)) := by
  rw [mapValues, mapChildren_eq_map]

def Join.mapValues (join : Join) : Join :=
  { join with condition := join.condition.mapValues replace }

def JoinPlan.mapValues (plan : JoinPlan) : JoinPlan :=
  { plan with
    join := plan.join.mapValues replace
    group := plan.group.map (Condition.mapValues replace) }

def Query.mapValues (query : Query) : Query :=
  { query with
    joins := query.joins.map (Join.mapValues replace)
    conditions := query.conditions.map (Condition.mapValues replace)
    scopes := query.scopes.map (List.map (Condition.mapValues replace)) }

def Change.mapValues : Change -> Change
  | .push group => .push (group.map (Condition.mapValues replace))
  | .record plan => .record (plan.mapValues replace)
  | change => change

end Places

/-! ## Compiling does not look at values -/

/-- Attempts on changed sources have changed results, if each of them has. -/
theorem mapM_map_of_comm {Source Result : Type} {attempt : Source -> Except BuildError Result}
    {onSource : Source -> Source} {onResult : Result -> Result}
    (comm : forall source, attempt (onSource source) = onResult <$> attempt source)
    (sources : List Source) :
    (sources.map onSource).mapM attempt = List.map onResult <$> sources.mapM attempt := by
  induction sources with
  | nil => rfl
  | cons head tail ih =>
      rw [List.map_cons, List.mapM_cons, List.mapM_cons, comm, ih]
      cases attempt head with
      | error error => rfl
      | ok first => cases tail.mapM attempt <;> rfl

section Compiling

variable (replace : Value -> Value)

theorem Operand.comparisons_mapValues (operand : Operand) :
    (operand.mapValues replace).comparisons =
      List.map (fun comparison => (comparison.1, comparison.2.mapValues replace)) <$>
        operand.comparisons := by
  cases operand with
  | term single => cases single <;> rfl
  | operators entries =>
      apply mapM_map_of_comm
      rintro ⟨name, term⟩
      simp only
      cases Operator.ofName name <;> rfl

namespace Filter

theorem compileEntry_mapValues (table : String) (entry : Key × Operand) :
    compileEntry table (entry.1, entry.2.mapValues replace) =
      List.map (Condition.mapValues replace) <$> compileEntry table entry := by
  unfold compileEntry
  simp only [Operand.comparisons_mapValues]
  cases entry.2.comparisons with
  | error error => rfl
  | ok compared =>
      refine congrArg Except.ok ?_
      simp [Function.comp_def, Condition.mapValues]

theorem compile_mapValues (table : String) (filter : Filter) :
    (filter.mapValues replace).compile table =
      List.map (Condition.mapValues replace) <$> filter.compile table := by
  have entries := mapM_map_of_comm (compileEntry_mapValues replace table) filter.entries
  unfold compile mapValues
  simp only [entries]
  cases filter.entries.mapM (compileEntry table) with
  | error error => rfl
  | ok lists => exact congrArg Except.ok (List.map_flatten).symm

theorem compileGroup_mapValues (table : String) (filter : Filter) :
    (filter.mapValues replace).compileGroup table =
      Option.map (Condition.mapValues replace) <$> filter.compileGroup table := by
  unfold compileGroup
  rw [compile_mapValues]
  rcases filter.compile table with error | _ | ⟨first, rest⟩
  · rfl
  · rfl
  · refine congrArg Except.ok (congrArg some ?_)
    rw [Condition.mapValues_group]

end Filter

namespace Query

variable (query : Query)

theorem aliases_mapValues : (query.mapValues replace).aliases = query.aliases := by
  simp [mapValues, aliases, Join.mapValues]

theorem aliasInUse_mapValues : (query.mapValues replace).aliasInUse = query.aliasInUse := by
  funext aliasName
  rw [aliasInUse, aliasInUse, aliases_mapValues]
  rfl

theorem chooseAlias_mapValues (table : String) (name : Option String) :
    (query.mapValues replace).chooseAlias table name = query.chooseAlias table name := by
  have sameNumber : (query.mapValues replace).nextNumber table = query.nextNumber table := by
    rw [nextNumber, nextNumber, aliasInUse_mapValues]
    simp [mapValues]
  cases name with
  | none => simp [chooseAlias, sameNumber]
  | some name => rfl

theorem keyCondition_mapValues (source aliasName : String) (foreignKey : ForeignKey) :
    (keyCondition source aliasName foreignKey).mapValues replace =
      keyCondition source aliasName foreignKey := by
  simp [keyCondition, Condition.mapValues, Term.mapValues]

theorem planJoin_mapValues (table : String) (foreignKey : ForeignKey) (options : JoinOptions) :
    (query.mapValues replace).planJoin table foreignKey (options.mapValues replace) =
      JoinPlan.mapValues replace <$> query.planJoin table foreignKey options := by
  unfold planJoin
  simp only [JoinOptions.mapValues, chooseAlias_mapValues, aliasInUse_mapValues,
    Filter.compile_mapValues, Filter.compileGroup_mapValues]
  cases options.kind.elim (.ok .inner) JoinKind.ofName with
  | error error => rfl
  | ok kind =>
      cases inUse : query.aliasInUse (query.chooseAlias table options.name).aliasName with
      | true => rfl
      | false =>
          cases options.conditions.compile (query.chooseAlias table options.name).aliasName with
          | error error => rfl
          | ok conditions =>
              cases options.filter.compileGroup
                  (query.chooseAlias table options.name).aliasName with
              | error error => rfl
              | ok group =>
                  refine congrArg Except.ok ?_
                  simp only [JoinPlan.mapValues, Join.mapValues, Condition.mapValues_group,
                    List.map_cons, keyCondition_mapValues, mapValues]

end Query

/-! ## Changes do not look at values -/

/-- What a filter comes to with other values. -/
theorem Filter.change_mapValues (base : String) (filter : Filter) :
    (filter.mapValues replace).change base = Change.mapValues replace <$> filter.change base := by
  rw [change, change, compileGroup_mapValues]
  cases filter.compileGroup base <;> rfl

theorem Call.change_mapValues (call : Call) (query : Query) :
    (call.mapValues replace).change (query.mapValues replace) =
      Change.mapValues replace <$> call.change query := by
  cases call with
  | filter given =>
      rw [mapValues]
      exact given.change_mapValues replace query.base
  | filterJson document =>
      rw [mapValues, change]
      cases read : Filter.ofJson document with
      | error error =>
          simp only
          rw [change, read]
          rfl
      | ok filter => exact filter.change_mapValues replace query.base
  | join table foreignKey options =>
      rw [mapValues, change, change, Query.planJoin_mapValues]
      cases query.planJoin table foreignKey options <;> rfl
  | orderBy key name =>
      simp only [mapValues, change]
      cases Direction.ofName name <;> rfl
  | _ => simp only [mapValues]; rfl

namespace Query

variable (query : Query)

theorem pushCondition_mapValues (condition : Condition) :
    (query.mapValues replace).pushCondition (condition.mapValues replace) =
      (query.pushCondition condition).mapValues replace := by
  cases scopes : query.scopes <;> simp [pushCondition, mapValues, scopes]

theorem record_mapValues (plan : JoinPlan) :
    (query.mapValues replace).record (plan.mapValues replace) =
      (query.record plan).mapValues replace := by
  have attached : (query.mapValues replace).attach (plan.mapValues replace) =
      (query.attach plan).mapValues replace := by
    cases next : plan.nextCounter <;>
      simp [attach, mapValues, JoinPlan.mapValues, Join.mapValues, setCounter, next]
  rw [record_eq, record_eq, attached]
  cases group : plan.group with
  | none => simp [JoinPlan.mapValues, group]
  | some condition =>
      simp only [JoinPlan.mapValues, group, Option.map_some, Option.elim_some]
      exact pushCondition_mapValues replace (query.attach plan) condition

theorem closeScope_mapValues :
    (query.mapValues replace).closeScope = query.closeScope.mapValues replace := by
  rcases scopes : query.scopes with _ | ⟨_ | ⟨first, others⟩, outer⟩
  · simp [closeScope, mapValues, scopes]
  · simp [closeScope, mapValues, scopes]
  · have pushed := pushCondition_mapValues replace { query with scopes := outer }
      (.group .or (first :: others))
    rw [Condition.mapValues_group] at pushed
    simpa [closeScope, mapValues, scopes] using pushed

theorem apply_mapValues (change : Change) :
    (change.mapValues replace).apply (query.mapValues replace) =
      (change.apply query).mapValues replace := by
  cases change with
  | push group =>
      cases group with
      | none => rfl
      | some group => exact pushCondition_mapValues replace query group
  | record plan => exact record_mapValues replace query plan
  | _ => rfl

end Query

/-- Every call is replaced by the same call with other values. -/
def Translation.mapValues : Translation where
  call := Call.mapValues replace
  change := Change.mapValues replace
  isSimple := by
    intro original isSimple
    cases original with
    | filterJson document => rw [Call.mapValues]; split <;> trivial
    | either onFailure body => exact isSimple.elim
    | tolerate call => exact isSimple.elim
    | _ => simp only [Call.mapValues]; trivial
  either onFailure body := by rw [Call.mapValues, mapAllValues_eq_map]
  tolerate original := by rw [Call.mapValues]

end Compiling
end SelectBuilder
