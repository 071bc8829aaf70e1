import Mathlib.Data.List.Forall2
import SelectBuilder.Proofs.RawFree

namespace SelectBuilder

/-!
# Queries only grow

No call takes back a condition or a join, or changes one.  What is new comes
behind what is there already, in the same scope or in the `WHERE` clause, and
it comes as a group, which will stand in parentheses.  A scope that fails leaves
nothing new at all, and one that succeeds leaves one group.
-/

/-- A group without raw SQL in it. -/
structure Condition.IsNamedGroup (condition : Condition) : Prop where
  named : condition.IsNamed
  isGroup : ∃ junction children, condition = .group junction children

theorem Filter.isNamedGroup_of_compileGroup {filter : Filter} (rawFree : filter.isRawFree = true)
    {table : String} {group : Condition} (compiled : filter.compileGroup table = .ok (some group)) :
    group.IsNamedGroup := by
  refine ⟨isNamed_of_compileGroup rawFree compiled, ?_⟩
  rcases compileGroup_eq_some compiled with ⟨conditions, -, -, same⟩
  exact ⟨.and, conditions, same⟩

/-- The second list is the first one with groups without raw SQL behind it. -/
def Extends (before behind : List Condition) : Prop :=
  ∃ added, behind = before ++ added ∧ forall condition, condition ∈ added -> condition.IsNamedGroup

namespace Extends

theorem refl (conditions : List Condition) : Extends conditions conditions :=
  ⟨[], (List.append_nil conditions).symm, fun _ member => by cases member⟩

theorem trans {first second third : List Condition} (left : Extends first second)
    (right : Extends second third) : Extends first third := by
  rcases left with ⟨added, rfl, addedFresh⟩
  rcases right with ⟨further, rfl, furtherFresh⟩
  refine ⟨added ++ further, List.append_assoc first added further, ?_⟩
  intro condition member
  rcases List.mem_append.mp member with front | back
  · exact addedFresh condition front
  · exact furtherFresh condition back

theorem push (conditions : List Condition) {condition : Condition}
    (fresh : condition.IsNamedGroup) : Extends conditions (conditions ++ [condition]) := by
  refine ⟨[condition], rfl, ?_⟩
  intro other member
  rw [List.mem_singleton.mp member]
  exact fresh

/-- The same of the open scopes, one by one. -/
theorem trans_scopes {first second third : List (List Condition)}
    (left : List.Forall₂ Extends first second) (right : List.Forall₂ Extends second third) :
    List.Forall₂ Extends first third := by
  induction left generalizing third with
  | nil => exact right
  | cons head _ ih =>
      cases right with
      | cons next others => exact .cons (head.trans next) (ih others)

end Extends

namespace Query

/-- The joins and conditions of the first query are also those of the second one,
in the scopes that are open too.  Between the two no scope has been closed that
was open before. -/
structure Grows (before behind : Query) : Prop where
  joins : before.joins <+: behind.joins
  conditions : Extends before.conditions behind.conditions
  scopes : List.Forall₂ Extends before.scopes behind.scopes

namespace Grows

theorem refl (query : Query) : Grows query query where
  joins := List.prefix_rfl
  conditions := .refl query.conditions
  scopes := List.forall₂_same.mpr fun scope _ => .refl scope

theorem trans {first second third : Query} (left : Grows first second)
    (right : Grows second third) : Grows first third where
  joins := left.joins.trans right.joins
  conditions := left.conditions.trans right.conditions
  scopes := Extends.trans_scopes left.scopes right.scopes

theorem pushCondition (query : Query) {condition : Condition} (fresh : condition.IsNamedGroup) :
    Grows query (query.pushCondition condition) := by
  rcases refl query with ⟨joins, conditions, scopes⟩
  unfold Query.pushCondition
  cases opened : query.scopes with
  | nil =>
      refine ⟨joins, .push query.conditions fresh, ?_⟩
      rw [opened]
      exact .nil
  | cons innermost outer =>
      refine ⟨joins, conditions, ?_⟩
      rw [opened] at scopes ⊢
      cases scopes with
      | cons _ others => exact .cons (.push innermost fresh) others

theorem record {query : Query} {table : String} {foreignKey : ForeignKey} {options : JoinOptions}
    {plan : JoinPlan} (planned : query.planJoin table foreignKey options = .ok plan)
    (filterFree : options.filter.isRawFree = true) : Grows query (query.record plan) := by
  have attached : Grows query (query.attach plan) :=
    { refl query with joins := List.prefix_append query.joins [plan.join] }
  rcases planJoin_eq_ok planned with ⟨kind, conditions, group, -, -, -, grouped, rfl⟩
  rw [record_eq]
  cases group with
  | none => exact attached
  | some group =>
      exact attached.trans
        (pushCondition _ (Filter.isNamedGroup_of_compileGroup filterFree grouped))

/-- A closed scope is one more group in what encloses it, or nothing. -/
theorem closeScope {query inside : Query} (grows : Grows query.openScope inside) :
    Grows query inside.closeScope := by
  rcases grows with ⟨joins, conditions, scopes⟩
  unfold Query.closeScope
  cases opened : inside.scopes with
  | nil =>
      rw [opened] at scopes
      cases scopes
  | cons innermost outer =>
      -- The innermost scope was opened empty, so all that is in it now is new.
      rw [opened] at scopes
      cases scopes with
      | cons collected others =>
          rcases collected with ⟨_, rfl, fresh⟩
          have closed : Grows query { inside with scopes := outer } := ⟨joins, conditions, others⟩
          cases innermost with
          | nil => exact closed
          | cons first rest =>
              apply closed.trans
              apply pushCondition
              refine ⟨Condition.isNamed_group .or fun condition member => ?_, .or, _, rfl⟩
              exact (fresh condition member).named

theorem run_simple (query : Query) {call : Call} (isSimple : call.IsSimple)
    (rawFree : call.isRawFree = true) : Grows query (call.run query).query := by
  revert rawFree
  apply Call.query_run_cases
    (motive := fun call behind => call.isRawFree = true -> Grows query behind)
  case unchanged => exact fun _ _ => refl query
  case filtered =>
    intro call filter group given compiled rawFree
    have filterFree := Call.isRawFree_of_filter? given rawFree
    exact pushCondition query (Filter.isNamedGroup_of_compileGroup filterFree compiled)
  case joined =>
    intro table foreignKey options plan planned rawFree
    exact record planned (Bool.and_eq_true_iff.mp rawFree).2
  case isSimple => exact isSimple
  all_goals
    intros
    exact { refl query with }

theorem leadsTo : LeadsTo (fun call => call.isRawFree = true) Grows where
  refl := refl
  trans := trans
  simple _ query isSimple rawFree := run_simple query isSimple rawFree
  scope _ _ := closeScope
  parts _ rawFree _ member := Call.isRawFree_of_mem_parts rawFree member

/-- Whatever a raw-free script does, the query behind it has grown. -/
theorem after (query : Query) {calls : List Call} (rawFree : allRawFree calls = true) :
    Grows query (query.after calls) := by
  rw [allRawFree_eq_all] at rawFree
  exact leadsTo.script (List.all_eq_true.mp rawFree) .goOn query

end Grows
end Query
end SelectBuilder
