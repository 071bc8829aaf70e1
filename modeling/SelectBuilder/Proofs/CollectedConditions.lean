import SelectBuilder.Proofs.ScriptInduction

namespace SelectBuilder
namespace Query

/-!
# The conditions that a query has collected

Conditions are in the `WHERE` clause or in a scope that is still open.  They come
there one at a time, and they leave a scope only together, as one group of
alternatives.  So a property of all of them is kept when it holds of every
condition that is pushed, and of a group whose members have it.
-/

/-- Every condition that the query has collected has the property. -/
structure Collects (property : Condition -> Prop) (query : Query) : Prop where
  conditions : forall condition, condition ∈ query.conditions -> property condition
  scopes : forall scope, scope ∈ query.scopes ->
    forall condition, condition ∈ scope -> property condition

namespace Collects

variable {property : Condition -> Prop} {query : Query}

theorem start (base : String) (mode : RenderMode) (database : Option String) :
    (Query.start base mode database).Collects property where
  conditions _ member := by cases member
  scopes _ member := by cases member

/-- Nothing else of a query matters. -/
theorem congr (collects : query.Collects property) {other : Query}
    (conditions : other.conditions = query.conditions) (scopes : other.scopes = query.scopes) :
    other.Collects property := by
  refine ⟨?_, ?_⟩
  · rw [conditions]
    exact collects.conditions
  · rw [scopes]
    exact collects.scopes

theorem pushCondition (collects : query.Collects property) {condition : Condition}
    (has : property condition) : (query.pushCondition condition).Collects property := by
  have behind (before : List Condition) (each : forall other, other ∈ before -> property other) :
      forall other, other ∈ before ++ [condition] -> property other := by
    intro other member
    rcases List.mem_append.mp member with front | last
    · exact each other front
    · rw [List.mem_singleton.mp last]
      exact has
  unfold Query.pushCondition
  cases opened : query.scopes with
  | nil => exact ⟨behind _ collects.conditions, fun _ member => by cases member⟩
  | cons innermost outer =>
      have scopes := collects.scopes
      rw [opened] at scopes
      refine ⟨collects.conditions, fun scope member => ?_⟩
      rcases List.mem_cons.mp member with same | enclosing
      · subst same
        exact behind innermost (scopes innermost List.mem_cons_self)
      · exact scopes scope (List.mem_cons_of_mem _ enclosing)

theorem openScope (collects : query.Collects property) : query.openScope.Collects property := by
  refine ⟨collects.conditions, fun scope member => ?_⟩
  rcases List.mem_cons.mp member with same | enclosing
  · subst same
    exact fun _ inside => by cases inside
  · exact collects.scopes scope enclosing

theorem closeScope (collects : query.Collects property)
    (grouped : forall alternatives, alternatives ≠ [] ->
      (forall condition, condition ∈ alternatives -> property condition) ->
      property (.group .or alternatives)) : query.closeScope.Collects property := by
  unfold Query.closeScope
  cases opened : query.scopes with
  | nil => exact collects
  | cons innermost outer =>
      have scopes := collects.scopes
      rw [opened] at scopes
      have closed : Collects property { query with scopes := outer } :=
        ⟨collects.conditions, fun scope member => scopes scope (List.mem_cons_of_mem _ member)⟩
      cases innermost with
      | nil => exact closed
      | cons first others =>
          exact closed.pushCondition
            (grouped _ (List.cons_ne_nil _ _) (scopes _ List.mem_cons_self))

end Collects
end Query
end SelectBuilder
