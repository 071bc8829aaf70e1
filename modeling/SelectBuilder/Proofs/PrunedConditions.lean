import Mathlib.Data.List.Basic
import Mathlib.Logic.Relation
import SelectBuilder.Proofs.ConditionTree

namespace SelectBuilder

/-!
# Groups that cannot be seen

A group without a comparison is never written, wherever it stands.  Taken out of a
condition, from the innermost groups outwards, such groups leave a condition that
is written in the same way, and any condition with such groups put in leaves the same.
A condition writes nothing only if it would have been taken out itself.
-/

namespace Condition

mutual

/-- What is left of a condition when groups of whose members nothing is left are
taken out of it. -/
def remains : Condition -> Option Condition
  | .compare comparison => some (.compare comparison)
  | .group junction children =>
      match allRemains children with
      | [] => none
      | first :: rest => some (.group junction (first :: rest))

def allRemains : List Condition -> List Condition
  | [] => []
  | child :: rest =>
      match remains child with
      | none => allRemains rest
      | some kept => kept :: allRemains rest

end

theorem allRemains_eq_filterMap (children : List Condition) :
    allRemains children = children.filterMap remains := by
  induction children with
  | nil => rfl
  | cons child rest ih =>
      rw [allRemains, List.filterMap_cons]
      cases child.remains <;> simp [ih]

/-- A condition without the groups in it that have no comparison.  The outermost
group stays, if need be without members. -/
def pruned : Condition -> Condition
  | .compare comparison => .compare comparison
  | .group junction children => .group junction (children.filterMap remains)

theorem remains_group (junction : Junction) (children : List Condition) :
    (group junction children).remains =
      if children.filterMap remains = [] then none else some (group junction children).pruned := by
  rw [remains, allRemains_eq_filterMap, pruned]
  cases children.filterMap remains <;> simp

/-- Nothing is left of a condition without comparisons, and of any other one all that
pruning leaves. -/
theorem remains_eq (condition : Condition) :
    condition.remains = if condition.isEmpty then none else some condition.pruned := by
  induction condition using induction with
  | compare comparison => simp [remains, isEmpty, pruned]
  | group junction children ih =>
      have nothingLeft : children.filterMap remains = [] ↔
          (group junction children).isEmpty = true := by
        rw [List.filterMap_eq_nil_iff, isEmpty, allEmpty_eq_all, List.all_eq_true]
        refine forall_congr' fun child => imp_congr_right fun member => ?_
        rw [ih child member]
        cases child.isEmpty <;> simp
      rw [remains_group]
      exact if_congr nothingLeft rfl rfl

/-- The members that are to be seen are those that pruning keeps. -/
theorem filterMap_remains (children : List Condition) :
    children.filterMap remains =
      (children.filter fun child => !child.isEmpty).map pruned := by
  induction children with
  | nil => rfl
  | cons child rest ih =>
      rw [List.filterMap_cons, remains_eq]
      cases empty : child.isEmpty <;> simp [empty, ih]

theorem comparisons_pruned (condition : Condition) :
    condition.pruned.comparisons = condition.comparisons := by
  induction condition using induction with
  | compare comparison => rfl
  | group junction children ih =>
      rw [pruned, comparisons_group, comparisons_group, filterMap_remains, List.flatMap_map,
        ← flatMap_comparisons_filter children]
      apply List.flatMap_congr
      intro child member
      exact ih child (List.mem_filter.mp member).1

theorem isEmpty_pruned (condition : Condition) :
    condition.pruned.isEmpty = condition.isEmpty := by
  rw [Bool.eq_iff_iff, isEmpty_iff, isEmpty_iff, comparisons_pruned]

theorem isEmpty_of_mem_filterMap_remains {children : List Condition} {child : Condition}
    (member : child ∈ children.filterMap remains) : child.isEmpty = false := by
  rw [filterMap_remains] at member
  rcases List.mem_map.mp member with ⟨original, kept, rfl⟩
  have seen := (List.mem_filter.mp kept).2
  rwa [isEmpty_pruned, ← Bool.not_eq_true']

/-- Pruning a condition without comparisons leaves its outermost group alone. -/
theorem exists_pruned_eq_of_isEmpty {condition : Condition} (empty : condition.isEmpty = true) :
    ∃ junction, condition.pruned = .group junction [] := by
  cases condition with
  | compare comparison => cases empty
  | group junction children =>
      rw [isEmpty, allEmpty_eq_all, List.all_eq_true] at empty
      refine ⟨junction, ?_⟩
      rw [pruned, List.filterMap_eq_nil_iff.mpr]
      intro child member
      rw [remains_eq, if_pos (empty child member)]

/-- Behind pruning nothing without comparisons stands anywhere, unless it is all there is. -/
theorem eq_pruned_of_within {part condition : Condition}
    (within : part.Within condition.pruned) (empty : part.isEmpty = true) :
    part = condition.pruned := by
  induction condition using induction with
  | compare comparison =>
      cases within with
      | here => rfl
  | group junction children ih =>
      cases within with
      | here => rfl
      | deeper member inside =>
          have seen := isEmpty_of_mem_filterMap_remains member
          rw [filterMap_remains] at member
          rcases List.mem_map.mp member with ⟨original, kept, rfl⟩
          rw [← ih original (List.mem_filter.mp kept).1 inside, empty] at seen
          cases seen

/-! ## Pruned conditions as SQL -/

theorem fragment_pruned (condition : Condition) (nested : Bool) :
    condition.pruned.fragment nested = condition.fragment nested := by
  induction condition using induction generalizing nested with
  | compare comparison => rfl
  | group junction children ih =>
      have sameMembers :
          ((children.filterMap remains).filter fun child => !child.isEmpty).map (fragment true) =
            (children.filter fun child => !child.isEmpty).map (fragment true) := by
        have allSeen : (children.filterMap remains).filter (fun child => !child.isEmpty) =
            children.filterMap remains := by
          apply List.filter_eq_self.mpr
          intro child member
          rw [isEmpty_of_mem_filterMap_remains member]
          rfl
        rw [allSeen, filterMap_remains, List.map_map]
        apply List.map_congr_left
        intro child member
        exact ih child (List.mem_filter.mp member).1 true
      have sameEmpty := (group junction children).isEmpty_pruned
      rw [pruned] at sameEmpty ⊢
      rw [fragment_group, fragment_group, sameEmpty, sameMembers]

theorem build_pruned (mode : RenderMode) (condition : Condition) :
    condition.pruned.build mode = condition.build mode := by
  rw [build, build, fragment_pruned]

/-! ## Empty conditions put in -/

/-- One condition more among the members of a group, at any depth, and no comparison
in it. -/
inductive Inserts : Condition -> Condition -> Prop where
  | here {junction : Junction} {before behind : List Condition} {empty : Condition} :
      empty.isEmpty = true ->
      Inserts (.group junction (before ++ behind)) (.group junction (before ++ empty :: behind))
  | inside {junction : Junction} {before behind : List Condition} {child changed : Condition} :
      Inserts child changed ->
      Inserts (.group junction (before ++ child :: behind))
        (.group junction (before ++ changed :: behind))

/-- What is put in is pruned away again, and nothing else with it. -/
theorem Inserts.pruned_eq {condition changed : Condition} (inserts : Inserts condition changed) :
    changed.pruned = condition.pruned := by
  induction inserts with
  | @here junction before behind empty isEmpty =>
      have nothingLeft : empty.remains = none := by rw [remains_eq, if_pos isEmpty]
      simp [pruned, nothingLeft]
  | @inside junction before behind child changed _ ih =>
      have sameEmpty : changed.isEmpty = child.isEmpty := by
        rw [← isEmpty_pruned changed, ih, isEmpty_pruned]
      have sameRemains : changed.remains = child.remains := by
        rw [remains_eq, remains_eq, sameEmpty, ih]
      simp [pruned, List.filterMap_cons, sameRemains]

/-- So it is after any number of insertions. -/
theorem pruned_eq_of_inserts {condition changed : Condition}
    (inserts : Relation.ReflTransGen Inserts condition changed) :
    changed.pruned = condition.pruned := by
  induction inserts with
  | refl => rfl
  | tail _ last ih => exact last.pruned_eq.trans ih

end Condition

/-! ## Conditions that are seen -/

theorem Fragment.mem_separated (separator : String) {piece : Piece} {fragment : Fragment}
    {fragments : List Fragment} (among : fragment ∈ fragments) (inside : piece ∈ fragment) :
    piece ∈ separated separator fragments := by
  induction fragments with
  | nil => cases among
  | cons first rest ih =>
      cases rest with
      | nil =>
          rw [List.mem_singleton.mp among] at inside
          simpa [separated] using inside
      | cons second others =>
          rw [separated, List.intercalate_cons_cons, List.mem_append]
          rcases List.mem_cons.mp among with same | behind
          · rw [← same]
            exact .inl (List.mem_append_left _ inside)
          · exact .inr (ih behind)

/-- A fragment can be seen if one of its pieces can. -/
theorem Fragment.sql_ne_empty {fragment : Fragment} {piece : Piece} {mode : RenderMode}
    (inside : piece ∈ fragment) (visible : piece.sql mode ≠ "") : fragment.sql mode ≠ "" := by
  rcases List.append_of_mem inside with ⟨before, behind, rfl⟩
  intro nothing
  rw [sql_append, sql_cons] at nothing
  simp [visible] at nothing

namespace Comparison

/-- A comparison has a constant or an operator in its text, whatever its target and its
term may be. -/
theorem exists_text (comparison : Comparison) :
    ∃ sql, Piece.text sql ∈ comparison.fragment ∧ sql ≠ "" := by
  rcases comparison with ⟨target, operator, term⟩
  apply fragment_cases (motive := fun _ _ fragment => ∃ sql, Piece.text sql ∈ fragment ∧ sql ≠ "")
  case noMember => exact ⟨"1=0", by simp, by decide⟩
  case everyMember => exact ⟨"1=1", by simp, by decide⟩
  case isNull => exact ⟨" IS NULL", by simp, by decide⟩
  case isNotNull => exact ⟨" IS NOT NULL", by simp, by decide⟩
  case tuple =>
    intro operator term _
    exact ⟨" " ++ operator.sql ++ " (", by simp, by cases operator <;> decide⟩
  case single =>
    intro operator term _ _ _
    exact ⟨" " ++ operator.sql ++ " ", by simp, by cases operator <;> decide⟩

end Comparison

namespace Condition

theorem exists_text {condition : Condition} (seen : condition.isEmpty = false) (nested : Bool) :
    ∃ sql, Piece.text sql ∈ condition.fragment nested ∧ sql ≠ "" := by
  induction condition using induction generalizing nested with
  | compare comparison =>
      rw [fragment]
      exact comparison.exists_text
  | group junction children ih =>
      have someSeen : ∃ child, child ∈ children ∧ child.isEmpty = false := by
        rw [isEmpty, allEmpty_eq_all, List.all_eq_false] at seen
        simpa using seen
      rcases someSeen with ⟨child, among, childSeen⟩
      rcases ih child among childSeen true with ⟨sql, written, visible⟩
      have kept : child.fragment true ∈
          (children.filter fun child => !child.isEmpty).map (fragment true) :=
        List.mem_map_of_mem (List.mem_filter.mpr ⟨among, by rw [childSeen]; rfl⟩)
      have inside := Fragment.mem_separated junction.sql kept written
      refine ⟨sql, ?_, visible⟩
      rw [fragment_group, if_neg (by rw [seen]; exact Bool.false_ne_true)]
      cases nested with
      | false => exact inside
      | true => exact List.mem_cons_of_mem _ (List.mem_append_left _ inside)

/-- Only a condition without comparisons is written as nothing, raw SQL or not. -/
theorem sql_build_eq_empty_iff (mode : RenderMode) (condition : Condition) :
    (condition.build mode).sql = "" ↔ condition.isEmpty = true := by
  constructor
  · intro nothing
    cases seen : condition.isEmpty with
    | true => rfl
    | false =>
        rcases exists_text seen false with ⟨sql, written, some⟩
        have visible : Piece.sql mode (.text sql) ≠ "" := by rwa [Piece.sql]
        exact absurd nothing (Fragment.sql_ne_empty written visible)
  · intro empty
    cases condition with
    | compare comparison => cases empty
    | group junction children =>
        rw [build, fragment_group, if_pos empty]
        rfl

/-- Groups without comparisons cannot be seen.  Without them a condition is written
in the same way, with the same parameters, and there are none in it any more, unless
it is nothing but such a group itself.  It is written as nothing exactly when it is
empty, that is, without any comparison.  And however many empty conditions are put in
among the members of its groups, at any depth, it is still written in the same way. -/
theorem build_ignores_empty_groups (mode : RenderMode) (condition : Condition) :
    condition.pruned.build mode = condition.build mode ∧
      (forall part : Condition, part.Within condition.pruned -> part.isEmpty = true ->
        part = condition.pruned) ∧
      (condition.isEmpty = true -> ∃ junction, condition.pruned = .group junction []) ∧
      ((condition.build mode).sql = "" ↔ condition.isEmpty = true) ∧
      (condition.isEmpty = true ↔ condition.comparisons = []) ∧
      forall changed, Relation.ReflTransGen Inserts condition changed ->
        changed.build mode = condition.build mode := by
  refine ⟨build_pruned mode condition, fun part => eq_pruned_of_within,
    exists_pruned_eq_of_isEmpty, condition.sql_build_eq_empty_iff mode, condition.isEmpty_iff, ?_⟩
  intro changed inserts
  rw [← build_pruned mode changed, pruned_eq_of_inserts inserts, build_pruned]

/-- Alternatives without a comparison in them, beside raw SQL that is empty itself. -/
def hollowCondition : Condition :=
  .group .and
    [.group .or [.group .and [], .group .or []],
      .group .or [.compare ⟨.raw "", .equal, .raw ""⟩]]

/-- The same, with one more group next to the raw SQL. -/
def hollowerCondition : Condition :=
  .group .and
    [.group .or [.group .and [], .group .or []],
      .group .or [.compare ⟨.raw "", .equal, .raw ""⟩, .group .and [.group .or []]]]

theorem build_ignores_empty_groups_hollower :
    let build (condition : Condition) := condition.build (.inline Value.display)
    Relation.ReflTransGen Inserts hollowCondition hollowerCondition ∧
      (build hollowCondition).sql = "( = )" ∧
      build hollowCondition.pruned = build hollowCondition ∧
      build hollowerCondition = build hollowCondition := by
  intro build
  have inserts : Relation.ReflTransGen Inserts hollowCondition hollowerCondition :=
    .single (@Inserts.inside .and [_] [] _ _ (@Inserts.here .or [_] [] _ rfl))
  have hidden := build_ignores_empty_groups (.inline Value.display) hollowCondition
  exact ⟨inserts, by rfl, hidden.1, hidden.2.2.2.2.2 hollowerCondition inserts⟩

end Condition
end SelectBuilder
