import Mathlib.Data.List.Infix
import SelectBuilder.Proofs.BalancedText
import SelectBuilder.Proofs.BoundValues
import SelectBuilder.Proofs.GrowingQuery

namespace SelectBuilder

/-!
# Conditions that last

A query with conditions in it can be handed to anyone who gives it no raw SQL.
Whatever calls are made on it, successful or not, its conditions stay in the
statement as they were written, and the new ones stand behind them, each in
parentheses that it cannot leave.  So the conditions that are there already are
narrowed down and never widened.
-/

/-! ## Conditions side by side -/

theorem intercalate_cons_eq_join (separator first : String) (rest : List String) :
    separator.intercalate (first :: rest) =
      first ++ String.join (rest.map fun text => separator ++ text) := by
  induction rest generalizing first with
  | nil => simp
  | cons next others ih =>
      rw [String.intercalate_cons_cons, ih, List.map_cons, String.join_cons]
      simp only [String.append_assoc]

/-- Texts of conditions that hold together, as one text.  Without any there is none. -/
def conjunction? : List String -> Option String
  | [] => none
  | conjuncts => some (Junction.and.sql.intercalate conjuncts)

theorem conjunction?_of_ne_nil {conjuncts : List String} (some : conjuncts ≠ []) :
    conjunction? conjuncts = .some (Junction.and.sql.intercalate conjuncts) := by
  cases conjuncts with
  | nil => exact absurd rfl some
  | cons head rest => rfl

/-- Further conditions come behind the ones before them. -/
theorem conjunction?_append (first second : List String) :
    conjunction? (first ++ second) =
      match conjunction? first with
      | some text => some (text ++ String.join (second.map fun conjunct => " AND " ++ conjunct))
      | none => conjunction? second := by
  cases first with
  | nil => rfl
  | cons head rest =>
      simp only [conjunction?, List.cons_append, intercalate_cons_eq_join, List.map_append,
        String.join_append, String.append_assoc]
      rfl

def parenthesized (text : String) : String :=
  "(" ++ text ++ ")"

theorem Condition.sql_fragment_true {mode : RenderMode} {junction : Junction}
    {children : List Condition} (visible : (group junction children).isEmpty = false) :
    ((group junction children).fragment true).sql mode =
      parenthesized (((group junction children).fragment false).sql mode) := by
  rw [fragment_group, fragment_group, visible]
  simp [Fragment.sql, Piece.sql, parenthesized, String.append_assoc]

/-! ## The parts of a statement -/

namespace Query

/-- The joins as they are written. -/
def joinTexts (query : Query) : List String :=
  query.joins.map fun join => (join.fragment query.database).sql query.mode

/-- The conditions of the `WHERE` clause as they are written, side by side. -/
def conjuncts (query : Query) : List String :=
  (query.conditions.filter fun condition => !condition.isEmpty).map fun condition =>
    (condition.fragment true).sql query.mode

/-- What is written behind `WHERE`, if there is such a clause. -/
def whereText? (query : Query) : Option String :=
  let condition := Condition.group .and query.conditions
  if condition.isEmpty then none else some (condition.build query.mode).sql

theorem conjuncts_eq_nil_iff (query : Query) :
    query.conjuncts = [] ↔ (Condition.group .and query.conditions).isEmpty = true := by
  rw [conjuncts, List.map_eq_nil_iff, List.filter_eq_nil_iff, Condition.isEmpty,
    Condition.allEmpty_eq_all, List.all_eq_true]
  simp

theorem whereText?_eq_conjunction? (query : Query) :
    query.whereText? = conjunction? query.conjuncts := by
  have written := Condition.fragment_group false .and query.conditions
  unfold whereText? Condition.build Fragment.build
  simp only
  cases empty : (Condition.group .and query.conditions).isEmpty with
  | true =>
      rw [query.conjuncts_eq_nil_iff.mpr empty]
      rfl
  | false =>
      have some : query.conjuncts ≠ [] := by
        intro none
        rw [query.conjuncts_eq_nil_iff.mp none] at empty
        cases empty
      rw [empty, if_neg Bool.false_ne_true] at written
      rw [conjunction?_of_ne_nil some, if_neg Bool.false_ne_true, written,
        if_neg Bool.false_ne_true, Fragment.sql_separated, List.map_map]
      rfl

/-- The statement put together from its parts. -/
def assembled (query : Query) : Statement where
  sql :=
    query.opening.sql query.mode ++ String.join (query.joinTexts.map fun join => " " ++ join) ++
      query.whereText?.elim "" (fun text => " WHERE " ++ text) ++ query.ending.sql query.mode
  parameters := query.onValues ++ query.whereValues

theorem sql_joinClauses (query : Query) :
    query.joinClauses.sql query.mode =
      String.join (query.joinTexts.map fun join => " " ++ join) := by
  unfold joinClauses joinTexts
  induction query.joins with
  | nil => rfl
  | cons join rest ih =>
      rw [List.flatMap_cons, Fragment.sql_append, ih, Fragment.sql_cons]
      simp [Piece.sql]

theorem sql_whereClause (query : Query) :
    query.whereClause.sql query.mode =
      query.whereText?.elim "" fun text => " WHERE " ++ text := by
  unfold whereClause whereText?
  simp only
  split
  · rfl
  · rw [Fragment.sql_cons]
    rfl

theorem sql_build (query : Query) : query.build.sql = query.assembled.sql := by
  rw [build, Fragment.build, fragment_eq, Fragment.sql_append, Fragment.sql_append,
    Fragment.sql_append, sql_joinClauses, sql_whereClause]
  rfl

theorem build_of_prepared {query : Query} (prepared : query.mode = .prepared) :
    query.build = query.assembled := by
  have text : query.fragment.sql query.mode = query.assembled.sql := query.sql_build
  have values : query.fragment.parameters query.mode = query.onValues ++ query.whereValues := by
    rw [prepared, parameters_fragment]
  rw [build, Fragment.build, text, values]
  rfl

/-- What the second query says is what the first one says, and more: all
conditions of the first one are there unchanged, and behind them new ones in
parentheses that they do not leave. -/
structure Narrows (before behind : Query) (units : List String) : Prop where
  balanced : forall unit, unit ∈ units -> Balanced unit
  conjuncts : behind.conjuncts = before.conjuncts ++ units.map parenthesized
  whereText : behind.whereText? =
    match before.whereText? with
    | some text => some (text ++ String.join (units.map fun unit => " AND " ++ parenthesized unit))
    | none => conjunction? (units.map parenthesized)
  joins : before.joinTexts <+: behind.joinTexts
  onValues : before.onValues <+: behind.onValues
  whereValues : before.whereValues <+: behind.whereValues

/-- Groups without raw SQL, as they are written: each in parentheses. -/
theorem exists_units_of_groups {added : List Condition}
    (fresh : forall condition, condition ∈ added -> condition.IsNamedGroup) :
    ∃ units : List String, (forall unit, unit ∈ units -> Balanced unit) ∧
      (added.filter fun condition => !condition.isEmpty).map
          (fun condition => (condition.fragment true).sql .prepared) =
        units.map parenthesized := by
  refine ⟨(added.filter fun condition => !condition.isEmpty).map
    fun condition => (condition.fragment false).sql .prepared, ?_, ?_⟩
  · intro unit member
    rcases List.mem_map.mp member with ⟨condition, visible, rfl⟩
    have named := (fresh condition (List.mem_filter.mp visible).1).named
    exact Condition.isBalanced_fragment named false
  · rw [List.map_map]
    apply List.map_congr_left
    intro condition visible
    rcases List.mem_filter.mp visible with ⟨among, notEmpty⟩
    rcases (fresh condition among).isGroup with ⟨junction, children, rfl⟩
    exact Condition.sql_fragment_true (by simpa using notEmpty)

theorem Grows.exists_narrows {before behind : Query} (prepared : before.mode = .prepared)
    (setup : SameSetup before behind) (grows : Grows before behind) :
    ∃ units, before.Narrows behind units := by
  rcases grows.conditions with ⟨added, conditions, fresh⟩
  rcases exists_units_of_groups fresh with ⟨units, balanced, written⟩
  have conjuncts : behind.conjuncts = before.conjuncts ++ units.map parenthesized := by
    unfold Query.conjuncts
    rw [setup.mode, prepared, conditions, List.filter_append, List.map_append, written]
  -- The text follows from the conjuncts; the joins and the values are prefixes by themselves.
  refine ⟨units, balanced, conjuncts, ?_, ?_, ?_, ?_⟩
  · rw [whereText?_eq_conjunction?, whereText?_eq_conjunction?, conjuncts,
      conjunction?_append, List.map_map]
    rfl
  · unfold joinTexts
    rw [setup.mode, setup.database]
    exact grows.joins.map _
  · exact grows.joins.flatMap _
  · unfold Query.whereValues
    rw [conditions, List.flatMap_append]
    exact List.prefix_append _ _

end Query

/-- Calls without raw SQL only narrow a prepared query down, whatever raw SQL there is
in it already and whichever of the calls fail.  Scopes that are open around the
calls may stay open: their conditions are not in the statement yet. -/
theorem exists_narrows_after {query : Query} (prepared : query.mode = .prepared)
    {calls : List Call} (rawFree : allRawFree calls = true) :
    query.build = query.assembled ∧
      (query.after calls).build = (query.after calls).assembled ∧
      ∃ units, query.Narrows (query.after calls) units := by
  have setup := Query.SameSetup.after query calls
  refine ⟨Query.build_of_prepared prepared, Query.build_of_prepared (setup.mode.trans prepared), ?_⟩
  exact (Query.Grows.after query rawFree).exists_narrows prepared setup

/-- A tenant's rows only, with a condition of the caller's own. -/
def tenantCalls : List Call :=
  [.filter ⟨[("tenant", .term (.scalar (.text "acme")))]⟩,
    .filter ⟨[(.raw "hidden IS NULL OR 1", .term (.raw "2"))]⟩]

/-- A name that looks like the end of its parentheses, alternatives of which one is
refused, and a scope that fails. -/
def wideningCalls : List Call :=
  [.filter ⟨[("x\x60) OR (1", .term (.scalar (.integer 1)))]⟩,
    .either .goOn [.filter ⟨[("id", .term (.list []))]⟩, .reject "", .filter {}],
    .either .stop [.filter ⟨[("id", .term .null)]⟩, .reject ""],
    .resetOrder]

theorem exists_narrows_after_tenantCalls :
    let query := (Query.start "rows" .prepared none).after tenantCalls
    query.mode = .prepared ∧ allRawFree wideningCalls = true ∧
      (query.after wideningCalls).whereText? =
        some ("(\x60rows\x60.\x60tenant\x60 = ?) AND (hidden IS NULL OR 1 = 2)" ++
          " AND (\x60rows\x60.\x60x\x60\x60) OR (1\x60 = 1) AND ((1=0))") ∧
      ∃ units, query.Narrows (query.after wideningCalls) units := by
  have prepared : ((Query.start "rows" .prepared none).after tenantCalls).mode = .prepared := rfl
  have rawFree : allRawFree wideningCalls = true := by decide
  refine ⟨prepared, rawFree, ?_, (exists_narrows_after prepared rawFree).2.2⟩
  rfl

end SelectBuilder
