import SelectBuilder.Proofs.BoundValues
import SelectBuilder.Proofs.ChangedValues

namespace SelectBuilder

/-!
# Bound data stays out of prepared SQL

Whoever reads a prepared statement learns which numbers stand in it and how
many values are bound, and nothing else of any value.  Two scripts that differ
only in values that are no numbers are told apart by their parameters alone:
all results, columns, aliases and texts of theirs are the same.
-/

/-- Numbers stay what they are, and all other values stay no numbers.  Of what
kind these are, and what their texts are, is left open. -/
structure KeepsNumbers (replace : Value -> Value) : Prop where
  number : forall value, value.isNumeric = true -> replace value = value
  other : forall value, value.isNumeric = false -> (replace value).isNumeric = false

/-! ## Fragments with other values -/

section Fragments

variable (replace : Value -> Value)

def Piece.mapValues : Piece -> Piece
  | .text sql => .text sql
  | .bound value => .bound (replace value)

def Fragment.mapValues (fragment : Fragment) : Fragment :=
  fragment.map (Piece.mapValues replace)

namespace Fragment

theorem mapValues_append (first second : Fragment) :
    (first ++ second : Fragment).mapValues replace =
      first.mapValues replace ++ second.mapValues replace :=
  List.map_append

theorem mapValues_separated (separator : String) (fragments : List Fragment) :
    (separated separator fragments).mapValues replace =
      separated separator (fragments.map (mapValues replace)) := by
  induction fragments with
  | nil => rfl
  | cons first rest ih =>
      cases rest with
      | nil => simp [separated]
      | cons second others =>
          rw [separated, separated] at ih ⊢
          rw [List.map_cons, List.map_cons, List.intercalate_cons_cons,
            List.intercalate_cons_cons, ← List.map_cons, ← ih]
          simp [mapValues, Piece.mapValues]

/-- Placeholders look alike. -/
theorem sql_mapValues (fragment : Fragment) :
    (fragment.mapValues replace).sql .prepared = fragment.sql .prepared := by
  have each : forall piece : Piece, (piece.mapValues replace).sql .prepared = piece.sql .prepared := by
    intro piece
    cases piece <;> rfl
  rw [sql, sql, mapValues, List.map_map]
  exact congrArg String.join (List.map_congr_left fun piece _ => each piece)

theorem IsText.mapValues {replace : Value -> Value} {fragment : Fragment}
    (isText : IsText fragment) : fragment.mapValues replace = fragment := by
  refine (List.map_congr_left fun piece member => ?_).trans (List.map_id fragment)
  rcases isText piece member with ⟨sql, rfl⟩
  rfl

theorem parameters_mapValues (fragment : Fragment) :
    (fragment.mapValues replace).parameters .prepared =
      (fragment.parameters .prepared).map replace := by
  have each : forall piece : Piece, (piece.mapValues replace).parameters .prepared =
      (piece.parameters .prepared).map replace := by
    intro piece
    cases piece <;> rfl
  simp [parameters, mapValues, List.flatMap_map, List.map_flatMap, each]

theorem build_mapValues (fragment : Fragment) :
    (fragment.mapValues replace).build .prepared =
      ⟨(fragment.build .prepared).sql, (fragment.build .prepared).parameters.map replace⟩ := by
  rw [build, sql_mapValues, parameters_mapValues]
  rfl

end Fragment
end Fragments

theorem Condition.isEmpty_mapValues (replace : Value -> Value) (condition : Condition) :
    (condition.mapValues replace).isEmpty = condition.isEmpty := by
  induction condition using Condition.induction with
  | compare comparison => rfl
  | group junction children ih =>
      rw [mapValues_group, isEmpty, isEmpty, allEmpty_eq_all, allEmpty_eq_all, List.all_map,
        Bool.eq_iff_iff, List.all_eq_true, List.all_eq_true]
      exact forall₂_congr fun child member => by rw [Function.comp_apply, ih child member]

/-! ## Writing looks only at numbers -/

namespace KeepsNumbers

variable {replace : Value -> Value} (keeps : KeepsNumbers replace)

include keeps

theorem isNumeric (value : Value) : (replace value).isNumeric = value.isNumeric := by
  cases numeric : value.isNumeric with
  | true => rw [keeps.number value numeric, numeric]
  | false => exact keeps.other value numeric

theorem all_isNumeric (values : List Value) :
    (values.map replace).all Value.isNumeric = values.all Value.isNumeric := by
  rw [List.all_map]
  exact congrArg values.all (funext keeps.isNumeric)

theorem value (value : Value) : (replace value).fragment = value.fragment.mapValues replace := by
  unfold Value.fragment
  rw [keeps.isNumeric]
  cases numeric : value.isNumeric with
  | true => rw [keeps.number value numeric]; rfl
  | false => rfl

/-- Numbers become bound ones only when a list has another value in it, and
then it has one still. -/
theorem listFragment (values : List Value) :
    Value.listFragment (values.map replace) = (Value.listFragment values).mapValues replace := by
  unfold Value.listFragment
  simp only [Fragment.mapValues_separated, keeps.all_isNumeric, List.map_map]
  refine congrArg (Fragment.separated ", ") (List.map_congr_left ?_)
  intro value member
  cases numeric : values.all Value.isNumeric with
  | true =>
      have isNumber := List.all_eq_true.mp numeric value member
      simp [keeps.number value isNumber, Fragment.mapValues, Piece.mapValues]
  | false => rfl

theorem term (term : Term) :
    (term.mapValues replace).fragment = term.fragment.mapValues replace := by
  cases term with
  | null => rfl
  | raw sql => rfl
  | scalar value => exact keeps.value value
  | list values => exact keeps.listFragment values

theorem comparison (comparison : Comparison) :
    Comparison.fragment { comparison with term := comparison.term.mapValues replace } =
      comparison.fragment.mapValues replace := by
  rcases comparison with ⟨target, operator, term⟩
  -- The form of a comparison hangs on its operator and on the form of its term,
  -- and no replacement changes either.
  cases term with
  | null => cases operator <;> rfl
  | raw sql => cases operator <;> rfl
  | scalar value =>
      cases operator <;>
        simp [Comparison.fragment, Term.mapValues, Term.fragment, keeps.value,
          Fragment.mapValues, Piece.mapValues]
  | list values =>
      cases values with
      | nil => cases operator <;> rfl
      | cons first rest =>
          have sameList := keeps.listFragment (first :: rest)
          rw [List.map_cons] at sameList
          cases operator <;>
            simp [Comparison.fragment, Term.mapValues, Term.fragment, sameList,
              Fragment.mapValues, Piece.mapValues]

theorem condition (nested : Bool) (condition : Condition) :
    (condition.mapValues replace).fragment nested =
      (condition.fragment nested).mapValues replace := by
  induction condition using Condition.induction generalizing nested with
  | compare comparison =>
      rw [Condition.mapValues, Condition.fragment, Condition.fragment]
      exact keeps.comparison comparison
  | group junction children ih =>
      have sameSeen : (children.map (Condition.mapValues replace)).filter
            (fun child => !child.isEmpty) =
          (children.filter fun child => !child.isEmpty).map (Condition.mapValues replace) := by
        rw [List.filter_map]
        refine congrArg (List.map _) (List.filter_congr fun child _ => ?_)
        rw [Function.comp_apply, child.isEmpty_mapValues]
      have members : ((children.filter fun child => !child.isEmpty).map
            (Condition.mapValues replace)).map (Condition.fragment true) =
          ((children.filter fun child => !child.isEmpty).map (Condition.fragment true)).map
            (Fragment.mapValues replace) := by
        rw [List.map_map, List.map_map]
        exact List.map_congr_left fun child member => ih child (List.mem_filter.mp member).1 true
      have sameEmpty := Condition.isEmpty_mapValues replace (.group junction children)
      rw [Condition.mapValues_group] at sameEmpty ⊢
      rw [Condition.fragment_group, Condition.fragment_group, sameEmpty, sameSeen, members]
      cases (Condition.group junction children).isEmpty with
      | true => rfl
      | false =>
          simp only [Bool.false_eq_true, if_false, ← Fragment.mapValues_separated]
          cases nested with
          | false => rfl
          | true => simp [Fragment.mapValues, Piece.mapValues]

theorem join (database : Option String) (join : Join) :
    (join.mapValues replace).fragment database = (join.fragment database).mapValues replace := by
  unfold Join.fragment Join.mapValues
  rw [keeps.condition]
  rfl

theorem joinClauses (query : Query) :
    (query.mapValues replace).joinClauses = query.joinClauses.mapValues replace := by
  unfold Query.joinClauses Fragment.mapValues Query.mapValues
  rw [List.flatMap_map, List.map_flatMap]
  congr 1
  funext join
  exact congrArg (List.cons (Piece.text " ")) (keeps.join query.database join)

theorem whereClause (query : Query) :
    (query.mapValues replace).whereClause = query.whereClause.mapValues replace := by
  have sameGroup : Condition.group .and (query.mapValues replace).conditions =
      (Condition.group .and query.conditions).mapValues replace := by
    rw [Condition.mapValues_group]
    rfl
  unfold Query.whereClause
  simp only [sameGroup, Condition.isEmpty_mapValues, keeps.condition]
  cases (Condition.group .and query.conditions).isEmpty <;> rfl

/-- The statement of the changed query is the statement with changed values. -/
theorem query (query : Query) :
    (query.mapValues replace).fragment = query.fragment.mapValues replace := by
  rw [Query.fragment_eq, Query.fragment_eq, keeps.joinClauses, keeps.whereClause,
    Fragment.mapValues_append, Fragment.mapValues_append, Fragment.mapValues_append,
    query.isText_opening.mapValues, query.isText_ending.mapValues]
  have sameOpening : (query.mapValues replace).opening = query.opening := rfl
  have sameEnding : (query.mapValues replace).ending = query.ending := rfl
  rw [sameOpening, sameEnding]

end KeepsNumbers

/-! ## Runs with other values -/

/-- Two queries that nobody can tell apart but by their parameters, and these
are the same up to the change of values. -/
structure Query.SameButValues (replace : Value -> Value) (first second : Query) : Prop where
  columns : second.columns = first.columns
  aliases : second.aliases = first.aliases
  sql : second.build.sql = first.build.sql
  parameters : second.build.parameters = first.build.parameters.map replace

/-- The second query is the first one with other values, and both are prepared. -/
structure Query.Changed (replace : Value -> Value) (first second : Query) : Prop where
  prepared : first.mode = .prepared
  same : second = first.mapValues replace

theorem Query.Changed.sameButValues {replace : Value -> Value} (keeps : KeepsNumbers replace)
    {first second : Query} (changed : Changed replace first second) :
    SameButValues replace first second := by
  rcases changed with ⟨prepared, rfl⟩
  have samePrepared : (first.mapValues replace).mode = .prepared := prepared
  have built : (first.mapValues replace).build =
      ⟨first.build.sql, first.build.parameters.map replace⟩ := by
    rw [build, build, prepared, samePrepared, keeps.query, Fragment.build_mapValues]
  refine ⟨rfl, aliases_mapValues replace first, ?_, ?_⟩
  · rw [built]
  · rw [built]

/-- Making a change leaves the mode as it is. -/
theorem Change.sameSetup_apply (change : Change) (query : Query) :
    query.SameSetup (change.apply query) := by
  cases change with
  | push group =>
      cases group with
      | none => exact .refl query
      | some group => exact .pushCondition query group
  | record plan => exact .record query plan
  | _ => exact ⟨rfl, rfl, rfl⟩

theorem Simulation.mapValues (replace : Value -> Value) :
    Simulation (.mapValues replace) (Query.Changed replace) where
  change := by
    rintro first _ call ⟨_, rfl⟩ _
    exact call.change_mapValues replace first
  apply := by
    rintro first _ _ change ⟨prepared, rfl⟩ _ _
    exact ⟨(change.sameSetup_apply first).mode.trans prepared,
      first.apply_mapValues replace change⟩
  openScope := by
    rintro first _ ⟨prepared, rfl⟩
    exact ⟨prepared, rfl⟩
  closeScope := by
    rintro first _ ⟨prepared, rfl⟩
    exact ⟨(Query.SameSetup.closeScope first).mode.trans prepared,
      first.closeScope_mapValues replace⟩

/-- Two prepared runs, one with values replaced by others that numbers do not
tell apart: every call of both, at every depth, has the same result and leaves
queries with the same columns, aliases and statement.  Only the parameters are
different, and each of them is the other one's replacement. -/
theorem run_mapValues_match {replace : Value -> Value} (keeps : KeepsNumbers replace)
    (base : String) (database : Option String) (calls : List Call) :
    let start := Query.start base .prepared database
    (start.run calls).Match (Query.SameButValues replace)
      (start.run (calls.map (Call.mapValues replace))) := by
  intro start
  have begins : Query.Changed replace start start := ⟨rfl, rfl⟩
  have runs := (Simulation.mapValues replace).script .goOn calls begins
  exact runs.imp fun _ _ changed => changed.sameButValues keeps

/-- Numbers as they are, and nothing of any other value. -/
def redacted (value : Value) : Value :=
  if value.isNumeric then value else .text ""

theorem keepsNumbers_redacted : KeepsNumbers redacted where
  number value numeric := by rw [redacted, if_pos numeric]
  other value isOther := by rw [redacted, if_neg (by rw [isOther]; exact Bool.false_ne_true)]; rfl

/-- A list in which a number is bound, a filter that is refused, and a scope. -/
def tellingCalls : List Call :=
  [.filter ⟨[(.bare "a", .term (.list [.integer 1, .text "it's"]))]⟩,
    .filter ⟨[(.bare "b", .operators [("like", .scalar (.text "?")), ("between", .null)])]⟩,
    .either .stop [.join "u" ⟨"id", "a"⟩ { filter := ⟨[(.bare "c", .term (.scalar (.bool true)))]⟩ }]]

theorem run_mapValues_match_tellingCalls :
    let start := Query.start "t" .prepared none
    KeepsNumbers redacted ∧
      (start.run tellingCalls).Match (Query.SameButValues redacted)
        (start.run (tellingCalls.map (Call.mapValues redacted))) :=
  ⟨keepsNumbers_redacted, run_mapValues_match keepsNumbers_redacted "t" none tellingCalls⟩

end SelectBuilder
