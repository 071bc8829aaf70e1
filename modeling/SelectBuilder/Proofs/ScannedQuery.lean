import SelectBuilder.Proofs.BalancedText
import SelectBuilder.Proofs.PrunedConditions
import SelectBuilder.Proofs.ScannedText
import SelectBuilder.Query.Statement

namespace SelectBuilder

/-!
# What a scanner finds in a query

The writers of a query put together columns, terms, comparisons, conditions,
joins and clauses.  For each of them the scanner finds the names that the part
mentions, in their order, its bound values in theirs, and an empty pair of parentheses
for every empty tuple.
-/

/-- An operator that does not ask for membership compares with a list as a tuple,
even when there is nothing in it. -/
def Comparison.isEmptyTuple (comparison : Comparison) : Bool :=
  !comparison.operator.isMembership && comparison.term = .list []

/-- The comparisons of a query's statement, in their order. -/
def Query.comparisons (query : Query) : List Comparison :=
  query.joins.flatMap (fun join => join.condition.comparisons)
    ++ query.conditions.flatMap Condition.comparisons

/-! ## What is written as nothing -/

theorem Value.display_ne_empty {value : Value} (numeric : value.isNumeric = true) :
    value.display ≠ "" := by
  rcases exists_numeral_of_isNumeric numeric with ⟨numeral, sameText⟩
  intro nothing
  rw [nothing] at sameText
  simp [Numeral.text, numeral.whole_ne_nil] at sameText

theorem Piece.sql_bound_ne_empty (mode : RenderMode) (value : Value) :
    Piece.sql mode (.bound value) ≠ "" := by
  cases mode <;> simp [Piece.sql]

theorem Column.sql_ne_empty (column : Column) : column.sql ≠ "" := by
  rw [Ne, ← String.toList_inj]
  rcases column with ⟨table, name⟩
  by_cases wildcard : name = "*" <;> cases table <;>
    simp [Column.sql, Identifier.qualify, Identifier.columnName, wildcard]

theorem Value.sql_ne_empty (value : Value) (mode : RenderMode) :
    value.fragment.sql mode ≠ "" := by
  unfold Value.fragment
  split
  · next numeric =>
      rw [Fragment.sql_text]
      exact value.display_ne_empty numeric
  · exact Fragment.sql_ne_empty List.mem_cons_self (Piece.sql_bound_ne_empty mode value)

theorem Value.sql_listFragment_ne_empty {values : List Value} (some : values ≠ [])
    (mode : RenderMode) : (listFragment values).sql mode ≠ "" := by
  cases values with
  | nil => exact absurd rfl some
  | cons first rest =>
      refine Fragment.sql_ne_empty
        (Fragment.mem_separated ", " List.mem_cons_self List.mem_cons_self) ?_
      split
      · next numeric =>
          rw [Piece.sql]
          exact first.display_ne_empty (List.all_eq_true.mp numeric first List.mem_cons_self)
      · exact Piece.sql_bound_ne_empty mode first

/-- Of the terms only the empty list is written as nothing. -/
theorem Term.sql_ne_empty {term : Term} (named : term.IsNamed) (some : term ≠ .list [])
    (mode : RenderMode) : term.fragment.sql mode ≠ "" := by
  cases term with
  | null =>
      rw [Term.fragment, Fragment.sql_text]
      decide
  | scalar value => exact value.sql_ne_empty mode
  | list values => exact Value.sql_listFragment_ne_empty (fun none => some (by rw [none])) mode
  | raw sql =>
      rcases named with ⟨column, rfl⟩
      rw [Term.fragment, Fragment.sql_text]
      exact column.sql_ne_empty

namespace Scanner

/-! ## What the scanner finds in names -/

theorem Shows.columnName (name : String) :
    Shows (Identifier.columnName name).toList (if name = "*" then [] else [name]) [] 0 := by
  by_cases wildcard : name = "*"
  · subst wildcard
    exact .bare (by decide)
  · rw [Identifier.columnName, if_neg wildcard, if_neg wildcard]
    exact .quote name

theorem Shows.column (column : Column) : Shows column.sql.toList column.names [] 0 := by
  rcases column with ⟨table, name⟩
  cases table with
  | none =>
      simpa [Column.sql, Identifier.qualify, Column.names] using Shows.columnName name
  | some table =>
      have both := (Shows.quote table).join ['.'] (by decide) (Shows.columnName name)
      simpa [Column.sql, Identifier.qualify, Column.names] using both

/-! ## What the scanner finds in fragments -/

/-- How a mode writes bound values, as the scanner finds them. -/
def Writes (mode : RenderMode) (token : Value -> Token) : Prop :=
  forall value, Shows (Piece.sql mode (.bound value)).toList [] [token value] 0

theorem writes_prepared : Writes .prepared fun _ => .placeholder := by
  intro value
  have asked : (Piece.sql .prepared (.bound value)).toList = ['?'] := by
    simp [Piece.sql]
  rw [asked]
  exact Shows.placeholder

/-- A formatter that doubles the quotes in some text of the value. -/
def quoteDoubling (text : Value -> String) (value : Value) : String :=
  String.ofList (Quote.literal.doubled (text value).toList)

theorem writes_inline (text : Value -> String) :
    Writes (.inline (quoteDoubling text)) fun value => .literal (text value) := by
  intro value
  have literal := Shows.literal (text value)
  simpa [Piece.sql, quoteDoubling, Quote.mark] using literal

/-- The scanner finds these names in a fragment, its bound values, and an empty pair for
every empty tuple among these comparisons. -/
def ScansAs (mode : RenderMode) (token : Value -> Token) (fragment : Fragment)
    (names : List String) (compared : List Comparison) : Prop :=
  Shows (fragment.sql mode).toList names ((fragment.parameters .prepared).map token)
    (compared.countP Comparison.isEmptyTuple)

section Fragments

variable {mode : RenderMode} {token : Value -> Token} {fragment : Fragment} {names : List String}
  {compared : List Comparison}

theorem ScansAs.text {sql : String} (shows : Shows sql.toList names [] 0) :
    ScansAs mode token [.text sql] names [] := by
  simpa [ScansAs, Fragment.sql, Fragment.parameters, Piece.sql, Piece.parameters] using shows

theorem ScansAs.nil : ScansAs mode token [] [] [] :=
  Shows.nil

theorem ScansAs.bare {sql : String} (bare : Bare sql.toList) :
    ScansAs mode token [.text sql] [] [] :=
  .text (.bare bare)

/-- Something bare in front. -/
theorem ScansAs.bare_cons {sql : String} (bare : Bare sql.toList)
    (scans : ScansAs mode token fragment names compared) :
    ScansAs mode token (.text sql :: fragment) names compared := by
  rw [ScansAs, Fragment.toList_sql_cons, Fragment.parameters_cons]
  exact scans.bare_append bare

/-- Something in parentheses. -/
theorem ScansAs.wrapped (scans : ScansAs mode token fragment names compared)
    (some : fragment.sql mode ≠ "") :
    ScansAs mode token (.text "(" :: (fragment ++ [.text ")"])) names compared := by
  have wrapped := Shows.wrapped scans (by simpa using some)
  simpa [ScansAs, Fragment.toList_sql_cons, Fragment.parameters_cons, Fragment.sql_text,
    Piece.sql, Piece.parameters, Fragment.parameters] using wrapped

/-- A column, something bare, and the rest. -/
theorem ScansAs.column_cons {column : Column} (between : String)
    (divider : Divider between.toList) (scans : ScansAs mode token fragment names compared) :
    ScansAs mode token (.text column.sql :: .text between :: fragment) (column.names ++ names)
      compared := by
  have joined := (Shows.column column).join between.toList divider scans
  simpa [ScansAs, Fragment.toList_sql_cons, Fragment.parameters_cons, Piece.sql,
    Piece.parameters] using joined

theorem ScansAs.separated {Item : Type} (separator : String)
    (divider : Divider separator.toList) {fragmentOf : Item -> Fragment}
    {namesOf : Item -> List String} {comparedOf : Item -> List Comparison} {items : List Item}
    (each : forall item, item ∈ items ->
      ScansAs mode token (fragmentOf item) (namesOf item) (comparedOf item)) :
    ScansAs mode token (Fragment.separated separator (items.map fragmentOf))
      (items.flatMap namesOf) (items.flatMap comparedOf) := by
  have shown := Shows.intercalate separator.toList divider each
  simpa [ScansAs, Fragment.toList_sql_separated, Fragment.parameters_separated,
    List.flatMap_map, List.map_flatMap, Function.comp_def] using shown

/-- A comparison that is no empty tuple adds nothing. -/
theorem ScansAs.comparing (scans : ScansAs mode token fragment names [])
    {comparison : Comparison} (notEmpty : comparison.isEmptyTuple = false) :
    ScansAs mode token fragment names [comparison] := by
  rwa [ScansAs, List.countP_singleton, notEmpty]

/-! ### Terms and comparisons -/

theorem bare_digits {text : List Char}
    (digits : forall character, character ∈ text -> character.isDigit = true) : Bare text := by
  refine .of_forall (plainText_digits digits) fun character member => ?_
  have isDigit := digits character member
  constructor
  all_goals
    rintro rfl
    exact absurd isDigit (by decide)

theorem bare_display {value : Value} (numeric : value.isNumeric = true) :
    Bare value.display.toList := by
  rcases Value.exists_numeral_of_isNumeric numeric with ⟨numeral, sameText⟩
  rw [← sameText]
  exact .of_forall (plainText_numeral numeral) fun _ member => (Numeral.not_bracket member).2

theorem ScansAs.bound (writes : Writes mode token) (value : Value) :
    ScansAs mode token [.bound value] [] [] := by
  simpa [ScansAs, Fragment.sql, Fragment.parameters, Piece.parameters] using writes value

theorem ScansAs.listFragment (writes : Writes mode token) (values : List Value) :
    ScansAs mode token (Value.listFragment values) [] [] := by
  have each : forall value, value ∈ values ->
      ScansAs mode token
        [if values.all Value.isNumeric then Piece.text value.display else .bound value] [] [] := by
    intro value member
    cases numeric : values.all Value.isNumeric with
    | true => exact .bare (bare_display (List.all_eq_true.mp numeric value member))
    | false => exact .bound writes value
  have all := ScansAs.separated ", " (by decide) each
  rw [List.flatMap_eq_nil_iff.mpr fun _ _ => rfl, List.flatMap_eq_nil_iff.mpr fun _ _ => rfl]
    at all
  exact all

theorem ScansAs.term (writes : Writes mode token) {term : Term} (named : term.IsNamed) :
    ScansAs mode token term.fragment term.names [] := by
  cases term with
  | null => exact .bare (by decide)
  | scalar value =>
      rw [Term.fragment, Value.fragment]
      cases numeric : value.isNumeric with
      | true => exact .bare (bare_display numeric)
      | false => exact .bound writes value
  | list values => exact .listFragment writes values
  | raw sql =>
      rcases named with ⟨column, same⟩
      subst same
      rw [Term.names, rawNames_sql]
      exact .text (.column column)

/-- A list of members has something in it, any other list need not. -/
theorem ScansAs.tuple (writes : Writes mode token) {operator : Operator} {term : Term}
    (named : term.IsNamed)
    (shape : if operator.isMembership then term ≠ .list [] else ∃ values, term = .list values)
    (target : Target) :
    ScansAs mode token (.text "(" :: (term.fragment ++ [.text ")"])) term.names
      [⟨target, operator, term⟩] := by
  by_cases empty : term = .list []
  · subst empty
    have scalar : operator.isMembership = false := by
      cases membership : operator.isMembership with
      | false => rfl
      | true =>
          rw [membership, if_pos rfl] at shape
          exact absurd rfl shape
    have isEmptyTuple : Comparison.isEmptyTuple ⟨target, operator, .list []⟩ = true := by
      simp [Comparison.isEmptyTuple, scalar]
    rw [ScansAs, List.countP_singleton, isEmptyTuple]
    simpa [Term.fragment, Term.names, Value.listFragment, Fragment.separated, Fragment.sql,
      Fragment.parameters, Piece.sql, Piece.parameters] using Shows.emptyPair
  · apply ((ScansAs.term writes named).wrapped (Term.sql_ne_empty named empty mode)).comparing
    simp [Comparison.isEmptyTuple, empty]

theorem divider_operator (operator : Operator) :
    Divider (" " ++ operator.sql ++ " ").toList := by
  cases operator <;> decide

theorem ScansAs.comparison (writes : Writes mode token) {comparison : Comparison}
    (named : comparison.IsNamed) :
    ScansAs mode token comparison.fragment comparison.names [comparison] := by
  rcases comparison with ⟨target, operator, term⟩
  rcases named with ⟨isColumn, isNamed⟩
  cases target with
  | raw sql => exact isColumn.elim
  | column column =>
      revert isNamed
      refine Comparison.fragment_cases
        (motive := fun operator term fragment => term.IsNamed ->
          ScansAs mode token fragment (Comparison.names ⟨.column column, operator, term⟩)
            [⟨.column column, operator, term⟩])
        ?noMember ?everyMember ?isNull ?isNotNull ?tuple ?single operator term
      case noMember => exact fun _ => (ScansAs.bare (by decide)).comparing rfl
      case everyMember => exact fun _ => (ScansAs.bare (by decide)).comparing rfl
      case isNull =>
        intro _
        rw [Comparison.names_of_not_constant (by decide)]
        exact (ScansAs.column_cons " IS NULL" (by decide) .nil).comparing rfl
      case isNotNull =>
        intro _
        rw [Comparison.names_of_not_constant (by decide)]
        exact (ScansAs.column_cons " IS NOT NULL" (by decide) .nil).comparing rfl
      case tuple =>
        intro operator term shape isNamed
        have written : ¬ (operator.isMembership = true ∧ term = .list []) := by
          intro constant
          rw [if_pos constant.1] at shape
          exact shape constant.2
        rw [Comparison.names_of_not_constant written]
        have inside := ScansAs.tuple writes isNamed shape (.column column)
        have apart : ScansAs mode token
            (.text column.sql :: .text (" " ++ operator.sql ++ " ") :: .text "(" ::
              (term.fragment ++ [.text ")"]))
            (column.names ++ term.names) [⟨.column column, operator, term⟩] :=
          .column_cons _ (divider_operator operator) inside
        -- The text of the operator opens the parenthesis that the last text closes.
        simpa [ScansAs, Fragment.toList_sql_cons, Fragment.parameters_cons, Piece.sql,
          Piece.parameters, Target.sql, Target.names] using apart
      case single =>
        intro operator term scalar notList _ isNamed
        have written : ¬ (operator.isMembership = true ∧ term = .list []) := by
          intro constant
          rw [scalar] at constant
          cases constant.1
        rw [Comparison.names_of_not_constant written]
        have inside := ScansAs.term writes isNamed
        exact (ScansAs.column_cons _ (divider_operator operator) inside).comparing
          (by simp [Comparison.isEmptyTuple, notList])

/-! ### Conditions and joins -/

theorem ScansAs.condition (writes : Writes mode token) (nested : Bool) {condition : Condition}
    (named : condition.IsNamed) :
    ScansAs mode token (condition.fragment nested) condition.names condition.comparisons := by
  induction condition using Condition.induction generalizing nested with
  | compare comparison =>
      have single : (Condition.compare comparison).names = comparison.names := by
        simp [Condition.names, Condition.comparisons]
      rw [single, Condition.fragment]
      exact .comparison writes (named comparison (by simp [Condition.comparisons]))
  | group junction children ih =>
      have visible : ((Condition.group junction children).fragment false).sql mode = "" ↔
          (Condition.group junction children).isEmpty = true :=
        Condition.sql_build_eq_empty_iff mode _
      rw [Condition.fragment_group] at visible ⊢
      cases empty : (Condition.group junction children).isEmpty with
      | true =>
          have none := (Condition.isEmpty_iff _).mp empty
          rw [if_pos rfl, Condition.names, none]
          exact .nil
      | false =>
          have each : forall child,
              child ∈ children.filter (fun child => !child.isEmpty) ->
                ScansAs mode token (child.fragment true) child.names child.comparisons := by
            intro child member
            have member := (List.mem_filter.mp member).1
            exact ih child member true (Condition.isNamed_of_mem named member)
          have divider : Divider junction.sql.toList := by
            cases junction <;> decide
          have inside := ScansAs.separated junction.sql divider each
          have same := Condition.flatMap_comparisons_filter children
          rw [← Condition.comparisons_group junction children] at same
          have sameNames : (children.filter fun child => !child.isEmpty).flatMap Condition.names =
              (Condition.group junction children).names := by
            rw [← Condition.names_group junction, Condition.names, Condition.comparisons_group,
              same, Condition.names]
          rw [sameNames, same] at inside
          rw [if_neg Bool.false_ne_true]
          cases nested with
          | false => exact inside
          | true =>
              rw [empty, if_neg Bool.false_ne_true] at visible
              exact inside.wrapped fun nothing => Bool.false_ne_true (visible.mp nothing)

theorem bare_joinKind (kind : JoinKind) : Bare (kind.sql ++ " ").toList := by
  cases kind <;> decide

theorem ScansAs.join (writes : Writes mode token) (database : Option String) {join : Join}
    (named : join.condition.IsNamed) :
    ScansAs mode token (join.fragment database) (join.names database)
      join.condition.comparisons := by
  have condition := ScansAs.condition writes true named
  have qualified : Shows
      ((database.elim "" fun database => Identifier.quote database ++ ".") ++
        Identifier.quote join.table).toList (database.toList ++ [join.table]) [] 0 := by
    cases database with
    | none => simpa using Shows.quote join.table
    | some database =>
        simpa using (Shows.quote database).join ['.'] (by decide) (Shows.quote join.table)
  have aliased := qualified.join " AS ".toList (by decide) (Shows.quote join.aliasName)
  have header := aliased.bare_append (bare_joinKind join.kind)
  have whole := header.join " ON ".toList (by decide) condition
  simpa [ScansAs, Join.fragment, Join.names, Fragment.toList_sql_cons, Fragment.parameters_cons,
    Piece.sql, Piece.parameters] using whole

/-! ## What the scanner finds in clauses -/

theorem Shows.target {target : Target} (isColumn : target.IsColumn) :
    Shows target.sql.toList target.names [] 0 := by
  cases target with
  | raw sql => exact isColumn.elim
  | column column => exact .column column

theorem bare_functionName (function : String) :
    Bare (Identifier.functionName function).toList := by
  have kept (character : Char)
      (member : character ∈ (Identifier.functionName function).toList) :
      Identifier.isFunctionCharacter character = true := by
    rw [Identifier.toList_functionName] at member
    exact (List.mem_filter.mp member).2
  refine .of_forall (plainText_of_forall fun character member => ⟨?_, ?_⟩)
    fun character member => ⟨?_, ?_⟩
  · rcases Bool.or_eq_true_iff.mp (kept character member) with letter | underscore
    · simp [isPlain, letter]
    · rw [of_decide_eq_true underscore]
      decide
  all_goals
    rintro rfl
    exact absurd (kept _ member) (by decide)

/-- The parentheses of a call have at least blanks in them. -/
theorem Shows.selection {selection : Selection} (isColumn : selection.target.IsColumn) :
    Shows selection.sql.toList selection.names [] 0 := by
  rcases selection with ⟨target, function, aliasName⟩
  have called : Shows (Selection.sql ⟨target, function, none⟩).toList target.names [] 0 := by
    cases function with
    | none => exact .target isColumn
    | some function =>
        have spaced := ((Shows.target isColumn).append_bare [' '] (by decide)).bare_append
          (show Bare [' '] by decide)
        have call := (spaced.wrapped (by simp)).bare_append (bare_functionName function)
        simpa [Selection.sql] using call
  cases aliasName with
  | none => simpa [Selection.names] using called
  | some aliasName =>
      have aliased := called.join " AS ".toList (by decide) (Shows.quote aliasName)
      simpa [Selection.sql, Selection.names] using aliased

/-- Texts with a comma between every two. -/
theorem Shows.listed {Item : Type} {text : Item -> String} {namesOf : Item -> List String}
    {items : List Item}
    (each : forall item, item ∈ items -> Shows (text item).toList (namesOf item) [] 0) :
    Shows (", ".intercalate (items.map text)).toList (items.flatMap namesOf) [] 0 := by
  have without : forall item, item ∈ items ->
      Shows (text item).toList (namesOf item) [] (([] : List Item).countP fun _ => false) := each
  have shown := Shows.intercalate ", ".toList (by decide) without
  rw [List.flatMap_eq_nil_iff.mpr fun _ _ => rfl, List.flatMap_eq_nil_iff.mpr fun _ _ => rfl]
    at shown
  simpa [String.toList_intercalate, Function.comp_def] using shown

/-- A fragment that can stand behind any other one, because it begins with no
mark. -/
structure Follows (mode : RenderMode) (token : Value -> Token) (fragment : Fragment)
    (names : List String) (compared : List Comparison) : Prop where
  scans : ScansAs mode token fragment names compared
  detached : Detached (fragment.sql mode).toList

variable {second : Fragment} {otherNames : List String} {others : List Comparison}

theorem ScansAs.append (left : ScansAs mode token fragment names compared)
    (right : Follows mode token second otherNames others) :
    ScansAs mode token (fragment ++ second) (names ++ otherNames) (compared ++ others) := by
  have both := Shows.append left right.scans right.detached
  simpa [ScansAs] using both

theorem Follows.nil : Follows mode token [] [] [] := ⟨.nil, .nil⟩

theorem Follows.opened {opening : String} (divider : Divider opening.toList)
    (scans : ScansAs mode token fragment names compared) :
    Follows mode token (.text opening :: fragment) names compared := by
  refine ⟨scans.bare_cons divider.1, ?_⟩
  rw [Fragment.toList_sql_cons, Piece.sql]
  exact divider.detached _

theorem Follows.text {opening sql : String} (divider : Divider opening.toList)
    (shows : Shows sql.toList names [] 0) :
    Follows mode token [.text (opening ++ sql)] names [] := by
  have apart : Follows mode token [.text opening, .text sql] names [] :=
    .opened divider (.text shows)
  have same : Fragment.sql mode [.text (opening ++ sql)] =
      Fragment.sql mode [.text opening, .text sql] := by
    simp [Fragment.sql, Piece.sql, String.join]
  constructor
  · rw [ScansAs, same]
    exact apart.scans
  · rw [same]
    exact apart.detached

theorem Follows.append (left : Follows mode token fragment names compared)
    (right : Follows mode token second otherNames others) :
    Follows mode token (fragment ++ second) (names ++ otherNames) (compared ++ others) := by
  refine ⟨left.scans.append right, ?_⟩
  rw [Fragment.toList_sql_append]
  exact left.detached.append right.detached

end Fragments

section Queries

variable {mode : RenderMode} {token : Value -> Token} {query : Query}

theorem ScansAs.selectClause (named : query.IsNamed) :
    ScansAs mode token query.selectClause
      (if query.selections.isEmpty then [query.base]
        else query.selections.flatMap Selection.names) [] := by
  have opening :
      Bare ("SELECT " ++ if query.distinct then "DISTINCT " else "").toList := by
    cases query.distinct <;> decide
  unfold Query.selectClause Query.columns
  cases selections : query.selections with
  | nil =>
      have wildcard := Shows.column ⟨some query.base, "*"⟩
      have shown := wildcard.bare_append opening
      exact .text (by simpa [Column.sql, Column.names] using shown)
  | cons first rest =>
      have listed := Shows.listed fun selection member =>
        Shows.selection (named.selections selection member)
      have shown := listed.bare_append opening
      rw [selections] at shown
      exact .text (by simpa using shown)

theorem Follows.joinClauses (writes : Writes mode token) (database : Option String)
    {joins : List Join} (named : forall join, join ∈ joins -> join.condition.IsNamed) :
    Follows mode token (joins.flatMap fun join => Piece.text " " :: join.fragment database)
      (joins.flatMap (Join.names database))
      (joins.flatMap fun join => join.condition.comparisons) := by
  induction joins with
  | nil => exact .nil
  | cons join rest ih =>
      have first : Follows mode token (Piece.text " " :: join.fragment database)
          (join.names database) join.condition.comparisons :=
        .opened (by decide) (.join writes database (named join List.mem_cons_self))
      have behind := ih fun other member => named other (List.mem_cons_of_mem _ member)
      rw [List.flatMap_cons, List.flatMap_cons, List.flatMap_cons]
      exact first.append behind

theorem Follows.whereClause (writes : Writes mode token) (named : query.IsNamed) :
    Follows mode token query.whereClause (query.conditions.flatMap Condition.names)
      (query.conditions.flatMap Condition.comparisons) := by
  have group := Condition.isNamed_group .and named.conditions
  unfold Query.whereClause
  simp only
  rw [← Condition.names_group .and, ← Condition.comparisons_group .and]
  cases empty : (Condition.group .and query.conditions).isEmpty with
  | true =>
      have none := (Condition.isEmpty_iff _).mp empty
      rw [if_pos rfl, Condition.names, none]
      exact .nil
  | false =>
      rw [if_neg Bool.false_ne_true]
      exact .opened (by decide) (.condition writes false group)

theorem Follows.groupClause (named : query.IsNamed) :
    Follows mode token query.groupClause (query.grouping.flatMap Target.names) [] := by
  have listed := Shows.listed fun target member => Shows.target (named.grouping target member)
  unfold Query.groupClause
  cases grouping : query.grouping with
  | nil => exact .nil
  | cons first rest =>
      rw [grouping] at listed
      exact .text (by decide) listed

theorem Follows.orderClause (named : query.IsNamed) :
    Follows mode token query.orderClause
      (query.ordering.flatMap fun entry => entry.1.names) [] := by
  have each : forall entry, entry ∈ query.ordering ->
      Shows (Query.orderSql entry).toList entry.1.names [] 0 := by
    intro entry member
    rcases entry with ⟨target, direction⟩
    have directed : Bare (" " ++ direction.sql).toList := by
      cases direction <;> decide
    have shown := (Shows.target (named.ordering _ member)).append_bare _ directed
    simpa [Query.orderSql] using shown
  have listed := Shows.listed each
  unfold Query.orderClause
  cases ordering : query.ordering with
  | nil => exact .nil
  | cons first rest =>
      rw [ordering] at listed
      exact .text (by decide) listed

/-- A clause that is a word and a number, or nothing. -/
theorem Follows.numberClause {opening : String} (divider : Divider opening.toList)
    (number : Option UInt64) :
    Follows mode token
      (number.elim [] fun number => [.text (opening ++ number.toNat.repr)]) [] [] := by
  cases number with
  | none => exact .nil
  | some number =>
      refine .text divider (.bare (bare_digits fun character member => ?_))
      rw [Nat.toList_repr] at member
      exact Numeral.isDigit_toDigits member

/-- The scanner finds the names of a query in its statement, its bound values, and an
empty pair of parentheses for every empty tuple. -/
theorem ScansAs.statement (writes : Writes mode token) (named : query.IsNamed) :
    ScansAs mode token query.fragment query.names query.comparisons := by
  have fromBase : Follows mode token query.fromClause [query.base] [] :=
    .text (by decide) (.quote query.base)
  have limit : Follows mode token query.limitClause [] [] :=
    .numberClause (by decide) query.limit
  have offset : Follows mode token query.offsetClause [] [] :=
    .numberClause (by decide) query.offset
  have all := (((((((ScansAs.selectClause named).append fromBase).append
    (.joinClauses writes query.database named.joins)).append
    (.whereClause writes named)).append (.groupClause named)).append
    (.orderClause named)).append limit).append offset
  simp only [List.append_nil, List.nil_append] at all
  exact all

end Queries
end Scanner
end SelectBuilder
