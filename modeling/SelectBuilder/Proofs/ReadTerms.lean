import SelectBuilder.Proofs.ReadParts

namespace SelectBuilder
namespace Reader

/-!
# Reading back terms

Behind an operator a term is read as one value, and in parentheses as a list of
values.  A value is read back as it was bound, and a bare number as the number
that its text means.
-/

/-! ## Lists between separators -/

theorem splitOnP_intercalate {Part : Type} {separates : Part -> Bool} (separator : Part)
    (isSeparator : separates separator = true) {pieces : List (List Part)}
    (nonempty : pieces ≠ [])
    (inside : forall piece, piece ∈ pieces ->
      forall part, part ∈ piece -> separates part = false) :
    ([separator].intercalate pieces).splitOnP separates = pieces := by
  induction pieces with
  | nil => exact absurd rfl nonempty
  | cons first rest ih =>
      have firstInside := inside first List.mem_cons_self
      cases rest with
      | nil =>
          rw [List.intercalate_singleton]
          exact List.splitOnP_eq_singleton firstInside
      | cons second behind =>
          have restSplit := ih (List.cons_ne_nil _ _) fun piece member =>
            inside piece (List.mem_cons_of_mem _ member)
          rw [List.intercalate_cons_cons, List.append_assoc, List.singleton_append,
            List.splitOnP_append_cons_of_forall_mem firstInside separator isSeparator, restSplit]

theorem mapM_eq_some {Source Result : Type} {attempt : Source -> Option Result}
    {sources : List Source} {results : List Result}
    (each : List.Forall₂ (fun source result => attempt source = some result) sources results) :
    sources.mapM attempt = some results := by
  induction each with
  | nil => rfl
  | cons first others ih => simp [List.mapM_cons, first, ih]

theorem exists_of_mem_left {Source Result : Type} {relation : Source -> Result -> Prop}
    {sources : List Source} {results : List Result}
    (each : List.Forall₂ relation sources results) {source : Source} (member : source ∈ sources) :
    ∃ result, relation source result := by
  induction each with
  | nil => cases member
  | cons first others ih =>
      rcases List.mem_cons.mp member with same | behind
      · rw [same]
        exact ⟨_, first⟩
      · exact ih behind

/-! ## Terms -/

/-- The fragment is read as this one value. -/
def ReadsScalar (fragment : Fragment) (scalar : Scalar) : Prop :=
  ∃ piece, FragmentReads fragment piece ∧ singleOf piece = some scalar

theorem exists_item_of_single {piece : List Item} {scalar : Scalar}
    (read : singleOf piece = some scalar) :
    ∃ item, piece = [item] ∧ scalarOf item = some scalar := by
  unfold singleOf at read
  split at read
  · next item => exact ⟨item, rfl, read⟩
  · cases read

/-- A value is neither a separator nor anything in parentheses. -/
theorem plain_of_scalar {item : Item} {scalar : Scalar} (read : scalarOf item = some scalar) :
    item.isComma = false ∧ item.isWord .and = false ∧ item.isWord .or = false := by
  cases item with
  | lexeme lexeme =>
      cases lexeme with
      | word word => cases word <;> first | exact ⟨rfl, rfl, rfl⟩ | cases read
      | comma => cases read
      | _ => exact ⟨rfl, rfl, rfl⟩
  | _ => exact ⟨rfl, rfl, rfl⟩

theorem rightSideOf_scalar {item : Item} {scalar : Scalar} (read : scalarOf item = some scalar)
    {operator : Operator} (takesOne : operator.isMembership = false) :
    rightSideOf operator [item] = some (.single scalar) := by
  cases item with
  | enclosed formula tuple => cases read
  | _ => simp [rightSideOf, singleOf, read, takesOne]

theorem readsScalar_null : ReadsScalar [.text "NULL"] .null :=
  ⟨[.lexeme (.word .null)], .text (.word .null), rfl⟩

theorem readsScalar_bound (value : Value) : ReadsScalar [.bound value] (.value value) :=
  ⟨[.value value], .bound value, rfl⟩

theorem readsScalar_numeric {value : Value} (numeric : value.isNumeric = true) :
    ReadsScalar [.text value.display] (.ofValue value) := by
  rw [Value.isNumeric_eq_isSome_number?] at numeric
  rcases Option.isSome_iff_exists.mp numeric with ⟨number, isNumber⟩
  rcases Value.exists_numeral isNumber with ⟨numeral, sameText, sameNumber⟩
  have reads := ReadsAs.number numeral
  rw [sameText] at reads
  refine ⟨[.lexeme (.number numeral.number)], .text reads, ?_⟩
  rw [Scalar.ofValue, isNumber, sameNumber]
  rfl

theorem readsScalar_value (value : Value) : ReadsScalar value.fragment (.ofValue value) := by
  unfold Value.fragment
  cases numeric : value.isNumeric with
  | true => exact readsScalar_numeric numeric
  | false =>
      rw [Value.isNumeric_eq_isSome_number?, Option.isSome_eq_false_iff, Option.isNone_iff_eq_none]
        at numeric
      have same : Scalar.ofValue value = .value value := by
        rw [Scalar.ofValue, numeric]
        rfl
      rw [same]
      exact readsScalar_bound value

/-- The fragment is read as a list of values, once it stands in parentheses. -/
def ReadsTuple (fragment : Fragment) (scalars : List Scalar) : Prop :=
  ∃ items, FragmentReads fragment items ∧ tupleOf items = some scalars

theorem noComma_of_single {piece : List Item} {scalar : Scalar}
    (read : singleOf piece = some scalar) :
    forall item, item ∈ piece -> item.isComma = false := by
  rcases exists_item_of_single read with ⟨only, rfl, found⟩
  intro item member
  rw [List.mem_singleton.mp member]
  exact (plain_of_scalar found).1

/-- Values with a comma between every two are a list of them. -/
theorem tupleOf_intercalate {pieces : List (List Item)} {scalars : List Scalar}
    (read : List.Forall₂ (fun piece scalar => singleOf piece = some scalar) pieces scalars) :
    tupleOf ([Item.lexeme .comma].intercalate pieces) = some scalars := by
  have noComma : forall piece, piece ∈ pieces ->
      forall item, item ∈ piece -> item.isComma = false := by
    intro piece member
    rcases exists_of_mem_left read member with ⟨scalar, found⟩
    exact noComma_of_single found
  cases read with
  | nil => rfl
  | @cons piece scalar pieces scalars first others =>
      rcases exists_item_of_single first with ⟨item, rfl, _⟩
      have someItems : [Item.lexeme .comma].intercalate ([item] :: pieces) ≠ [] := by
        cases pieces <;> simp [List.intercalate_cons_cons]
      have split := splitOnP_intercalate (.lexeme .comma) rfl (List.cons_ne_nil _ _) noComma
      rw [tupleOf.eq_2 _ someItems, split]
      exact mapM_eq_some (.cons first others)

theorem ReadsScalar.tuple {fragment : Fragment} {scalar : Scalar}
    (reads : ReadsScalar fragment scalar) : ReadsTuple fragment [scalar] := by
  rcases reads with ⟨piece, found, read⟩
  have alone := tupleOf_intercalate (.cons read .nil)
  rw [List.intercalate_singleton] at alone
  exact ⟨piece, found, alone⟩

theorem readsTuple_separated {fragments : List Fragment} {scalars : List Scalar}
    (each : List.Forall₂ ReadsScalar fragments scalars) :
    ReadsTuple (Fragment.separated ", " fragments) scalars := by
  rcases exists_pieces each with ⟨pieces, found, read⟩
  have opens : Opens ", ".toList [.comma] := by
    intro rest
    have comma : lex (',' :: ' ' :: rest) = (lex (' ' :: rest)).map (.comma :: ·) :=
      lex_lexeme (by decide) rfl
    rwa [lex_blank] at comma
  have begins : forall text, Begins (", ".toList ++ text) := by
    intro text rest next starts
    cases starts
    exact .inr (.inl rfl)
  exact ⟨_, .separated opens rfl begins found, tupleOf_intercalate read⟩

theorem readsTuple_values (values : List Value) :
    ReadsTuple (Value.listFragment values) (Scalar.ofValues values) := by
  unfold Value.listFragment Scalar.ofValues
  apply readsTuple_separated
  cases numeric : values.all Value.isNumeric with
  | true =>
      apply List.forall₂_map_left_iff.mpr
      apply List.forall₂_map_right_iff.mpr
      apply List.forall₂_same.mpr
      intro value member
      exact readsScalar_numeric (List.all_eq_true.mp numeric value member)
  | false =>
      apply List.forall₂_map_left_iff.mpr
      apply List.forall₂_map_right_iff.mpr
      apply List.forall₂_same.mpr
      intro value _
      exact readsScalar_bound value

theorem ofValues_ne_nil {values : List Value} (some : values ≠ []) :
    Scalar.ofValues values ≠ [] := by
  unfold Scalar.ofValues
  split <;> simpa using some

/-- A term behind an operator that takes one value. -/
theorem readsScalar_term {term : Term} (notRaw : forall sql, term ≠ .raw sql)
    (notList : forall values, term ≠ .list values) :
    ∃ scalar, term.rightSide = .single scalar ∧ ReadsScalar term.fragment scalar := by
  cases term with
  | null => exact ⟨.null, rfl, readsScalar_null⟩
  | scalar value => exact ⟨.ofValue value, rfl, readsScalar_value value⟩
  | list values => exact absurd rfl (notList values)
  | raw sql => exact absurd rfl (notRaw sql)

/-- A term in parentheses.  Only the empty list has no value in it. -/
theorem readsTuple_term {term : Term} (notRaw : forall sql, term ≠ .raw sql) :
    ∃ scalars, term.rightSide.asTuple = .tuple scalars ∧ ReadsTuple term.fragment scalars ∧
      (scalars = [] -> term = .list []) := by
  cases term with
  | null => exact ⟨_, rfl, readsScalar_null.tuple, fun none => by cases none⟩
  | scalar value => exact ⟨_, rfl, (readsScalar_value value).tuple, fun none => by cases none⟩
  | list values =>
      refine ⟨_, rfl, readsTuple_values values, fun none => ?_⟩
      by_cases empty : values = []
      · rw [empty]
      · exact absurd none (ofValues_ne_nil empty)
  | raw sql => exact absurd rfl (notRaw sql)

end Reader
end SelectBuilder
