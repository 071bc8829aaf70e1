import SelectBuilder.Proofs.BareNumbers
import SelectBuilder.Proofs.ReadTerms

namespace SelectBuilder
namespace Reader

/-!
# Reading back conditions

A condition without raw SQL says in SQL what its formula says.  Its parts are
read back one inside the other: comparisons and groups in parentheses as atoms,
and atoms with a junction between them as the members of a group.
-/

/-! ## Comparisons -/

theorem readColumn_columnLexemes (column : Column) (word : Word) (rest : List Item) :
    readColumn ((columnLexemes column).map Item.lexeme ++ .lexeme (.word word) :: rest) =
      some (column, .lexeme (.word word) :: rest) := by
  rcases column with ⟨table, name⟩
  by_cases wildcard : name = "*" <;> cases table <;> simp [columnLexemes, wildcard, readColumn]

theorem readOperator_operatorWords (operator : Operator) (rest : List Item) :
    readOperator (((operatorWords operator).map Lexeme.word).map Item.lexeme ++ rest) =
      some (operator, rest) := by
  cases operator <;> rfl

theorem toList_operator (operator : Operator) :
    (" " ++ operator.sql ++ " ").toList = spacedWords (operatorWords operator) := by
  cases operator <;> decide

/-- A column, the words of an operator and a right side are a comparison. -/
theorem comparisonOf_operator (column : Column) (operator : Operator) (right : List Item) :
    comparisonOf ((columnLexemes column).map Item.lexeme ++
        (((operatorWords operator).map Lexeme.word).map Item.lexeme ++ right)) =
      (rightSideOf operator right).map (.compare (.column column) operator ·) := by
  have words := readOperator_operatorWords operator right
  unfold comparisonOf
  cases operator <;>
    simp only [operatorWords, List.map_cons, List.map_nil, List.cons_append, List.nil_append]
      at words ⊢ <;>
    rw [readColumn_columnLexemes] <;> simp [words] <;> cases rightSideOf _ right <;> rfl

theorem atomOf_columnLexemes (column : Column) (rest : List Item) :
    atomOf ((columnLexemes column).map Item.lexeme ++ rest) =
      comparisonOf ((columnLexemes column).map Item.lexeme ++ rest) := by
  rcases column with ⟨table, name⟩
  by_cases wildcard : name = "*" <;> cases table <;> simp [columnLexemes, wildcard, atomOf]

/-- A piece that is one member of a group, with no junction of the group in it. -/
structure IsAtom (piece : List Item) (formula : Formula) : Prop where
  atom : atomOf piece = some formula
  noJunction : forall item, item ∈ piece -> item.isWord .and = false ∧ item.isWord .or = false

/-- The fragment is read as this formula, wherever it stands between junctions. -/
def ReadsAtom (fragment : Fragment) (formula : Formula) : Prop :=
  ∃ piece, FragmentReads fragment piece ∧ IsAtom piece formula

/-- A column, words behind it, and a right side in the end. -/
theorem ReadsAs.comparison (column : Column) (words : List Word) {text : List Char}
    {parameters : List Value} {items : List Item} (right : ReadsAs text parameters items) :
    ReadsAs (column.sql.toList ++ (spacedWords words ++ text)) parameters
      ((columnLexemes column).map Item.lexeme ++
        ((words.map Lexeme.word).map Item.lexeme ++ items)) := by
  have behind := ReadsAs.opened (opens_spacedWords words) (all_isKept_words words) right
  apply (ReadsAs.column column).append behind
  exact .blank _

theorem no_junction_comparison (column : Column) {words : List Word} {right : Item}
    (wordsPlain : forall word, word ∈ words -> word ≠ .and ∧ word ≠ .or)
    (rightPlain : right.isWord .and = false ∧ right.isWord .or = false) {item : Item}
    (member : item ∈ (columnLexemes column).map Item.lexeme ++
      ((words.map Lexeme.word).map Item.lexeme ++ [right])) :
    item.isWord .and = false ∧ item.isWord .or = false := by
  rcases List.mem_append.mp member with front | behind
  · rcases List.mem_map.mp front with ⟨lexeme, among, rfl⟩
    rcases column with ⟨table, name⟩
    by_cases wildcard : name = "*" <;> cases table <;>
      simp [columnLexemes, wildcard] at among
    all_goals rcases among with rfl | rfl | rfl <;> exact ⟨rfl, rfl⟩
  · rcases List.mem_append.mp behind with named | last
    · rcases List.mem_map.mp named with ⟨lexeme, among, rfl⟩
      rcases List.mem_map.mp among with ⟨word, wordMember, rfl⟩
      have plain := wordsPlain word wordMember
      exact ⟨decide_eq_false plain.1, decide_eq_false plain.2⟩
    · rw [List.mem_singleton.mp last]
      exact rightPlain

theorem operatorWords_plain (operator : Operator) {word : Word}
    (member : word ∈ operatorWords operator) : word ≠ .and ∧ word ≠ .or := by
  have plain : forall word, word ∈ operatorWords operator -> word ≠ .and ∧ word ≠ .or := by
    cases operator <;> decide
  exact plain word member

/-- One of the two comparisons of numbers that stand for a constant. -/
theorem readsAtom_constant {digit : Char} (number : Nat) {truth : Bool}
    (digits : Nat.toDigits 10 number = [digit]) (noLetter : digit.isAlpha = false)
    (noSign : isSign digit = false)
    (atom : atomOf [.lexeme (.number ⟨false, 1, 0⟩), .lexeme (.word .equal),
      .lexeme (.number ⟨false, number, 0⟩)] = some (.constant truth)) :
    ReadsAtom [.text (String.ofList ['1', '=', digit])] (.constant truth) := by
  have lexes : Lexes ['1', '=', digit]
      [.number ⟨false, 1, 0⟩, .word .equal, .number ⟨false, number, 0⟩] := by
    intro rest boundary
    have one := lex_number (.ofNat false 1) ('=' :: digit :: rest) rfl (by simp)
    have equal : lex ('=' :: digit :: rest) = (lex (digit :: rest)).map (.word .equal :: ·) :=
      lex_word .equal _ noLetter noSign
    have last := lex_number (.ofNat false number) rest (boundary.stops rfl rfl rfl)
      (boundary.head_ne (by decide))
    have textOne : (Numeral.ofNat false 1).text = ['1'] := by decide
    have textLast : (Numeral.ofNat false number).text = [digit] := by
      simp [Numeral.text, Numeral.minus, Numeral.ofNat, Numeral.tail, digits]
    rw [Numeral.number_ofNat, textOne, List.singleton_append] at one
    rw [Numeral.number_ofNat, textLast, List.singleton_append] at last
    simp [one, equal, last, Function.comp_def]
  refine ⟨_, .text (by simpa using ReadsAs.kept lexes rfl), atom, ?_⟩
  intro item member
  simp only [List.mem_cons, List.not_mem_nil, or_false] at member
  rcases member with rfl | rfl | rfl <;> exact ⟨rfl, rfl⟩

/-- A test for `NULL`, with or without a NOT. -/
theorem readsAtom_isNull (column : Column) (words : List Word) {negated : Bool} {sql : String}
    (wordsPlain : forall word, word ∈ words -> word ≠ .and ∧ word ≠ .or)
    (written : sql.toList = spacedWords words ++ Word.null.text)
    (atom : comparisonOf ((columnLexemes column).map Item.lexeme ++
      ((words.map Lexeme.word).map Item.lexeme ++ [.lexeme (.word .null)])) =
        some (.isNull (.column column) negated)) :
    ReadsAtom [.text column.sql, .text sql] (.isNull (.column column) negated) := by
  have reads := ReadsAs.comparison column words (.word .null)
  have last : Item.isWord .and (.lexeme (.word .null)) = false ∧
      Item.isWord .or (.lexeme (.word .null)) = false := ⟨rfl, rfl⟩
  refine ⟨_, ?_, (atomOf_columnLexemes column _).trans atom,
    fun item => no_junction_comparison column wordsPlain last⟩
  simpa [FragmentReads, Fragment.sql, Fragment.parameters, Piece.sql, Piece.parameters,
    written] using reads

/-- A column, an operator and a right side that is one item. -/
theorem readsAtom_operator (column : Column) {operator : Operator} {fragment : Fragment}
    {sql : String} {right : Item} {side : RightSide}
    (written : sql.toList = spacedWords (operatorWords operator))
    (rightPlain : right.isWord .and = false ∧ right.isWord .or = false)
    (reads : FragmentReads fragment [right]) (read : rightSideOf operator [right] = some side) :
    ReadsAtom ([.text column.sql, .text sql] ++ fragment)
      (.compare (.column column) operator side) := by
  have whole := ReadsAs.comparison column (operatorWords operator) reads
  refine ⟨_, ?_, ?_, fun item => no_junction_comparison column
    (fun word => operatorWords_plain operator) rightPlain⟩
  · simpa [FragmentReads, Fragment.toList_sql_cons, Fragment.parameters_cons, Piece.sql,
      Piece.parameters, written] using whole
  · rw [atomOf_columnLexemes, comparisonOf_operator, read]
    rfl

/-- How a fragment is divided into pieces does not matter. -/
theorem ReadsAtom.of_same {first second : Fragment} {formula : Formula}
    (reads : ReadsAtom first formula)
    (sameText : (second.sql .prepared).toList = (first.sql .prepared).toList)
    (sameParameters : second.parameters .prepared = first.parameters .prepared) :
    ReadsAtom second formula := by
  rcases reads with ⟨piece, found, isAtom⟩
  refine ⟨piece, ?_, isAtom⟩
  rw [FragmentReads, sameText, sameParameters]
  exact found

theorem normal_of_tuple {target : Target} {operator : Operator} {term : Term}
    (shape : if operator.isMembership then term ≠ .list [] else ∃ values, term = .list values) :
    Comparison.normal ⟨target, operator, term⟩ =
      .compare target operator term.rightSide.asTuple := by
  cases operator
  case member | notMember =>
    cases term with
    | list values =>
        cases values with
        | nil => exact absurd rfl shape
        | cons first rest => rfl
    | _ => rfl
  all_goals
    rcases shape with ⟨values, rfl⟩
    rfl

theorem normal_of_single {target : Target} {operator : Operator} {term : Term}
    (scalar : operator.isMembership = false)
    (notNull : operator = .equal ∨ operator = .notEqual -> term ≠ .null) :
    Comparison.normal ⟨target, operator, term⟩ = .compare target operator term.rightSide := by
  cases operator <;> cases term <;> simp_all [Operator.isMembership, Comparison.normal]

/-- Every comparison without raw SQL is read back as what it says. -/
theorem readsAtom_comparison {comparison : Comparison} (rawFree : comparison.isRawFree = true) :
    ReadsAtom comparison.fragment comparison.normal := by
  rcases comparison with ⟨target, operator, term⟩
  simp only [Comparison.isRawFree, Bool.and_eq_true, Bool.not_eq_true'] at rawFree
  rcases rawFree with ⟨targetFree, termFree⟩
  cases target with
  | raw sql => cases targetFree
  | column column =>
      have notRaw : forall sql, term ≠ .raw sql := by
        intro sql raw
        rw [raw] at termFree
        cases termFree
      revert notRaw
      refine Comparison.fragment_cases
        (motive := fun operator term fragment => (forall sql, term ≠ .raw sql) ->
          ReadsAtom fragment (Comparison.normal ⟨.column column, operator, term⟩))
        ?noMember ?everyMember ?isNull ?isNotNull ?tuple ?single operator term
      case noMember => exact fun _ => readsAtom_constant 0 (by decide) rfl rfl rfl
      case everyMember => exact fun _ => readsAtom_constant 1 (by decide) rfl rfl rfl
      case isNull =>
        intro _
        apply readsAtom_isNull column [.is] (by decide) (by decide)
        simp [comparisonOf, readColumn_columnLexemes]
      case isNotNull =>
        intro _
        apply readsAtom_isNull column [.is, .not] (by decide) (by decide)
        simp [comparisonOf, readColumn_columnLexemes]
      case tuple =>
        intro operator term shape notRaw
        rcases readsTuple_term notRaw with ⟨scalars, side, ⟨items, found, read⟩, onlyEmpty⟩
        have allowed : ¬ (operator.isMembership = true ∧ scalars = []) := by
          intro forbidden
          rw [if_pos forbidden.1] at shape
          exact shape (onlyEmpty forbidden.2)
        have right : rightSideOf operator [.enclosed (formulaOf items) (tupleOf items)] =
            some (.tuple scalars) := by
          simp only [rightSideOf, read, Option.bind_some, if_neg allowed]
        have atom :=
          readsAtom_operator column (toList_operator operator) ⟨rfl, rfl⟩ found.enclosed right
        rw [normal_of_tuple shape, side]
        apply atom.of_same
        · simp [Fragment.toList_sql_cons, Piece.sql, Target.sql]
        · simp [Fragment.parameters_cons, Piece.parameters]
      case single =>
        intro operator term scalar notList notNull notRaw
        rcases readsScalar_term notRaw notList with ⟨read, side, piece, found, single⟩
        rcases exists_item_of_single single with ⟨item, rfl, isScalar⟩
        rw [normal_of_single scalar notNull, side]
        exact readsAtom_operator column (toList_operator operator) (plain_of_scalar isScalar).2
          found (rightSideOf_scalar isScalar scalar)

/-! ## Groups -/

def junctionWord : Junction -> Word
  | .and => .and
  | .or => .or

/-- Items without an OR between them are one conjunction. -/
theorem formulaOf_of_no_or {items : List Item}
    (noOr : forall item, item ∈ items -> item.isWord .or = false) :
    formulaOf items = conjunctionOf items := by
  unfold formulaOf
  rw [List.splitOnP_eq_singleton noOr]
  cases read : conjunctionOf items <;> simp [read, Formula.ofMembers]

theorem conjunctionOf_of_no_and {items : List Item}
    (noAnd : forall item, item ∈ items -> item.isWord .and = false) :
    conjunctionOf items = atomOf items := by
  unfold conjunctionOf
  rw [List.splitOnP_eq_singleton noAnd]
  cases read : atomOf items <;> simp [read, Formula.ofMembers]

theorem mem_intercalate {separator item : Item} {pieces : List (List Item)}
    (member : item ∈ [separator].intercalate pieces) :
    item = separator ∨ ∃ piece, piece ∈ pieces ∧ item ∈ piece := by
  induction pieces with
  | nil => cases member
  | cons first rest ih =>
      cases rest with
      | nil =>
          rw [List.intercalate_singleton] at member
          exact .inr ⟨first, List.mem_cons_self, member⟩
      | cons second behind =>
          rw [List.intercalate_cons_cons, List.append_assoc, List.mem_append,
            List.singleton_append, List.mem_cons] at member
          rcases member with inFirst | same | inRest
          · exact .inr ⟨first, List.mem_cons_self, inFirst⟩
          · exact .inl same
          · rcases ih inRest with same | ⟨piece, among, inside⟩
            · exact .inl same
            · exact .inr ⟨piece, List.mem_cons_of_mem _ among, inside⟩

theorem IsAtom.conjunction {piece : List Item} {formula : Formula} (isAtom : IsAtom piece formula) :
    conjunctionOf piece = some formula := by
  rw [conjunctionOf_of_no_and fun item member => (isAtom.noJunction item member).1]
  exact isAtom.atom

/-- Atoms with one junction between them are its members. -/
theorem formulaOf_intercalate (junction : Junction) {pieces : List (List Item)}
    {formulas : List Formula} (nonempty : pieces ≠ [])
    (atoms : List.Forall₂ IsAtom pieces formulas) :
    formulaOf ([Item.lexeme (.word (junctionWord junction))].intercalate pieces) =
      Formula.ofMembers junction formulas := by
  have noJunction : forall piece, piece ∈ pieces ->
      forall item, item ∈ piece -> item.isWord .and = false ∧ item.isWord .or = false := by
    intro piece member
    rcases exists_of_mem_left atoms member with ⟨formula, isAtom⟩
    exact isAtom.noJunction
  have noAnd : forall piece, piece ∈ pieces ->
      forall item, item ∈ piece -> item.isWord .and = false :=
    fun piece member item inside => (noJunction piece member item inside).1
  have noOr : forall piece, piece ∈ pieces ->
      forall item, item ∈ piece -> item.isWord .or = false :=
    fun piece member item inside => (noJunction piece member item inside).2
  cases junction with
  | and =>
      have nowhereOr : forall item,
          item ∈ [Item.lexeme (.word .and)].intercalate pieces -> item.isWord .or = false := by
        intro item member
        rcases mem_intercalate member with same | ⟨piece, among, inside⟩
        · rw [same]
          rfl
        · exact noOr piece among item inside
      have split := splitOnP_intercalate (.lexeme (.word .and)) rfl nonempty noAnd
      have members := mapM_eq_some (atoms.imp fun _ _ isAtom => isAtom.atom)
      rw [junctionWord, formulaOf_of_no_or nowhereOr, conjunctionOf, split, members]
      rfl
  | or =>
      have split := splitOnP_intercalate (.lexeme (.word .or)) rfl nonempty noOr
      have members := mapM_eq_some (atoms.imp fun _ _ isAtom => isAtom.conjunction)
      rw [junctionWord, formulaOf, split, members]
      rfl

theorem reads_members (junction : Junction) {fragments : List Fragment} {formulas : List Formula}
    (nonempty : fragments ≠ []) (each : List.Forall₂ ReadsAtom fragments formulas) :
    ∃ items, FragmentReads (Fragment.separated junction.sql fragments) items ∧
      formulaOf items = Formula.ofMembers junction formulas := by
  rcases exists_pieces each with ⟨pieces, found, atoms⟩
  have written : junction.sql.toList = spacedWords [junctionWord junction] := by
    cases junction <;> decide
  have opens : Opens junction.sql.toList [.word (junctionWord junction)] := by
    rw [written]
    exact opens_spacedWords _
  have begins : forall text, Begins (junction.sql.toList ++ text) := by
    intro text
    rw [written]
    exact .blank _
  have somePieces : pieces ≠ [] := by
    intro none
    rw [none] at found
    cases found
    exact nonempty rfl
  exact ⟨_, .separated opens rfl begins found, formulaOf_intercalate junction somePieces atoms⟩

/-! ## Conditions -/

/-- The members of a group that are to be seen are read as the formulas there are. -/
theorem readsAtom_visible {children : List Condition}
    (each : forall child, child ∈ children -> forall formula, child.normal = some formula ->
      ReadsAtom (child.fragment true) formula) :
    List.Forall₂ ReadsAtom
      ((children.filter fun child => !child.isEmpty).map (Condition.fragment true))
      (children.filterMap Condition.normal) := by
  induction children with
  | nil => exact .nil
  | cons child rest ih =>
      have behind := ih fun other member => each other (List.mem_cons_of_mem _ member)
      cases normal : child.normal with
      | none =>
          have empty := child.normal_eq_none_iff.mp normal
          simpa [empty, normal] using behind
      | some formula =>
          have shown := Condition.isEmpty_eq_false_of_normal normal
          have first := each child List.mem_cons_self formula normal
          simpa [shown, normal] using And.intro first behind

/-- A group without its parentheses is read as what it says. -/
theorem reads_group {junction : Junction} {children : List Condition} {formula : Formula}
    (normal : (Condition.group junction children).normal = some formula)
    (each : forall child, child ∈ children -> forall formula, child.normal = some formula ->
      ReadsAtom (child.fragment true) formula) :
    ∃ items, FragmentReads ((Condition.group junction children).fragment false) items ∧
      formulaOf items = some formula := by
  have shown := Condition.isEmpty_eq_false_of_normal normal
  have visible := readsAtom_visible each
  have nonempty :
      (children.filter fun child => !child.isEmpty).map (Condition.fragment true) ≠ [] := by
    intro none
    rw [none] at visible
    rw [Condition.normal_group, List.forall₂_nil_left_iff.mp visible] at normal
    cases normal
  rcases reads_members junction nonempty visible with ⟨items, found, read⟩
  rw [← Condition.normal_group, normal] at read
  refine ⟨items, ?_, read⟩
  rw [Condition.fragment_group, shown, if_neg Bool.false_ne_true]
  exact found

/-- A condition inside another one is read as an atom. -/
theorem readsAtom_condition {condition : Condition} (rawFree : condition.isRawFree = true)
    {formula : Formula} (normal : condition.normal = some formula) :
    ReadsAtom (condition.fragment true) formula := by
  induction condition using Condition.induction generalizing formula with
  | compare comparison =>
      cases normal
      rw [Condition.fragment]
      apply readsAtom_comparison
      simpa [Condition.isRawFree, Condition.comparisons] using rawFree
  | group junction children ih =>
      rw [Condition.isRawFree_group, List.all_eq_true] at rawFree
      obtain ⟨items, found, read⟩ := reads_group normal fun child member formula childNormal =>
        ih child member (rawFree child member) childNormal
      have shown := Condition.isEmpty_eq_false_of_normal normal
      rw [Condition.fragment_group, shown, if_neg Bool.false_ne_true] at found ⊢
      refine ⟨_, found.enclosed, read, fun item member => ?_⟩
      rw [List.mem_singleton.mp member]
      exact ⟨rfl, rfl⟩

/-- A condition by itself is read as a formula. -/
theorem reads_condition {condition : Condition} (rawFree : condition.isRawFree = true)
    {formula : Formula} (normal : condition.normal = some formula) :
    ∃ items, FragmentReads (condition.fragment false) items ∧ formulaOf items = some formula := by
  cases condition with
  | compare comparison =>
      rcases readsAtom_condition rawFree normal with ⟨items, found, isAtom⟩
      refine ⟨items, ?_, ?_⟩
      · rw [Condition.fragment] at found ⊢
        exact found
      · rw [formulaOf_of_no_or fun item member => (isAtom.noJunction item member).2]
        exact isAtom.conjunction
  | group junction children =>
      rw [Condition.isRawFree_group, List.all_eq_true] at rawFree
      exact reads_group normal fun child member formula childNormal =>
        readsAtom_condition (rawFree child member) childNormal

theorem readCondition_of_reads {fragment : Fragment} {items : List Item}
    (reads : FragmentReads fragment items) :
    readCondition (fragment.build .prepared) = formulaOf items := by
  rcases reads with ⟨lexemes, lexes, steps⟩
  have text := lexes [] .nil
  have atEnd := steps [] [] []
  rw [List.append_nil] at text atEnd
  have ended : lex [] = some [] := by rw [lex]
  rw [ended] at text
  simp only [readCondition, Fragment.build, text]
  simp [atEnd]

/-- Reading a prepared condition undoes writing it: whatever the tree, as long as there
is something to be seen in it and nothing raw, what is read is what it says.  The right
side of a comparison is the term that was given, but that a number is not known to be an
integer or a float. -/
theorem read_build {condition : Condition} (rawFree : condition.isRawFree = true)
    (shown : condition.isEmpty = false) :
    (∃ formula, condition.normal = some formula ∧
      readCondition (condition.build .prepared) = some formula) ∧
        forall term : Term, term.rightSide.StandsFor term := by
  refine ⟨?_, Term.rightSide_standsFor⟩
  cases normal : condition.normal with
  | none =>
      rw [condition.normal_eq_none_iff.mp normal] at shown
      cases shown
  | some formula =>
      rcases reads_condition rawFree normal with ⟨items, found, read⟩
      refine ⟨formula, rfl, ?_⟩
      rw [Condition.build, readCondition_of_reads found, read]

/-- Alternatives of which one is empty, one is alone in its group, and one has a list of a
number and a text.  Two of the numbers are fractions, and one of these is negative. -/
def mixedCondition : Condition :=
  .group .or
    [.group .and [],
      .group .and [.compare ⟨.column ⟨some "a", "*"⟩, .notMember, .scalar (.integer (-5))⟩],
      .group .and
        [.compare ⟨.column ⟨none, "\x60 AND "⟩, .like, .list [.integer 7, .text "?"]⟩,
          .compare ⟨.column ⟨none, "b"⟩, .equal, .null⟩,
          .compare ⟨.column ⟨none, "b"⟩, .member, .list []⟩,
          .compare ⟨.column ⟨none, "c"⟩, .greaterThan,
            .scalar (.float ⟨0x4004000000000000⟩)⟩,
          .compare ⟨.column ⟨none, "c"⟩, .member,
            .list [.float ⟨0xbfb999999999999a⟩, .integer 7]⟩]]

theorem read_build_mixedCondition :
    mixedCondition.isRawFree = true ∧ mixedCondition.isEmpty = false ∧
      readCondition (mixedCondition.build .prepared) =
        some (.group .or
          [.compare (.column ⟨some "a", "*"⟩) .notMember (.tuple [.number ⟨true, 5, 0⟩]),
            .group .and
              [.compare (.column ⟨none, "\x60 AND "⟩) .like
                  (.tuple [.value (.integer 7), .value (.text "?")]),
                .isNull (.column ⟨none, "b"⟩) false,
                .constant false,
                .compare (.column ⟨none, "c"⟩) .greaterThan (.single (.number ⟨false, 25, 1⟩)),
                .compare (.column ⟨none, "c"⟩) .member
                  (.tuple [.number ⟨true, 1, 1⟩, .number ⟨false, 7, 0⟩])]]) ∧
      RightSide.StandsFor (.single (.number ⟨false, 25, 1⟩))
        (.scalar (.float ⟨0x4004000000000000⟩)) ∧
      RightSide.StandsFor (.tuple [.number ⟨true, 1, 1⟩, .number ⟨false, 7, 0⟩])
        (.list [.float ⟨0xbfb999999999999a⟩, .integer 7]) := by
  have rawFree : mixedCondition.isRawFree = true := by decide
  have shown : mixedCondition.isEmpty = false := by decide
  rcases read_build rawFree shown with ⟨⟨formula, normal, read⟩, standsFor⟩
  cases normal
  exact ⟨rawFree, shown, read, standsFor (.scalar (.float ⟨0x4004000000000000⟩)),
    standsFor (.list [.float ⟨0xbfb999999999999a⟩, .integer 7])⟩

end Reader
end SelectBuilder
