import SelectBuilder.Proofs.Compilation

namespace SelectBuilder

/-!
# What filters ask for

What a filter asks for can be said without compiling it.  An entry is about one target.
Its term asks for one comparison, or its terms under names for one each, by the operators
that the names stand for.  Where a name stands for none, the filter as a whole asks for
nothing that could be compiled, and the first such name is the error.

Compiling is compared with this description: the comparisons are the same ones in the
same order, and there are none if and only if the filter holds no term at all.
-/

/-! ## What a filter asks for -/

/-- The names of operators, and the operators that they stand for. -/
def Operator.vocabulary : List (String × Operator) :=
  [("equal", .equal), ("not_equal", .notEqual), ("less_than", .lessThan),
    ("less_than_or_equal_to", .lessOrEqual), ("greater_than", .greaterThan),
    ("greater_than_or_equal_to", .greaterOrEqual), ("in", .member), ("not_in", .notMember),
    ("like", .like), ("not_like", .notLike)]

def Operator.knownNames : List String :=
  vocabulary.map Prod.fst

/-- The target that a key means where this table is at hand. -/
inductive Key.Means (table : String) : Key -> Target -> Prop where
  | bare (name : String) : Means table (.bare name) (.column ⟨some table, name⟩)
  | qualified (other name : String) :
      Means table (.qualified other name) (.column ⟨some other, name⟩)
  | raw (sql : String) : Means table (.raw sql) (.raw sql)

/-- The comparisons that an operand asks for.  A term alone says by its form how it is
to be compared, and terms under names are compared as their names say. -/
inductive Operand.Asks : Operand -> List (Operator × Term) -> Prop where
  | membership (values : List Value) : Asks (.term (.list values)) [(.member, .list values)]
  | equality {single : Term} (notList : forall values, single ≠ .list values) :
      Asks (.term single) [(.equal, single)]
  | named {entries : List (String × Term)} {asked : List (Operator × Term)}
      (each : List.Forall₂ (fun entry comparison =>
        (entry.1, comparison.1) ∈ Operator.vocabulary ∧ comparison.2 = entry.2) entries asked) :
      Asks (.operators entries) asked

/-- The comparisons that a filter asks for, entry by entry.  All those of one entry are
about one target. -/
inductive Filter.Asks (table : String) : Filter -> List Comparison -> Prop where
  | nothing : Asks table {} []
  | entry {key : Key} {operand : Operand} {rest : List (Key × Operand)} {target : Target}
      {asked : List (Operator × Term)} {others : List Comparison}
      (means : key.Means table target) (asks : operand.Asks asked)
      (behind : Asks table ⟨rest⟩ others) :
      Asks table ⟨(key, operand) :: rest⟩
        (asked.map (fun comparison => ⟨target, comparison.1, comparison.2⟩) ++ others)

/-- The names under which an operand has terms, in their order. -/
def Operand.operatorNames : Operand -> List String
  | .term _ => []
  | .operators entries => entries.map Prod.fst

/-- The names of operators in a filter, entry by entry. -/
def Filter.operatorNames (filter : Filter) : List String :=
  filter.entries.flatMap fun entry => entry.2.operatorNames

/-- The names in a filter that stand for no operator. -/
def Filter.unknownNames (filter : Filter) : List String :=
  filter.operatorNames.filter fun name => name ∉ Operator.knownNames

/-! ## Names -/

namespace Operator

theorem vocabulary_eq_map : vocabulary = all.map fun operator => (operator.name, operator) := rfl

theorem mem_vocabulary_iff {name : String} {operator : Operator} :
    (name, operator) ∈ vocabulary ↔ operator.name = name := by
  rw [vocabulary_eq_map, List.mem_map]
  constructor
  · rintro ⟨other, _, same⟩
    cases same
    rfl
  · rintro rfl
    exact ⟨operator, operator.mem_all, rfl⟩

theorem ofName?_eq_some_iff {name : String} {operator : Operator} :
    ofName? name = some operator ↔ operator.name = name := by
  constructor
  · intro found
    simpa using List.find?_some found
  · rintro rfl
    exact ofName?_name operator

theorem ofName_eq_ok_iff {name : String} {operator : Operator} :
    ofName name = .ok operator ↔ (name, operator) ∈ vocabulary := by
  rw [mem_vocabulary_iff, ← ofName?_eq_some_iff, ofName]
  cases ofName? name <;> simp

theorem mem_knownNames_iff {name : String} :
    name ∈ knownNames ↔ ∃ operator, ofName? name = some operator := by
  simp only [knownNames, List.mem_map, ofName?_eq_some_iff]
  constructor
  · rintro ⟨⟨_, operator⟩, member, rfl⟩
    exact ⟨operator, mem_vocabulary_iff.mp member⟩
  · rintro ⟨operator, named⟩
    exact ⟨(name, operator), mem_vocabulary_iff.mpr named, rfl⟩

theorem ofName_failsFor (name : String) :
    FailsFor (ofName name)
      (([name].filter fun name => name ∉ knownNames).map .invalidOperator) := by
  have looked : ofName name = (ofName? name).elim (.error (.invalidOperator name)) .ok := by
    unfold ofName
    cases ofName? name <;> rfl
  rw [looked]
  exact .lookup mem_knownNames_iff.symm

end Operator

/-! ## Compiling -/

theorem Key.means_iff {key : Key} {table : String} {target : Target} :
    key.Means table target ↔ key.resolve table = target := by
  constructor
  · intro means
    cases means <;> rfl
  · rintro rfl
    cases key with
    | bare name => exact .bare name
    | qualified other name => exact .qualified other name
    | raw sql => exact .raw sql

theorem Operand.comparisons_eq_ok_iff {operand : Operand} {asked : List (Operator × Term)} :
    operand.comparisons = .ok asked ↔ operand.Asks asked := by
  cases operand with
  | term single =>
      constructor
      · intro compared
        cases single with
        | list values => cases compared; exact .membership values
        | _ => cases compared; exact .equality fun _ same => by cases same
      · intro asks
        cases asks with
        | membership values => rfl
        | equality notList =>
            cases single with
            | list values => exact absurd rfl (notList values)
            | _ => rfl
  | operators entries =>
      have each (entry : String × Term) (comparison : Operator × Term) :
          (do return (← Operator.ofName entry.1, entry.2) : Except BuildError _) = .ok comparison ↔
            (entry.1, comparison.1) ∈ Operator.vocabulary ∧ comparison.2 = entry.2 := by
        rw [bind_eq_ok, ← Operator.ofName_eq_ok_iff]
        constructor
        · rintro ⟨operator, found, same⟩
          cases same
          exact ⟨found, rfl⟩
        · rintro ⟨found, same⟩
          exact ⟨comparison.1, found, by rw [← same]; rfl⟩
      rw [comparisons, mapM_eq_ok_iff]
      simp only [each]
      exact ⟨.named, fun | .named each => each⟩

theorem Operand.comparisons_failsFor (operand : Operand) :
    FailsFor operand.comparisons
      ((operand.operatorNames.filter fun name => name ∉ Operator.knownNames).map
        .invalidOperator) := by
  cases operand with
  | term single => cases single <;> exact ⟨_, rfl⟩
  | operators entries =>
      have each (entry : String × Term) :
          FailsFor (do return (← Operator.ofName entry.1, entry.2))
            (([entry.1].filter fun name => name ∉ Operator.knownNames).map .invalidOperator) := by
        have named := (Operator.ofName_failsFor entry.1).map fun operator => (operator, entry.2)
        rwa [map_eq_pure_bind] at named
      have all := FailsFor.mapM each entries
      rwa [← List.map_flatMap, ← List.filter_flatMap, ← List.map_eq_flatMap] at all

namespace Filter

theorem compileEntry_failsFor (table : String) (entry : Key × Operand) :
    FailsFor (compileEntry table entry)
      ((entry.2.operatorNames.filter fun name => name ∉ Operator.knownNames).map
        .invalidOperator) := by
  have compiled := entry.2.comparisons_failsFor.map fun comparisons =>
    comparisons.map fun comparison =>
      Condition.compare ⟨entry.1.resolve table, comparison.1, comparison.2⟩
  rwa [map_eq_pure_bind] at compiled

theorem compile_failsFor (filter : Filter) (table : String) :
    FailsFor (filter.compile table) (filter.unknownNames.map .invalidOperator) := by
  have compiled := (FailsFor.mapM (compileEntry_failsFor table) filter.entries).map List.flatten
  rwa [map_eq_pure_bind, ← List.map_flatMap, ← List.filter_flatMap] at compiled

theorem compileGroup_failsFor (filter : Filter) (table : String) :
    FailsFor (filter.compileGroup table) (filter.unknownNames.map .invalidOperator) := by
  apply (filter.compile_failsFor table).bind_total
  rintro (_ | ⟨first, rest⟩)
  · exact ⟨none, rfl⟩
  · exact ⟨some (.group .and (first :: rest)), rfl⟩

/-- A filter behind another one is compiled behind it. -/
theorem compile_append (first second : Filter) (table : String) :
    (first ++ second).compile table =
      do return (← first.compile table) ++ (← second.compile table) := by
  simp only [compile, entries_append, List.mapM_append]
  rcases first.entries.mapM (compileEntry table) with error | front
  · rfl
  · rcases second.entries.mapM (compileEntry table) with error | behind
    · rfl
    · exact congrArg Except.ok List.flatten_append

theorem compile_cons (entry : Key × Operand) (rest : List (Key × Operand)) (table : String) :
    compile table ⟨entry :: rest⟩ =
      do return (← compileEntry table entry) ++ (← compile table ⟨rest⟩) := by
  simp only [compile, List.mapM_cons]
  rcases compileEntry table entry with error | front
  · rfl
  · rcases rest.mapM (compileEntry table) with error | behind <;> rfl

theorem compile_cons_eq_ok_iff {entry : Key × Operand} {rest : List (Key × Operand)}
    {table : String} {conditions : List Condition} :
    compile table ⟨entry :: rest⟩ = .ok conditions ↔
      ∃ front behind, compileEntry table entry = .ok front ∧ compile table ⟨rest⟩ = .ok behind ∧
        conditions = front ++ behind := by
  rw [compile_cons, bind_eq_ok]
  constructor
  · rintro ⟨front, found, compiled⟩
    rcases bind_eq_ok.mp compiled with ⟨behind, others, same⟩
    exact ⟨front, behind, found, others, (Except.ok.inj same).symm⟩
  · rintro ⟨front, behind, found, others, rfl⟩
    exact ⟨front, found, bind_eq_ok.mpr ⟨behind, others, rfl⟩⟩

theorem compileEntry_eq_ok_iff {table : String} {key : Key} {operand : Operand}
    {conditions : List Condition} :
    compileEntry table (key, operand) = .ok conditions ↔
      ∃ target asked, key.Means table target ∧ operand.Asks asked ∧
        conditions = (asked.map fun comparison =>
          (⟨target, comparison.1, comparison.2⟩ : Comparison)).map .compare := by
  rw [compileEntry, bind_eq_ok]
  constructor
  · rintro ⟨asked, compared, same⟩
    cases same
    refine ⟨key.resolve table, asked, Key.means_iff.mpr rfl,
      Operand.comparisons_eq_ok_iff.mp compared, ?_⟩
    rw [List.map_map]
    rfl
  · rintro ⟨target, asked, means, asks, rfl⟩
    refine ⟨asked, Operand.comparisons_eq_ok_iff.mpr asks, ?_⟩
    rw [List.map_map, ← Key.means_iff.mp means]
    rfl

/-- A filter compiles to the comparisons that it asks for. -/
theorem compile_eq_ok_iff {filter : Filter} {table : String} {conditions : List Condition} :
    filter.compile table = .ok conditions ↔
      ∃ comparisons, filter.Asks table comparisons ∧ conditions = comparisons.map .compare := by
  rcases filter with ⟨entries⟩
  induction entries generalizing conditions with
  | nil =>
      constructor
      · intro compiled
        cases compiled
        exact ⟨[], .nothing, rfl⟩
      · rintro ⟨_, asks, rfl⟩
        cases asks
        rfl
  | cons entry rest ih =>
      rw [compile_cons_eq_ok_iff]
      constructor
      · rintro ⟨front, behind, found, others, rfl⟩
        rcases compileEntry_eq_ok_iff.mp found with ⟨target, asked, means, asks, rfl⟩
        rcases ih.mp others with ⟨comparisons, asksBehind, rfl⟩
        exact ⟨_, .entry means asks asksBehind, List.map_append.symm⟩
      · rintro ⟨_, asks, rfl⟩
        cases asks with
        | entry means asks asksBehind =>
            exact ⟨_, _, compileEntry_eq_ok_iff.mpr ⟨_, _, means, asks, rfl⟩,
              ih.mpr ⟨_, asksBehind, rfl⟩, List.map_append⟩

theorem compileEntry_eq_ok_nil_iff (table : String) {entry : Key × Operand} :
    compileEntry table entry = .ok [] ↔ entry.2 = .operators [] := by
  rcases entry with ⟨key, operand⟩
  rw [compileEntry_eq_ok_iff]
  constructor
  · rintro ⟨target, asked, _, asks, none⟩
    rw [List.map_map, List.nil_eq, List.map_eq_nil_iff] at none
    subst none
    cases asks with
    | named each => rw [List.forall₂_nil_right_iff.mp each]
  · intro same
    cases same
    exact ⟨key.resolve table, [], Key.means_iff.mpr rfl, .named .nil, rfl⟩

/-- Only entries without terms ask for nothing. -/
theorem compile_eq_ok_nil_iff {filter : Filter} {table : String} :
    filter.compile table = .ok [] ↔
      forall entry, entry ∈ filter.entries -> entry.2 = .operators [] := by
  rcases filter with ⟨entries⟩
  induction entries with
  | nil => exact iff_of_true rfl (List.forall_mem_nil _)
  | cons entry rest ih =>
      rw [List.forall_mem_cons, ← compileEntry_eq_ok_nil_iff table, ← ih, compile_cons_eq_ok_iff]
      constructor
      · rintro ⟨front, behind, found, others, none⟩
        rcases List.append_eq_nil_iff.mp none.symm with ⟨rfl, rfl⟩
        exact ⟨found, others⟩
      · rintro ⟨found, others⟩
        exact ⟨[], [], found, others, rfl⟩

theorem compileGroup_eq_ok_none_iff {filter : Filter} {table : String} :
    filter.compileGroup table = .ok none ↔ filter.compile table = .ok [] := by
  rw [compileGroup, bind_eq_ok]
  constructor
  · rintro ⟨conditions, compiled, grouped⟩
    cases conditions with
    | nil => exact compiled
    | cons first rest => cases grouped
  · exact fun compiled => ⟨[], compiled, rfl⟩

/-- A filter compiles if and only if all its names are known, and then to the comparisons
that it asks for.  Otherwise the error is about the first unknown name.  A filter behind
another one is compiled behind it, and only entries without terms leave no group. -/
theorem compile_exact (table : String) :
    (forall (filter : Filter) (conditions : List Condition),
      filter.compile table = .ok conditions ↔
        ∃ comparisons, filter.Asks table comparisons ∧ conditions = comparisons.map .compare) ∧
    (forall filter : Filter, (∃ conditions, filter.compile table = .ok conditions) ↔
      forall name, name ∈ filter.operatorNames -> name ∈ Operator.knownNames) ∧
    (forall (filter : Filter) (error : BuildError), filter.compile table = .error error ↔
      ∃ name, filter.unknownNames.head? = some name ∧ error = .invalidOperator name) ∧
    (forall first second : Filter, (first ++ second).compile table =
      match first.compile table, second.compile table with
      | .error error, _ => .error error
      | .ok _, .error error => .error error
      | .ok front, .ok behind => .ok (front ++ behind)) ∧
    forall filter : Filter, filter.compileGroup table = .ok none ↔
      forall entry, entry ∈ filter.entries -> entry.2 = .operators [] := by
  refine ⟨fun _ _ => compile_eq_ok_iff, fun filter => ?_, fun filter error => ?_,
    fun first second => ?_, fun _ => compileGroup_eq_ok_none_iff.trans compile_eq_ok_nil_iff⟩
  · rw [(filter.compile_failsFor table).exists_ok_iff, List.map_eq_nil_iff, unknownNames]
    simp
  · rw [(filter.compile_failsFor table).eq_error_iff, List.head?_map, Option.map_eq_some_iff]
    exact exists_congr fun name => and_congr_right fun _ => eq_comm
  · rw [compile_append]
    cases first.compile table <;> cases second.compile table <;> rfl

/-- Keys of each kind, one of them twice, and a list beside a list under a name. -/
def assorted : Filter :=
  ⟨[(.bare "a", .term (.list [.bool true])), (.qualified "u" "b", .operators [("in", .null)]),
    (.bare "a", .operators []), (.raw "?", .operators [("like", .raw "?"), ("not_in", .list [])])]⟩

def assortedComparisons : List Comparison :=
  [⟨.column ⟨some "t", "a"⟩, .member, .list [.bool true]⟩,
    ⟨.column ⟨some "u", "b"⟩, .member, .null⟩, ⟨.raw "?", .like, .raw "?"⟩,
    ⟨.raw "?", .notMember, .list []⟩]

/-- Two entries that each have a name of no operator, the first one behind a good one. -/
def misnamed : Filter :=
  ⟨[(.bare "a", .operators [("equal", .null), ("Equal", .null)]),
    (.bare "a", .operators [("", .null)])]⟩

theorem compile_exact_assorted :
    assorted.Asks "t" assortedComparisons ∧
      (misnamed ++ assorted).unknownNames.head? = some "Equal" ∧
      (assorted ++ misnamed).compile "t" = .error (.invalidOperator "Equal") ∧
      assorted.compileGroup "t" ≠ .ok none := by
  rcases compile_exact "t" with ⟨asked, -, failed, appended, grouped⟩
  have compiled : assorted.compile "t" = .ok (assortedComparisons.map .compare) := by rfl
  have refused : misnamed.compile "t" = .error (.invalidOperator "Equal") := by rfl
  have front : (misnamed ++ assorted).compile "t" = .error (.invalidOperator "Equal") := by
    rw [appended, refused]
  have behind : (assorted ++ misnamed).compile "t" = .error (.invalidOperator "Equal") := by
    rw [appended, compiled, refused]
  refine ⟨?_, ?_, behind, fun none => ?_⟩
  · rcases (asked _ _).mp compiled with ⟨comparisons, asks, same⟩
    have injective : Function.Injective Condition.compare := fun _ _ => Condition.compare.inj
    rwa [List.map_injective_iff.mpr injective same]
  · rcases (failed _ _).mp front with ⟨name, first, same⟩
    cases same
    exact first
  · have nothing := (grouped assorted).mp none _ List.mem_cons_self
    cases nothing

end Filter
end SelectBuilder
