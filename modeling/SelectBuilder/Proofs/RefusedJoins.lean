import SelectBuilder.Proofs.AliasNumbers
import SelectBuilder.Proofs.FilterMeaning

namespace SelectBuilder

/-!
# Joins that are refused

There are four reasons to refuse a join: a kind that is none, a name that is in use, and a
name of an operator that stands for none, in the conditions or in the filter.  They can be
listed before anything is compiled, and a join fails if and only if the list has a member,
with the first one as its error.

An alias that is found by counting is never on the list.  The search ends at a free number
from wherever it begins, so nothing has to be known about how the query came about.
-/

theorem toList_toLower (word : String) : word.toLower.toList = word.toList.map Char.toLower :=
  String.toList_map

/-- Words are the same when they are so in small letters. -/
theorem sameWord_iff {first second : String} :
    sameWord first second = true ↔ first.toLower = second.toLower := by
  rw [← String.toList_inj, toList_toLower, toList_toLower]
  exact decide_eq_true_iff

namespace JoinKind

/-- The names of the kinds in small letters. -/
def knownNames : List String := ["inner", "left", "right"]

theorem knownNames_eq_map : knownNames = all.map name := rfl

theorem toLower_name (kind : JoinKind) : kind.name.toLower = kind.name := by
  rw [← String.toList_inj, toList_toLower]
  cases kind <;> decide

theorem exists_ofName?_iff {name : String} :
    (∃ kind, ofName? name = some kind) ↔ name.toLower ∈ knownNames := by
  rw [← Option.isSome_iff_exists, ofName?, List.find?_isSome, knownNames_eq_map, List.mem_map]
  simp only [sameWord_iff, toLower_name]

theorem ofName_failsFor (name : String) :
    FailsFor (ofName name)
      (([name].filter fun name => name.toLower ∉ knownNames).map .invalidJoinType) := by
  have looked : ofName name = (ofName? name).elim (.error (.invalidJoinType name)) .ok := by
    unfold ofName
    cases ofName? name <;> rfl
  rw [looked]
  exact .lookup exists_ofName?_iff

end JoinKind

namespace Query

/-- The reasons to refuse a join, in the order in which they count. -/
def joinErrors (query : Query) (options : JoinOptions) : List BuildError :=
  (options.kind.toList.filter fun kind => kind.toLower ∉ JoinKind.knownNames).map
      .invalidJoinType
    ++ (options.name.toList.filter fun name => name ∈ query.base :: query.aliases).map
      .duplicateAlias
    ++ options.conditions.unknownNames.map .invalidOperator
    ++ options.filter.unknownNames.map .invalidOperator

theorem kind_failsFor (kind : Option String) :
    FailsFor (kind.elim (.ok .inner) JoinKind.ofName)
      ((kind.toList.filter fun kind => kind.toLower ∉ JoinKind.knownNames).map
        .invalidJoinType) := by
  cases kind with
  | none => exact ⟨.inner, rfl⟩
  | some name => exact JoinKind.ofName_failsFor name

/-- Only a name of the caller's choice can be in use. -/
theorem aliasErrors_eq (query : Query) (table : String) (name : Option String) :
    (name.toList.filter fun name => name ∈ query.base :: query.aliases).map
        BuildError.duplicateAlias =
      if query.aliasInUse (query.chooseAlias table name).aliasName then
        [.duplicateAlias (query.chooseAlias table name).aliasName]
      else [] := by
  cases name with
  | none =>
      have free := (query.isFree_iff table _).mp (query.isFree_nextNumber table)
      simp only [chooseAlias, free]
      rfl
  | some name =>
      simp only [chooseAlias, query.aliasInUse_eq_true_iff]
      split
      · next taken => simp only [Option.toList_some, List.filter_cons, taken]; rfl
      · next free => simp only [Option.toList_some, List.filter_cons, free]; rfl

theorem planJoin_failsFor (query : Query) (table : String) (foreignKey : ForeignKey)
    (options : JoinOptions) :
    FailsFor (query.planJoin table foreignKey options) (query.joinErrors options) := by
  unfold planJoin joinErrors
  rw [List.append_assoc, List.append_assoc, query.aliasErrors_eq table]
  apply (kind_failsFor options.kind).bind
  intro kind _
  cases inUse : query.aliasInUse (query.chooseAlias table options.name).aliasName with
  | true =>
      simp only [inUse]
      rfl
  | false =>
      simp only [inUse]
      apply (options.conditions.compile_failsFor _).bind
      intro conditions _
      exact (options.filter.compileGroup_failsFor _).bind_total fun group => ⟨_, rfl⟩

theorem join_failsFor (query : Query) (table : String) (foreignKey : ForeignKey)
    (options : JoinOptions) :
    FailsFor (query.join table foreignKey options).result (query.joinErrors options) := by
  rw [result_join]
  exact (query.planJoin_failsFor table foreignKey options).map _

/-- A join is refused if and only if its kind is unknown, or its name is that of the base
table or of a join, or a name in its conditions or in its filter stands for no operator.
The error is about the first of these, in this order.  A join without a name of its own
is never refused for its alias. -/
theorem join_refused_iff (query : Query) (table : String) (foreignKey : ForeignKey)
    (options : JoinOptions) :
    ((∃ error, (query.join table foreignKey options).result = .error error) ↔
      (∃ kind, options.kind = some kind ∧ kind.toLower ∉ JoinKind.knownNames) ∨
        (∃ name, options.name = some name ∧ (name = query.base ∨ name ∈ query.aliases)) ∨
        (∃ name, name ∈ options.conditions.unknownNames) ∨
        ∃ name, name ∈ options.filter.unknownNames) ∧
    (forall error, (query.join table foreignKey options).result = .error error ↔
      (query.joinErrors options).head? = some error) ∧
    (options.name = none -> forall aliasName,
      (query.join table foreignKey options).result ≠ .error (.duplicateAlias aliasName)) := by
  have fails := query.join_failsFor table foreignKey options
  refine ⟨?_, fails.eq_error_iff, ?_⟩
  · rw [fails.exists_error_iff, joinErrors]
    simp [exists_or]
  · intro unnamed aliasName failed
    have first := List.mem_of_head? ((fails.eq_error_iff _).mp failed)
    simp [joinErrors, unnamed] at first

/-- Options with all that a join can be refused for, apart from the kind. -/
def faulty : JoinOptions where
  kind := some "LEFT"
  name := some "u_0"
  conditions := ⟨[(.bare "a", .operators [("in", .null), ("between", .null)])]⟩
  filter := ⟨[(.bare "a", .operators [("within", .null)])]⟩

/-- One fault after the other is mended, behind a join that has the alias. -/
theorem join_refused_iff_faulty :
    let query := (start "t" .prepared none).after [.join "u" ⟨"id", "a"⟩ {}]
    let unnamed : JoinOptions := { faulty with name := none }
    let unconditioned : JoinOptions := { unnamed with conditions := {} }
    (query.joinErrors { faulty with kind := some "outer" }).head? =
        some (.invalidJoinType "outer") ∧
      (query.joinErrors faulty).head? = some (.duplicateAlias "u_0") ∧
      (query.joinErrors unnamed).head? = some (.invalidOperator "between") ∧
      (query.joinErrors unconditioned).head? = some (.invalidOperator "within") ∧
      (forall aliasName,
        (query.join "u" ⟨"id", "a"⟩ unnamed).result ≠ .error (.duplicateAlias aliasName)) := by
  intro query unnamed unconditioned
  have refused (options : JoinOptions) := query.join_refused_iff "u" ⟨"id", "a"⟩ options
  exact ⟨((refused _).2.1 _).mp (by decide), ((refused _).2.1 _).mp (by decide),
    ((refused _).2.1 _).mp (by decide), ((refused _).2.1 _).mp (by decide),
    (refused unnamed).2.2 rfl⟩

end Query
end SelectBuilder
