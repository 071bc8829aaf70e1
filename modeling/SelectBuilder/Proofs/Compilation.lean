import Mathlib.Data.List.Forall2
import SelectBuilder.Filter.Document
import SelectBuilder.Query.Join

namespace SelectBuilder

/-!
# What filters and joins compile to

Compiling keeps what a caller wrote.  Every comparison of a compiled filter
comes from one entry, compares the entry's key and has one of its terms, and
the condition of a planned join is the equality of its keys with such
comparisons behind it.
-/

/-- Two steps succeed when the first one does and the second does with its result. -/
theorem bind_eq_ok {First Second : Type} {step : Except BuildError First}
    {next : First -> Except BuildError Second} {result : Second} :
    (step >>= next) = .ok result ↔ ∃ first, step = .ok first ∧ next first = .ok result := by
  cases step with
  | error error =>
      constructor
      · intro succeeded
        cases succeeded
      · rintro ⟨_, succeeded, _⟩
        cases succeeded
  | ok first =>
      constructor
      · intro succeeded
        exact ⟨first, rfl, succeeded⟩
      · rintro ⟨_, found, succeeded⟩
        cases found
        exact succeeded

theorem map_eq_ok {First Second : Type} {step : Except BuildError First} {change : First -> Second}
    {result : Second} :
    change <$> step = .ok result ↔ ∃ first, step = .ok first ∧ change first = result := by
  rw [map_eq_pure_bind, bind_eq_ok]
  apply exists_congr
  intro first
  exact and_congr_right fun _ => ⟨Except.ok.inj, congrArg Except.ok⟩

/-- A list of attempts succeeds with the results of its members, one by one. -/
theorem mapM_eq_ok_iff {Source Result : Type} {attempt : Source -> Except BuildError Result}
    {sources : List Source} {results : List Result} :
    sources.mapM attempt = .ok results ↔
      List.Forall₂ (fun source result => attempt source = .ok result) sources results := by
  induction sources generalizing results with
  | nil =>
      rw [List.mapM_nil, List.forall₂_nil_left_iff]
      exact ⟨fun same => by cases same; rfl, fun same => same ▸ rfl⟩
  | cons head tail ih =>
      rw [List.mapM_cons, bind_eq_ok, List.forall₂_cons_left_iff]
      constructor
      · rintro ⟨first, attempted, behind⟩
        rcases bind_eq_ok.mp behind with ⟨others, found, same⟩
        cases same
        exact ⟨first, others, attempted, ih.mp found, rfl⟩
      · rintro ⟨first, others, attempted, found, rfl⟩
        exact ⟨first, attempted, bind_eq_ok.mpr ⟨others, ih.mpr found, rfl⟩⟩

/-- Every result of a list of attempts is the result of one of them. -/
theorem exists_of_mem_mapM {Source Result : Type} {attempt : Source -> Except BuildError Result}
    {sources : List Source} {results : List Result} (succeeded : sources.mapM attempt = .ok results)
    {result : Result} (member : result ∈ results) :
    ∃ source, source ∈ sources ∧ attempt source = .ok result := by
  replace succeeded := mapM_eq_ok_iff.mp succeeded
  induction succeeded with
  | nil => cases member
  | @cons source _ _ _ attempted _ ih =>
      rcases List.mem_cons.mp member with rfl | inside
      · exact ⟨source, List.mem_cons_self, attempted⟩
      · rcases ih inside with ⟨other, among, found⟩
        exact ⟨other, List.mem_cons_of_mem _ among, found⟩

/-! ## Failing for the first of several errors -/

/-- An attempt fails if and only if there are errors, and then with the first one. -/
def FailsFor {Result : Type} (attempt : Except BuildError Result) : List BuildError -> Prop
  | [] => ∃ result, attempt = .ok result
  | error :: _ => attempt = .error error

namespace FailsFor

variable {Source Result Behind : Type} {attempt : Except BuildError Result}
  {errors : List BuildError}

theorem eq_error_iff (fails : FailsFor attempt errors) (error : BuildError) :
    attempt = .error error ↔ errors.head? = some error := by
  cases errors with
  | nil =>
      rcases fails with ⟨result, succeeded⟩
      simp [succeeded]
  | cons first rest =>
      rw [FailsFor] at fails
      simp [fails]

theorem exists_ok_iff (fails : FailsFor attempt errors) :
    (∃ result, attempt = .ok result) ↔ errors = [] := by
  cases errors with
  | nil => exact iff_of_true fails rfl
  | cons first rest =>
      rw [FailsFor] at fails
      simp [fails]

theorem exists_error_iff (fails : FailsFor attempt errors) :
    (∃ error, attempt = .error error) ↔ ∃ error, error ∈ errors := by
  cases errors with
  | nil =>
      rcases fails with ⟨result, succeeded⟩
      simp [succeeded]
  | cons first rest => exact iff_of_true ⟨first, fails⟩ ⟨first, List.mem_cons_self⟩

/-- A name that is looked up is at fault if and only if it is not known. -/
theorem lookup {known : String -> Prop} [DecidablePred known] {failure : String -> BuildError}
    {name : String} {found : Option Result}
    (isKnown : (∃ result, found = some result) ↔ known name) :
    FailsFor (found.elim (.error (failure name)) .ok)
      (([name].filter fun name => ¬ known name).map failure) := by
  cases found with
  | some result =>
      have known := isKnown.mp ⟨result, rfl⟩
      simp [known, FailsFor]
  | none =>
      have unknown : ¬ known name := by simp [← isKnown]
      simp [unknown, FailsFor]

/-- What comes behind an attempt counts only when the attempt succeeds. -/
theorem bind (fails : FailsFor attempt errors) {next : Result -> Except BuildError Behind}
    {others : List BuildError}
    (behind : forall result, attempt = .ok result -> FailsFor (next result) others) :
    FailsFor (attempt >>= next) (errors ++ others) := by
  cases errors with
  | nil =>
      rcases fails with ⟨result, succeeded⟩
      have met := behind result succeeded
      rw [succeeded]
      exact met
  | cons first rest =>
      rw [FailsFor] at fails
      rw [fails]
      rfl

/-- What cannot fail itself adds no errors. -/
theorem bind_total (fails : FailsFor attempt errors) {next : Result -> Except BuildError Behind}
    (total : forall result, ∃ behind, next result = .ok behind) :
    FailsFor (attempt >>= next) errors := by
  rw [← List.append_nil errors]
  exact fails.bind fun result _ => total result

theorem map (fails : FailsFor attempt errors) (change : Result -> Behind) :
    FailsFor (change <$> attempt) errors := by
  rw [map_eq_pure_bind]
  exact fails.bind_total fun result => ⟨change result, rfl⟩

/-- One attempt after the other fails for the first error of all. -/
theorem mapM {attempt : Source -> Except BuildError Result} {errors : Source -> List BuildError}
    (fails : forall source, FailsFor (attempt source) (errors source)) (sources : List Source) :
    FailsFor (sources.mapM attempt) (sources.flatMap errors) := by
  induction sources with
  | nil => exact ⟨[], rfl⟩
  | cons head tail ih =>
      rw [List.mapM_cons, List.flatMap_cons]
      apply (fails head).bind
      intro result _
      have behind := ih.map (List.cons result)
      rwa [map_eq_pure_bind] at behind

end FailsFor

/-! ## Filters -/

/-- The terms of an operand, in order. -/
def Operand.terms : Operand -> List Term
  | .term single => [single]
  | .operators entries => entries.map Prod.snd

theorem Operand.mem_terms_of_comparisons {operand : Operand} {compared : List (Operator × Term)}
    (named : operand.comparisons = .ok compared) {comparison : Operator × Term}
    (member : comparison ∈ compared) : comparison.2 ∈ operand.terms := by
  cases operand with
  | term single =>
      have same : comparison.2 = single := by
        cases single <;> cases named <;> rw [List.mem_singleton.mp member]
      rw [same]
      exact List.mem_singleton_self single
  | operators entries =>
      rcases exists_of_mem_mapM named member with ⟨entry, among, found⟩
      rcases bind_eq_ok.mp found with ⟨operator, _, found⟩
      cases found
      exact List.mem_map_of_mem (f := Prod.snd) among

/-- A comparison of a compiled filter is an entry's key, an operator and one of
the entry's terms. -/
theorem Filter.exists_of_mem_compile {filter : Filter} {table : String}
    {conditions : List Condition} (compiled : filter.compile table = .ok conditions)
    {condition : Condition} (member : condition ∈ conditions) :
    ∃ entry, entry ∈ filter.entries ∧ ∃ operator term, term ∈ entry.2.terms ∧
      condition = .compare ⟨entry.1.resolve table, operator, term⟩ := by
  rcases bind_eq_ok.mp compiled with ⟨lists, entries, compiled⟩
  cases compiled
  rcases List.mem_flatten.mp member with ⟨list, among, inside⟩
  rcases exists_of_mem_mapM entries among with ⟨entry, entryMember, found⟩
  rcases bind_eq_ok.mp found with ⟨comparisons, compared, found⟩
  cases found
  rcases List.mem_map.mp inside with ⟨comparison, comparisonMember, rfl⟩
  have termMember := Operand.mem_terms_of_comparisons compared comparisonMember
  exact ⟨entry, entryMember, comparison.1, comparison.2, termMember, rfl⟩

theorem Filter.compileGroup_eq_some {filter : Filter} {table : String} {group : Condition}
    (compiled : filter.compileGroup table = .ok (some group)) :
    ∃ conditions, filter.compile table = .ok conditions ∧ conditions ≠ [] ∧
      group = .group .and conditions := by
  rcases bind_eq_ok.mp compiled with ⟨conditions, found, compiled⟩
  cases conditions with
  | nil => cases compiled
  | cons first rest =>
      cases compiled
      exact ⟨first :: rest, found, List.cons_ne_nil _ _, rfl⟩

/-! ## Joins -/

/-- A join that can be planned has a kind, a fresh alias and two filters in
order, and the plan is made of these. -/
theorem Query.planJoin_eq_ok {query : Query} {table : String} {foreignKey : ForeignKey}
    {options : JoinOptions} {plan : JoinPlan}
    (planned : query.planJoin table foreignKey options = .ok plan) :
    let choice := query.chooseAlias table options.name
    ∃ kind conditions group,
      options.kind.elim (.ok .inner) JoinKind.ofName = .ok kind ∧
      query.aliasInUse choice.aliasName = false ∧
      options.conditions.compile choice.aliasName = .ok conditions ∧
      options.filter.compileGroup choice.aliasName = .ok group ∧
      plan =
        { join := ⟨kind, table, choice.aliasName, .group .and
            (keyCondition (options.source.getD query.base) choice.aliasName foreignKey
              :: conditions)⟩
          nextCounter := choice.nextCounter
          group := group
          columns := options.columns
          groupBy := options.groupBy } := by
  rcases bind_eq_ok.mp planned with ⟨kind, kinds, planned⟩
  cases inUse : query.aliasInUse (query.chooseAlias table options.name).aliasName with
  | true =>
      simp only [inUse, if_true] at planned
      cases planned
  | false =>
      simp only [inUse] at planned
      rcases bind_eq_ok.mp planned with ⟨conditions, compiled, planned⟩
      rcases bind_eq_ok.mp planned with ⟨group, grouped, planned⟩
      cases planned
      exact ⟨kind, conditions, group, kinds, inUse, compiled, grouped, rfl⟩

namespace Query

/-- Planning reads the base table of a query, and the alias that is chosen. -/
theorem planJoin_congr {first second : Query} {table : String} {options : JoinOptions}
    (base : second.base = first.base)
    (choice : second.chooseAlias table options.name = first.chooseAlias table options.name)
    (inUse : second.aliasInUse (first.chooseAlias table options.name).aliasName =
      first.aliasInUse (first.chooseAlias table options.name).aliasName)
    (foreignKey : ForeignKey) :
    second.planJoin table foreignKey options = first.planJoin table foreignKey options := by
  unfold planJoin
  simp only [choice, inUse, base]

section Join

variable {query : Query} {table : String} {foreignKey : ForeignKey} {options : JoinOptions}

theorem join_of_ok {plan : JoinPlan}
    (planned : query.planJoin table foreignKey options = .ok plan) :
    query.join table foreignKey options = .success (query.record plan) := by
  rw [join_eq, planned]

theorem join_of_error {error : BuildError}
    (refused : query.planJoin table foreignKey options = .error error) :
    query.join table foreignKey options = .failure error query := by
  rw [join_eq, refused]

/-- What a join that succeeds has done. -/
theorem exists_plan_of_join (succeeded : (query.join table foreignKey options).result = .ok ()) :
    ∃ plan, query.planJoin table foreignKey options = .ok plan ∧
      query.join table foreignKey options = .success (query.record plan) := by
  cases planned : query.planJoin table foreignKey options with
  | error error =>
      rw [join_of_error planned] at succeeded
      cases succeeded
  | ok plan => exact ⟨plan, rfl, join_of_ok planned⟩

variable (query table foreignKey options)

/-- A join fails if and only if it cannot be planned. -/
theorem result_join :
    (query.join table foreignKey options).result =
      (fun _ => ()) <$> query.planJoin table foreignKey options := by
  rw [join_eq]
  cases query.planJoin table foreignKey options <;> rfl

end Join
end Query
end SelectBuilder
