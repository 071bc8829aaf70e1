import SelectBuilder.Proofs.JoinFeedback

namespace SelectBuilder

/-!
# Unnamed joins of different tables

A numbered alias tells which table it was made for: its number is what stands behind the
last underscore, since there is none in a numeral.  So the joins of one table never take
a number from another one, even if the names of the tables are made to look like it.
Each table goes on with its own next number, and joins of different tables that ask for
nothing else can be made in either order.
-/

/-! ## Numbered aliases -/

section LastMark

variable {Item : Type} {mark : Item} {tail rest : List Item}

theorem eq_nil_of_mark_cons_eq {between : List Item}
    (same : mark :: tail = between ++ mark :: rest) (notTail : mark ∉ tail) : between = [] := by
  cases between with
  | nil => rfl
  | cons head more =>
      rcases List.cons.inj same with ⟨_, rfl⟩
      exact absurd (List.mem_append_right more List.mem_cons_self) notTail

/-- A list has only one last mark. -/
theorem eq_of_append_mark_cons_eq {front other : List Item}
    (same : front ++ mark :: tail = other ++ mark :: rest) (notTail : mark ∉ tail)
    (notRest : mark ∉ rest) : front = other ∧ tail = rest := by
  rcases List.append_eq_append_iff.mp same with ⟨between, rfl, split⟩ | ⟨between, rfl, split⟩
  · cases eq_nil_of_mark_cons_eq split notTail
    exact ⟨(List.append_nil front).symm, (List.cons.inj split).2⟩
  · cases eq_nil_of_mark_cons_eq split notRest
    exact ⟨List.append_nil other, (List.cons.inj split).2.symm⟩

end LastMark

theorem underscore_notMem_repr (number : Nat) : '_' ∉ number.repr.toList := by
  rw [Nat.toList_repr]
  intro member
  exact absurd (Numeral.isDigit_toDigits member) (by decide)

/-- Tables and numbers can be told from their aliases, however the tables are spelled. -/
theorem numberedAlias_eq_iff {table other : String} {number otherNumber : Nat} :
    numberedAlias table number = numberedAlias other otherNumber ↔
      table = other ∧ number = otherNumber := by
  constructor
  · intro same
    have characters := congrArg String.toList same
    simp only [numberedAlias, String.toList_append, List.append_assoc] at characters
    rcases eq_of_append_mark_cons_eq characters (underscore_notMem_repr number)
      (underscore_notMem_repr otherNumber) with ⟨tables, numerals⟩
    exact ⟨String.toList_inj.mp tables, eq_of_repr_eq (String.toList_inj.mp numerals)⟩
  · rintro ⟨rfl, rfl⟩
    rfl

namespace Query

/-! ## The next number of another table -/

/-- An unnamed join of another table takes no number away. -/
theorem nextNumber_record_of_ne {query : Query} (tight : query.CountersTight)
    {table other : String} (different : table ≠ other) {foreignKey : ForeignKey}
    {options : JoinOptions} {plan : JoinPlan}
    (planned : query.planJoin other foreignKey options = .ok plan)
    (unnamed : options.name = none) :
    (query.record plan).nextNumber table = query.nextNumber table := by
  have sameFree : {number | (query.record plan).IsFree table number} =
      {number | query.IsFree table number} := by
    ext number
    rw [Set.mem_ofPred_eq, isFree_record_iff, aliasName_of_unnamed planned unnamed,
      Set.mem_ofPred_eq, and_iff_left]
    intro same
    exact different (numberedAlias_eq_iff.mp same).1
  have least := (tight.record planned).isLeast table
  rw [sameFree] at least
  exact least.unique (tight.isLeast table)

/-- A join of another table, made or refused, is nothing to the next number. -/
theorem nextNumber_join_of_ne {query : Query} (tight : query.CountersTight)
    {table other : String} (different : table ≠ other) {options : JoinOptions}
    (unnamed : options.name = none) (foreignKey : ForeignKey) :
    (query.join other foreignKey options).query.nextNumber table = query.nextNumber table := by
  cases planned : query.planJoin other foreignKey options with
  | error error => rw [join_of_error planned]; rfl
  | ok plan =>
      rw [join_of_ok planned]
      exact nextNumber_record_of_ne tight different planned unnamed

/-- With the same next number, an unnamed join is planned in the same way. -/
theorem planJoin_congr_of_unnamed {first second : Query} {table : String}
    {options : JoinOptions} (base : second.base = first.base)
    (number : second.nextNumber table = first.nextNumber table)
    (unnamed : options.name = none) (foreignKey : ForeignKey) :
    second.planJoin table foreignKey options = first.planJoin table foreignKey options := by
  have firstFree := (first.isFree_iff table _).mp (first.isFree_nextNumber table)
  have secondFree := (second.isFree_iff table _).mp (second.isFree_nextNumber table)
  rw [number] at secondFree
  apply planJoin_congr base
  · rw [unnamed, chooseAlias, chooseAlias, number]
  · rw [unnamed, chooseAlias, firstFree, secondFree]

theorem planJoin_behind_join {query : Query} (tight : query.CountersTight)
    {table other : String} (different : table ≠ other) {options otherOptions : JoinOptions}
    (unnamed : options.name = none) (otherUnnamed : otherOptions.name = none)
    (foreignKey otherKey : ForeignKey) :
    (query.join other otherKey otherOptions).query.planJoin table foreignKey options =
      query.planJoin table foreignKey options := by
  have base : (query.join other otherKey otherOptions).query.base = query.base := by
    have setup := SameSetup.leadsTo.call (.join other otherKey otherOptions) trivial query
    rw [Call.run] at setup
    exact setup.base
  exact planJoin_congr_of_unnamed base
    (nextNumber_join_of_ne tight different otherUnnamed otherKey) unnamed foreignKey

/-- The alias that an unnamed join of this table gets, if it is not refused. -/
def GivesAlias (query : Query) (table aliasName : String) : Prop :=
  forall foreignKey options, options.name = none ->
    (query.join table foreignKey options).result = .ok () ->
      (query.join table foreignKey options).query.aliases = query.aliases ++ [aliasName]

theorem givesAlias_nextNumber (query : Query) (table : String) :
    query.GivesAlias table (numberedAlias table (query.nextNumber table)) := by
  intro foreignKey options unnamed succeeded
  rcases exists_plan_of_join succeeded with ⟨plan, planned, joined⟩
  rw [joined, ← aliasName_of_unnamed planned unnamed]
  exact query.aliases_record plan

/-! ## Two joins in either order -/

theorem setCounter_comm (query : Query) {table other : String} (different : table ≠ other)
    (number otherNumber : Nat) :
    (query.setCounter table number).setCounter other otherNumber =
      (query.setCounter other otherNumber).setCounter table number := by
  unfold setCounter
  congr 1
  funext asked
  by_cases first : asked = table
  · have second : asked ≠ other := first ▸ different
    simp only [if_pos first, if_neg second]
  · simp only [if_neg first]

theorem record_of_bringsNothing (query : Query) {plan : JoinPlan}
    (nothing : plan.BringsNothing) :
    query.record plan = { query with
      joins := query.joins ++ [plan.join]
      counters := (plan.nextCounter.elim query (query.setCounter plan.join.table)).counters } := by
  rcases plan with ⟨join, nextCounter, _, _, _⟩
  rcases nothing with ⟨rfl, rfl, rfl⟩
  cases nextCounter <;> rfl

/-- When joins of different tables are recorded in the other order, only the order of the
joins is another one. -/
theorem record_comm (query : Query) {first second : JoinPlan}
    (firstNothing : first.BringsNothing) (secondNothing : second.BringsNothing)
    (different : first.join.table ≠ second.join.table) :
    (query.record second).record first =
      { (query.record first).record second with
        joins := query.joins ++ [second.join] ++ [first.join] } := by
  simp only [record_of_bringsNothing _ firstNothing, record_of_bringsNothing _ secondNothing]
  congr 1
  cases first.nextCounter with
  | none => cases second.nextCounter <;> rfl
  | some number =>
      cases second.nextCounter with
      | none => rfl
      | some otherNumber =>
          have counters := congrArg Query.counters
            (query.setCounter_comm different.symm otherNumber number)
          exact counters

/-- The query with a join recorded, unless planning it has failed. -/
def recordAny (query : Query) : Except BuildError JoinPlan -> Query
  | .ok plan => query.record plan
  | .error _ => query

theorem query_join (query : Query) (table : String) (foreignKey : ForeignKey)
    (options : JoinOptions) :
    (query.join table foreignKey options).query =
      query.recordAny (query.planJoin table foreignKey options) := by
  rw [join_eq]
  cases query.planJoin table foreignKey options <;> rfl

theorem joins_recordAny (query : Query) (planned : Except BuildError JoinPlan) :
    (query.recordAny planned).joins =
      query.joins ++ (planned.toOption.map JoinPlan.join).toList := by
  cases planned with
  | error error => exact (List.append_nil query.joins).symm
  | ok plan => exact query.joins_record plan

theorem recordAny_comm (query : Query) {first second : Except BuildError JoinPlan}
    (firstNothing : forall plan, first = .ok plan -> plan.BringsNothing)
    (secondNothing : forall plan, second = .ok plan -> plan.BringsNothing)
    (different : forall plan other, first = .ok plan -> second = .ok other ->
      plan.join.table ≠ other.join.table) :
    (query.recordAny second).recordAny first =
      { (query.recordAny first).recordAny second with
        joins := query.joins ++ (second.toOption.map JoinPlan.join).toList
          ++ (first.toOption.map JoinPlan.join).toList } := by
  have joins : query.joins ++ (second.toOption.map JoinPlan.join).toList
      ++ (first.toOption.map JoinPlan.join).toList =
        ((query.recordAny second).recordAny first).joins := by
    rw [joins_recordAny, joins_recordAny]
  cases first with
  | error error => rw [joins]; rfl
  | ok plan =>
      cases second with
      | error error => rw [joins]; rfl
      | ok other =>
          exact query.record_comm (firstNothing plan rfl) (secondNothing other rfl)
            (different plan other rfl rfl)

theorem table_of_planJoin {query : Query} {table : String} {foreignKey : ForeignKey}
    {options : JoinOptions} {plan : JoinPlan}
    (planned : query.planJoin table foreignKey options = .ok plan) : plan.join.table = table := by
  rcases planJoin_eq_ok planned with ⟨kind, conditions, group, -, -, -, -, rfl⟩
  rfl

end Query

/-- Options of a kind, a source and conditions at most. -/
structure JoinOptions.IsSpare (options : JoinOptions) : Prop extends options.BringsNothing where
  unnamed : options.name = none

namespace Query

/-- In a reachable query, an unnamed join of one table leaves the alias that an unnamed
join of another one gets as it is.  Two such joins that ask for a kind, a source and
conditions at most have the same results in either order, record the same joins, and lead
to queries that differ in the order of these two alone. -/
theorem unnamed_joins_commute {query : Query} (reachable : query.Reachable)
    {table other : String} (different : table ≠ other) :
    (forall otherKey otherOptions, otherOptions.name = none -> ∃ aliasName,
      query.GivesAlias table aliasName ∧
        (query.join other otherKey otherOptions).query.GivesAlias table aliasName) ∧
      forall foreignKey options otherKey otherOptions,
        options.IsSpare -> otherOptions.IsSpare ->
        let first := query.join table foreignKey options
        let second := query.join other otherKey otherOptions
        let firstBehind := second.query.join table foreignKey options
        let secondBehind := first.query.join other otherKey otherOptions
        firstBehind.result = first.result ∧ secondBehind.result = second.result ∧
          ∃ join otherJoin : Option Join,
            first.query.joins = query.joins ++ join.toList ∧
              second.query.joins = query.joins ++ otherJoin.toList ∧
              secondBehind.query.joins = query.joins ++ join.toList ++ otherJoin.toList ∧
              firstBehind.query =
                { secondBehind.query with
                  joins := query.joins ++ otherJoin.toList ++ join.toList } := by
  have tight := reachable.countersTight
  constructor
  · intro otherKey otherOptions unnamed
    have given := (query.join other otherKey otherOptions).query.givesAlias_nextNumber table
    rw [nextNumber_join_of_ne tight different unnamed otherKey] at given
    exact ⟨_, query.givesAlias_nextNumber table, given⟩
  · intro foreignKey options otherKey otherOptions spare otherSpare
    have behind := planJoin_behind_join tight different spare.unnamed otherSpare.unnamed
      foreignKey otherKey
    have otherBehind := planJoin_behind_join tight different.symm otherSpare.unnamed
      spare.unnamed otherKey foreignKey
    dsimp only
    refine ⟨?_, ?_, (query.planJoin table foreignKey options).toOption.map JoinPlan.join,
      (query.planJoin other otherKey otherOptions).toOption.map JoinPlan.join, ?_, ?_, ?_, ?_⟩
    · rw [result_join, behind, ← result_join]
    · rw [result_join, otherBehind, ← result_join]
    · rw [query_join, joins_recordAny]
    · rw [query_join, joins_recordAny]
    · rw [query_join, otherBehind, query_join, joins_recordAny, joins_recordAny]
    · rw [query_join _ table, behind, query_join _ other, query_join _ other, otherBehind,
        query_join _ table]
      apply recordAny_comm
      · exact fun _ => bringsNothing_of_planJoin spare.toBringsNothing
      · exact fun _ => bringsNothing_of_planJoin otherSpare.toBringsNothing
      · intro plan otherPlan planned otherPlanned
        rwa [table_of_planJoin planned, table_of_planJoin otherPlanned]

/-- A join under a name that looks like the first alias of another table. -/
def lookalikeCalls : List Call :=
  [.join "x" ⟨"id", "a"⟩ { name := some "a_0_0" }]

/-- The tables `a` and `a_0`: the first alias of the one is spelled like the other. -/
theorem unnamed_joins_commute_lookalikeCalls :
    let query := (start "t" .prepared none).after lookalikeCalls
    let conditioned : JoinOptions :=
      { conditions := ⟨[(.bare "kind", .operators [("not_in", .list [.text "x"])])]⟩ }
    let first := query.join "a" ⟨"id", "a"⟩ conditioned
    let second := query.join "a_0" ⟨"id", "a"⟩ { source := some "a_0_0" }
    let firstBehind := second.query.join "a" ⟨"id", "a"⟩ conditioned
    let secondBehind := first.query.join "a_0" ⟨"id", "a"⟩ { source := some "a_0_0" }
    (∃ aliasName, query.GivesAlias "a" aliasName ∧ second.query.GivesAlias "a" aliasName) ∧
      firstBehind.result = .ok () ∧ secondBehind.result = .ok () ∧
      firstBehind.query.aliases = ["a_0_0", "a_0_1", "a_0"] ∧
      secondBehind.query.aliases = ["a_0_0", "a_0", "a_0_1"] ∧
      ∃ joins, firstBehind.query = { secondBehind.query with joins := joins } := by
  intro query conditioned first second firstBehind secondBehind
  have reachable : query.Reachable :=
    .runScript .goOn (.start "t" .prepared none) lookalikeCalls
  have different : "a" ≠ "a_0" := by decide
  rcases unnamed_joins_commute reachable different with ⟨gives, commute⟩
  rcases commute ⟨"id", "a"⟩ conditioned ⟨"id", "a"⟩ { source := some "a_0_0" }
    ⟨⟨rfl, rfl, rfl⟩, rfl⟩ ⟨⟨rfl, rfl, rfl⟩, rfl⟩ with
    ⟨result, otherResult, join, otherJoin, -, -, -, swapped⟩
  exact ⟨gives ⟨"id", "a"⟩ { source := some "a_0_0" } rfl, result.trans (by decide),
    otherResult.trans (by decide), by decide, by decide, _, swapped⟩

end Query
end SelectBuilder
