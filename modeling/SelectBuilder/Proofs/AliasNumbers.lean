import Mathlib.Data.List.Perm.Subperm
import Mathlib.Data.List.Nodup
import Mathlib.Order.Bounds.Basic
import SelectBuilder.Proofs.Compilation
import SelectBuilder.Proofs.Numeral
import SelectBuilder.Proofs.Reachability
import SelectBuilder.Proofs.SideBySide

namespace SelectBuilder

/-!
# The numbers of unnamed joins

An unnamed join gets the least number whose alias is free.  The search for it
begins at the counter of its table and not at zero, which makes no difference
as long as no number below the counter is free.  Calls keep it so: a counter
moves only behind a number that has just been taken, and where joins are taken
back, the counters are taken back with them.
-/

/-! ## The search -/

theorem numberedAlias_injective (table : String) : Function.Injective (numberedAlias table) := by
  intro first second same
  exact eq_of_repr_eq ((String.append_right_inj (table ++ "_")).mp same)

section Search

variable {inUse : String -> Bool} {table : String}

theorem le_freeNumber (inUse : String -> Bool) (table : String) (skips number : Nat) :
    number ≤ freeNumber inUse table skips number := by
  induction skips generalizing number with
  | zero => exact Nat.le_refl number
  | succ skips ih =>
      rw [freeNumber]
      split
      · exact Nat.le_of_succ_le (ih (number + 1))
      · exact Nat.le_refl number

/-- What the search skips is in use. -/
theorem inUse_of_lt_freeNumber {skips number other : Nat} (since : number ≤ other)
    (before : other < freeNumber inUse table skips number) :
    inUse (numberedAlias table other) = true := by
  induction skips generalizing number with
  | zero =>
      rw [freeNumber] at before
      omega
  | succ skips ih =>
      rw [freeNumber] at before
      split at before
      · next taken =>
          rcases Nat.eq_or_lt_of_le since with same | later
          · rw [← same]
            exact taken
          · exact ih later before
      · omega

/-- A search that ends at a number in use has made all its skips. -/
theorem freeNumber_eq_of_inUse {skips number : Nat}
    (taken : inUse (numberedAlias table (freeNumber inUse table skips number)) = true) :
    freeNumber inUse table skips number = number + skips := by
  induction skips generalizing number with
  | zero => rfl
  | succ skips ih =>
      rw [freeNumber] at taken ⊢
      split
      · next first =>
          rw [if_pos first] at taken
          rw [ih taken]
          omega
      · next free =>
          rw [if_neg free] at taken
          exact absurd taken free

/-- Different numbers make different names, so no more numbers in a row are in use than
there are names that can be. -/
theorem count_le_of_inUse (names : List String)
    (named : forall aliasName, inUse aliasName = true -> aliasName ∈ names) {first count : Nat}
    (taken : forall offset, offset < count -> inUse (numberedAlias table (first + offset)) = true) :
    count ≤ names.length := by
  let run := (List.range count).map fun offset => numberedAlias table (first + offset)
  have distinct : run.Nodup := by
    apply List.Nodup.map _ List.nodup_range
    intro offset other same
    exact Nat.add_left_cancel (numberedAlias_injective table same)
  have allNamed : run ⊆ names := by
    intro aliasName member
    rcases List.mem_map.mp member with ⟨offset, within, rfl⟩
    exact named _ (taken offset (List.mem_range.mp within))
  have bound := (List.subperm_of_subset distinct allNamed).length_le
  rwa [List.length_map, List.length_range] at bound

/-- As many skips as there are names in use are enough: one skip more would take
one name more. -/
theorem not_inUse_freeNumber (names : List String)
    (named : forall aliasName, inUse aliasName = true -> aliasName ∈ names)
    {skips : Nat} (enough : names.length ≤ skips) (number : Nat) :
    inUse (numberedAlias table (freeNumber inUse table skips number)) = false := by
  by_contra taken
  rw [Bool.not_eq_false] at taken
  have last := freeNumber_eq_of_inUse taken
  have allTaken : forall offset, offset < skips + 1 ->
      inUse (numberedAlias table (number + offset)) = true := by
    intro offset within
    rcases Nat.eq_or_lt_of_le (Nat.lt_succ_iff.mp within) with atEnd | before
    · rw [atEnd, ← last]
      exact taken
    · exact inUse_of_lt_freeNumber (Nat.le_add_right number offset) (by rw [last]; omega)
  have count := count_le_of_inUse names named allTaken
  omega

end Search

namespace Query

/-! ## Free numbers -/

/-- The table's alias with this number is neither the base table nor a join. -/
def IsFree (query : Query) (table : String) (number : Nat) : Prop :=
  numberedAlias table number ≠ query.base ∧ numberedAlias table number ∉ query.aliases

theorem aliasInUse_eq_true_iff (query : Query) (aliasName : String) :
    query.aliasInUse aliasName = true ↔ aliasName ∈ query.base :: query.aliases := by
  simp [aliasInUse]

theorem isFree_iff (query : Query) (table : String) (number : Nat) :
    query.IsFree table number ↔ query.aliasInUse (numberedAlias table number) = false := by
  rw [← Bool.not_eq_true, aliasInUse_eq_true_iff, List.mem_cons, not_or]
  rfl

/-- The number that an unnamed join gets is free, wherever the search begins. -/
theorem isFree_nextNumber (query : Query) (table : String) :
    query.IsFree table (query.nextNumber table) := by
  apply (query.isFree_iff table _).mpr
  apply not_inUse_freeNumber (query.base :: query.aliases)
  · exact fun aliasName taken => (query.aliasInUse_eq_true_iff aliasName).mp taken
  · simp [aliases]

/-- No number below a counter is free. -/
def CountersTight (query : Query) : Prop :=
  forall table number, number < query.counters table -> ¬ query.IsFree table number

theorem CountersTight.isLeast {query : Query} (tight : query.CountersTight) (table : String) :
    IsLeast {number | query.IsFree table number} (query.nextNumber table) := by
  refine ⟨query.isFree_nextNumber table, fun number free => ?_⟩
  by_contra below
  rw [Nat.not_le] at below
  rcases Nat.lt_or_ge number (query.counters table) with counted | since
  · exact tight table number counted free
  · have taken := inUse_of_lt_freeNumber since below
    rw [(query.isFree_iff table number).mp free] at taken
    cases taken

/-! ## Counters stay tight -/

/-- What the search for a number reads of a query. -/
structure SameAliasState (before behind : Query) : Prop where
  base : behind.base = before.base
  aliases : behind.aliases = before.aliases
  counters : behind.counters = before.counters

theorem CountersTight.congr {before behind : Query} (tight : before.CountersTight)
    (same : SameAliasState before behind) : behind.CountersTight := by
  intro table number counted free
  rw [same.counters] at counted
  apply tight table number counted
  rwa [IsFree, same.base, same.aliases] at free

theorem SameAliasState.pushCondition (query : Query) (condition : Condition) :
    SameAliasState query (query.pushCondition condition) := by
  rcases query.exists_pushCondition_eq condition with ⟨conditions, scopes, pushed⟩
  rw [pushed]
  exact ⟨rfl, rfl, rfl⟩

theorem SameAliasState.closeScope (query : Query) : SameAliasState query query.closeScope := by
  rcases query.exists_closeScope_eq with ⟨conditions, scopes, closed⟩
  rw [closed]
  exact ⟨rfl, rfl, rfl⟩

/-- The conditions of a join leave its alias and its counter as they are. -/
theorem SameAliasState.record (query : Query) (plan : JoinPlan) :
    SameAliasState (query.attach plan) (query.record plan) := by
  rcases query.exists_record_eq plan with ⟨conditions, scopes, recorded⟩
  rw [recorded]
  exact ⟨rfl, rfl, rfl⟩

theorem aliases_record (query : Query) (plan : JoinPlan) :
    (query.record plan).aliases = query.aliases ++ [plan.join.aliasName] := by
  rw [aliases, joins_record, List.map_append]
  rfl

theorem isFree_record_iff (query : Query) (plan : JoinPlan) (table : String) (number : Nat) :
    (query.record plan).IsFree table number ↔
      query.IsFree table number ∧ numberedAlias table number ≠ plan.join.aliasName := by
  have base : (query.record plan).base = query.base := (SameAliasState.record query plan).base
  rw [IsFree, IsFree, aliases_record, base, List.mem_append, not_or, List.mem_singleton,
    and_assoc]

/-- A named join leaves all counters alone.  An unnamed one moves the counter of
its table behind its own number, and below that one nothing was free. -/
theorem CountersTight.record {query : Query} (tight : query.CountersTight) {table : String}
    {foreignKey : ForeignKey} {options : JoinOptions} {plan : JoinPlan}
    (planned : query.planJoin table foreignKey options = .ok plan) :
    (query.record plan).CountersTight := by
  rcases planJoin_eq_ok planned with ⟨kind, conditions, group, -, -, -, -, rfl⟩
  intro other number counted free
  rw [(SameAliasState.record query _).counters] at counted
  rcases (query.isFree_record_iff _ other number).mp free with ⟨freeBefore, notNew⟩
  cases name : options.name with
  | some chosen =>
      simp only [name, chooseAlias, Query.attach, Option.elim_none] at counted
      exact tight other number counted freeBefore
  | none =>
      simp only [name, chooseAlias, Query.attach, Option.elim_some, setCounter] at counted notNew
      by_cases same : other = table
      · subst same
        rw [if_pos rfl] at counted
        -- Below the new counter nothing was free but the number that is taken now.
        have least := (tight.isLeast other).2 freeBefore
        have atLast : number = query.nextNumber other :=
          Nat.le_antisymm (Nat.lt_succ_iff.mp counted) least
        rw [atLast] at notNew
        exact notNew rfl
      · rw [if_neg same] at counted
        exact tight other number counted freeBefore

theorem CountersTight.leadsTo : LeadsTo (fun _ => True) fun before behind : Query =>
    before.CountersTight -> behind.CountersTight := by
  refine .ofProperty ?simple ?opened ?closed ?parts
  case simple =>
    intro call query isSimple _ tight
    apply Call.query_run_cases (motive := fun _ behind => behind.CountersTight)
    case unchanged => exact fun _ => tight
    case filtered => exact fun _ _ group _ _ => tight.congr (.pushCondition query group)
    case joined =>
      intro table foreignKey options plan planned
      exact tight.record planned
    case isSimple => exact isSimple
    all_goals
      intros
      exact tight.congr ⟨rfl, rfl, rfl⟩
  case opened => exact fun query tight => tight.congr ⟨rfl, rfl, rfl⟩
  case closed => exact fun query tight => tight.congr (.closeScope query)
  case parts => exact fun _ _ _ _ => trivial

theorem Reachable.countersTight {query : Query} (reachable : query.Reachable) :
    query.CountersTight := by
  refine reachable.holds ?starts ?opened CountersTight.leadsTo
  case starts =>
    intro base mode database table number counted
    exact absurd counted (Nat.not_lt_zero number)
  case opened => exact fun query tight => tight.congr ⟨rfl, rfl, rfl⟩

/-! ## Counters do not show -/

/-- Two queries that differ in nothing but their counters. -/
def SameButCounters (first second : Query) : Prop :=
  ∃ counters, second = { first with counters := counters }

/-- Such queries, with no free number below any counter. -/
structure SameAndTight (first second : Query) : Prop where
  same : first.SameButCounters second
  firstTight : first.CountersTight
  secondTight : second.CountersTight

theorem SameAndTight.nextNumber {first second : Query} (alike : SameAndTight first second)
    (table : String) : second.nextNumber table = first.nextNumber table := by
  have sameFree : {number | second.IsFree table number} = {number | first.IsFree table number} := by
    rcases alike.same with ⟨counters, rfl⟩
    rfl
  have least := alike.secondTight.isLeast table
  rw [sameFree] at least
  exact least.unique (alike.firstTight.isLeast table)

/-- Unnamed joins of both get the same number, and nothing else is read. -/
theorem SameAndTight.planJoin {first second : Query} (alike : SameAndTight first second)
    (table : String) (foreignKey : ForeignKey) (options : JoinOptions) :
    second.planJoin table foreignKey options = first.planJoin table foreignKey options := by
  have sameChoice : second.chooseAlias table options.name =
      first.chooseAlias table options.name := by
    unfold chooseAlias
    rw [alike.nextNumber]
  rcases alike.same with ⟨counters, rfl⟩
  apply planJoin_congr
  · rfl
  · exact sameChoice
  · rfl

theorem SameAndTight.change {first second : Query} (alike : SameAndTight first second)
    (call : Call) : call.change second = call.change first := by
  cases call with
  | join table foreignKey options =>
      rw [Call.change, Call.change, alike.planJoin]
  | _ =>
      rcases alike.same with ⟨counters, rfl⟩
      rfl

theorem sharesScopes_sameButCounters : SharesScopes SameButCounters where
  scopes := by
    rintro first _ ⟨counters, rfl⟩
    rfl
  update := by
    rintro first _ ⟨counters, rfl⟩ conditions scopes
    exact ⟨counters, rfl⟩

theorem SameButCounters.apply {first second : Query} (same : SameButCounters first second)
    (change : Change) : SameButCounters (change.apply first) (change.apply second) := by
  cases change with
  | push group =>
      cases group with
      | none => exact same
      | some group => exact sharesScopes_sameButCounters.pushCondition same group
  | record plan =>
      apply sharesScopes_sameButCounters.record
      rcases same with ⟨counters, rfl⟩
      exact ⟨_, rfl⟩
  | _ =>
      rcases same with ⟨counters, rfl⟩
      exact ⟨counters, rfl⟩

/-- A change that a call comes to keeps the counters tight, as the call does. -/
theorem CountersTight.apply {query : Query} (tight : query.CountersTight) {call : Call}
    (isSimple : call.IsSimple) {change : Change} (come : call.change query = .ok change) :
    (change.apply query).CountersTight := by
  have behind := leadsTo.call call trivial query tight
  rwa [Call.run_eq_make query isSimple, come] at behind

theorem simulation_sameAndTight : Simulation .refl SameAndTight where
  change := by
    intro first second call alike _
    exact (alike.change call).trans (id_map (call.change first)).symm
  apply := by
    intro first second call change alike isSimple come
    have comeToo := (alike.change call).trans come
    exact ⟨alike.same.apply change, alike.firstTight.apply isSimple come,
      alike.secondTight.apply isSimple comeToo⟩
  openScope := by
    intro first second alike
    exact ⟨sharesScopes_sameButCounters.openScope alike.same,
      alike.firstTight.congr ⟨rfl, rfl, rfl⟩, alike.secondTight.congr ⟨rfl, rfl, rfl⟩⟩
  closeScope := by
    intro first second alike
    exact ⟨sharesScopes_sameButCounters.closeScope alike.same,
      alike.firstTight.congr (.closeScope first), alike.secondTight.congr (.closeScope second)⟩

theorem aliasName_of_unnamed {query : Query} {table : String} {foreignKey : ForeignKey}
    {options : JoinOptions} {plan : JoinPlan}
    (planned : query.planJoin table foreignKey options = .ok plan) (unnamed : options.name = none) :
    plan.join.aliasName = numberedAlias table (query.nextNumber table) := by
  rcases planJoin_eq_ok planned with ⟨kind, conditions, group, -, -, -, -, rfl⟩
  simp only [unnamed, chooseAlias]

/-- A join that asks for nothing more cannot fail: there is always a free number. -/
theorem result_join_plain (query : Query) (table : String) (foreignKey : ForeignKey) :
    (query.join table foreignKey {}).result = .ok () := by
  have free := (query.isFree_iff table _).mp (query.isFree_nextNumber table)
  rw [join_eq]
  unfold planJoin
  simp only [chooseAlias, free]
  rfl

/-- In every reachable query an unnamed join that succeeds gets the least free
number of its table.  The counters therefore never show: from two reachable
queries that differ in nothing else, every script has the same results and
leads to queries that still differ in nothing else, with the same aliases. -/
theorem unnamed_join_isLeast :
    (forall query : Query, query.Reachable ->
      forall table foreignKey options, options.name = none ->
        (query.join table foreignKey options).result = .ok () ->
          ∃ number, IsLeast {number | query.IsFree table number} number ∧
            (query.join table foreignKey options).query.aliases =
              query.aliases ++ [numberedAlias table number]) ∧
      forall first second : Query, first.Reachable -> second.Reachable ->
        SameButCounters first second -> forall onFailure calls,
          (runScript onFailure first calls).Match SameButCounters
            (runScript onFailure second calls) := by
  constructor
  · intro query reachable table foreignKey options unnamed succeeded
    refine ⟨query.nextNumber table, reachable.countersTight.isLeast table, ?_⟩
    rcases exists_plan_of_join succeeded with ⟨plan, planned, joined⟩
    rw [joined, ← aliasName_of_unnamed planned unnamed]
    exact query.aliases_record plan
  · intro first second firstReachable secondReachable same onFailure calls
    have alike : SameAndTight first second :=
      ⟨same, firstReachable.countersTight, secondReachable.countersTight⟩
    have runs := simulation_sameAndTight.script onFailure calls alike
    rw [Translation.map_refl] at runs
    exact runs.imp fun _ _ alike => alike.same

def numberedJoin : List Call := [.join "u" ⟨"id", "a"⟩ {}]

def namedLikeNumbered : List Call := [.join "u" ⟨"id", "a"⟩ { name := some "u_0" }]

/-- A caller has chosen the name that the other query has found by counting. -/
theorem unnamed_join_isLeast_namedLikeNumbered :
    let first := (start "t" .prepared none).after numberedJoin
    let second := (start "t" .prepared none).after namedLikeNumbered
    first.counters "u" = 1 ∧ second.counters "u" = 0 ∧ SameButCounters first second ∧
      (second.join "u" ⟨"id", "a"⟩ {}).result = .ok () ∧
      (∃ number, IsLeast {number | second.IsFree "u" number} number ∧
        (second.join "u" ⟨"id", "a"⟩ {}).query.aliases =
          second.aliases ++ [numberedAlias "u" number]) ∧
      (runScript .goOn first numberedJoin).Match SameButCounters
        (runScript .goOn second numberedJoin) := by
  intro first second
  have started : (start "t" .prepared none).Reachable := .start "t" .prepared none
  have firstReachable : first.Reachable := started.runScript .goOn numberedJoin
  have secondReachable : second.Reachable := started.runScript .goOn namedLikeNumbered
  have same : SameButCounters first second := ⟨_, rfl⟩
  have joins : (second.join "u" ⟨"id", "a"⟩ {}).result = .ok () :=
    second.result_join_plain "u" ⟨"id", "a"⟩
  exact ⟨by decide, by decide, same, joins,
    unnamed_join_isLeast.1 second secondReachable "u" ⟨"id", "a"⟩ {} rfl joins,
    unnamed_join_isLeast.2 first second firstReachable secondReachable same .goOn numberedJoin⟩

end Query
end SelectBuilder
