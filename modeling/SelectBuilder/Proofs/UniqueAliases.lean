import SelectBuilder.Proofs.AliasNumbers
import SelectBuilder.Proofs.FailedCalls

namespace SelectBuilder

/-!
# The aliases of a query are its own

An alias is chosen by the caller, or it is found by counting, and the one can be
spelled like the other, or like the base table.  Still no two joins have the same
alias, and none has the name of the base table.  The list of aliases grows at its
end, by one with every join.  It gets shorter only where a scope fails, and then it
is again the list from before the scope.
-/

/-! ## What a call has come to -/

/-- The query as it is when a call is about to return: for a scope the one that its
body leaves, with the scope still open, and for any other call the one it was made on. -/
def Call.reached (query : Query) : Call -> Query
  | .either onFailure body => (runScript onFailure query.openScope body).outcome.query
  | .tolerate call => call.reached query
  | _ => query

/-- A scope, which may be tolerated. -/
def Call.isScope : Call -> Bool
  | .either _ _ => true
  | .tolerate call => call.isScope
  | _ => false

theorem Call.reached_of_isSimple {call : Call} (isSimple : call.IsSimple) (query : Query) :
    call.reached query = query := by
  cases call with
  | either onFailure body => exact isSimple.elim
  | tolerate inner => exact isSimple.elim
  | _ => rfl

namespace Query

/-! ## Distinct aliases -/

/-- The base table and the joins all have names of their own. -/
def HasDistinctAliases (query : Query) : Prop :=
  (query.base :: query.aliases).Nodup

theorem HasDistinctAliases.congr {before behind : Query} (distinct : before.HasDistinctAliases)
    (same : SameAliasState before behind) : behind.HasDistinctAliases := by
  rwa [HasDistinctAliases, same.base, same.aliases]

/-- A join can be planned only under a name that is not in use. -/
theorem aliasName_notMem_of_planJoin {query : Query} {table : String} {foreignKey : ForeignKey}
    {options : JoinOptions} {plan : JoinPlan}
    (planned : query.planJoin table foreignKey options = .ok plan) :
    plan.join.aliasName ∉ query.base :: query.aliases := by
  rcases planJoin_eq_ok planned with ⟨kind, conditions, group, -, free, -, -, rfl⟩
  rw [← aliasInUse_eq_true_iff, free]
  exact Bool.false_ne_true

theorem HasDistinctAliases.record {query : Query} (distinct : query.HasDistinctAliases)
    {plan : JoinPlan} (fresh : plan.join.aliasName ∉ query.base :: query.aliases) :
    (query.record plan).HasDistinctAliases := by
  rw [HasDistinctAliases, aliases_record, (SameSetup.record query plan).base, ← List.cons_append,
    ← List.concat_eq_append]
  exact List.Nodup.concat fresh distinct

theorem HasDistinctAliases.leadsTo : LeadsTo (fun _ => True) fun before behind : Query =>
    before.HasDistinctAliases -> behind.HasDistinctAliases := by
  refine .ofProperty ?simple ?opened ?closed ?parts
  case simple =>
    intro call query isSimple _ distinct
    apply Call.query_run_cases (motive := fun _ behind => behind.HasDistinctAliases)
    case unchanged => exact fun _ => distinct
    case filtered => exact fun _ _ group _ _ => distinct.congr (.pushCondition query group)
    case joined =>
      exact fun _ _ _ _ planned => distinct.record (aliasName_notMem_of_planJoin planned)
    case isSimple => exact isSimple
    all_goals
      intros
      exact distinct.congr ⟨rfl, rfl, rfl⟩
  case opened => exact fun query distinct => distinct.congr ⟨rfl, rfl, rfl⟩
  case closed => exact fun query distinct => distinct.congr (.closeScope query)
  case parts => exact fun _ _ _ _ => trivial

theorem Reachable.hasDistinctAliases {query : Query} (reachable : query.Reachable) :
    query.HasDistinctAliases := by
  refine reachable.holds ?starts ?opened HasDistinctAliases.leadsTo
  case starts => exact fun base _ _ => List.nodup_singleton base
  case opened => exact fun query distinct => distinct.congr ⟨rfl, rfl, rfl⟩

/-! ## The list of aliases grows -/

/-- A join that succeeds puts its alias, which is new, behind the others. -/
theorem exists_alias_of_join {query : Query} {table : String} {foreignKey : ForeignKey}
    {options : JoinOptions} (succeeded : (query.join table foreignKey options).result = .ok ()) :
    ∃ aliasName, aliasName ∉ query.base :: query.aliases ∧
      (query.join table foreignKey options).query.aliases = query.aliases ++ [aliasName] := by
  rcases exists_plan_of_join succeeded with ⟨plan, planned, joined⟩
  rw [joined]
  exact ⟨_, aliasName_notMem_of_planJoin planned, query.aliases_record plan⟩

/-- No call leaves fewer aliases than there were when it was made. -/
theorem leadsTo_prefix_aliases : LeadsTo (fun _ => True) fun before behind : Query =>
    before.aliases <+: behind.aliases where
  refl _ := List.prefix_rfl
  trans first second := first.trans second
  simple call query isSimple _ := by
    apply Call.query_run_cases (motive := fun _ behind => query.aliases <+: behind.aliases)
    case filtered =>
      intro _ _ group _ _
      exact (SameAliasState.pushCondition query group).aliases ▸ List.prefix_rfl
    case joined =>
      intro _ _ _ plan _
      rw [aliases_record]
      exact List.prefix_append query.aliases _
    case isSimple => exact isSimple
    all_goals
      intros
      exact List.prefix_rfl
  scope query inside lead := by
    rw [(SameAliasState.closeScope inside).aliases]
    exact lead
  parts _ _ _ _ := trivial

/-- A call that succeeds does not leave fewer aliases than there were when it was
about to return: closing a scope takes none away. -/
theorem prefix_reached_of_ok (call : Call) (query : Query)
    (succeeded : (call.run query).result = .ok ()) :
    (call.reached query).aliases <+: (call.run query).query.aliases := by
  induction call using Call.induction with
  | simple call isSimple =>
      rw [call.reached_of_isSimple isSimple]
      exact leadsTo_prefix_aliases.call call trivial query
  | either onFailure body _ =>
      rw [Call.run] at succeeded ⊢
      unfold settleScope at succeeded ⊢
      cases result : (runScript onFailure query.openScope body).outcome.result with
      | ok =>
          have closed :=
            SameAliasState.closeScope (runScript onFailure query.openScope body).outcome.query
          exact closed.aliases ▸ List.prefix_rfl
      | error error => rw [result] at succeeded; cases succeeded
  | tolerate call ih =>
      rw [Call.run] at succeeded ⊢
      exact ih succeeded

theorem isScope_of_reached_ne {call : Call} {query : Query}
    (different : call.reached query ≠ query) : call.isScope = true := by
  induction call using Call.induction with
  | simple call isSimple => exact absurd (call.reached_of_isSimple isSimple query) different
  | either onFailure body _ => rfl
  | tolerate call ih => exact ih different

/-- Where aliases are lost, a scope has failed. -/
theorem failed_scope_of_fewer_aliases {call : Call} {query : Query}
    (fewer : (call.run query).query.aliases.length < (call.reached query).aliases.length) :
    call.isScope = true ∧ ∃ error, (call.run query).result = .error error := by
  cases result : (call.run query).result with
  | ok =>
      have kept := (prefix_reached_of_ok call query result).length_le
      omega
  | error error =>
      -- The query is the one from before the call, so the call had come further than that.
      have same := call.query_of_failed query result
      have moved : call.reached query ≠ query := by
        intro unmoved
        rw [same, unmoved] at fewer
        exact Nat.lt_irrefl _ fewer
      exact ⟨isScope_of_reached_ne moved, error, rfl⟩

/-- In every reachable query the aliases are different from each other and from the
base table.  A join that succeeds adds one alias at the end.  No call leaves fewer
aliases than it has found, opening a scope changes none, and a call that fails, a scope
too, leaves exactly those it has found.  The only call that has fewer behind it than when
it was about to return is a scope that fails. -/
theorem aliases_of_reachable :
    (forall query : Query, query.Reachable ->
      query.aliases.Nodup ∧ query.base ∉ query.aliases) ∧
      (forall (query : Query) table foreignKey options,
        (query.join table foreignKey options).result = .ok () ->
          ∃ aliasName, aliasName ∉ query.base :: query.aliases ∧
            (query.join table foreignKey options).query.aliases = query.aliases ++ [aliasName]) ∧
      (forall query : Query, query.openScope.aliases = query.aliases) ∧
      (forall (query : Query) (call : Call), query.aliases <+: (call.run query).query.aliases) ∧
      (forall (query : Query) (call : Call) (error : BuildError),
        (call.run query).result = .error error ->
          (call.run query).query.aliases = query.aliases) ∧
      forall (query : Query) (call : Call),
        (call.run query).query.aliases.length < (call.reached query).aliases.length ->
          call.isScope = true ∧ ∃ error, (call.run query).result = .error error := by
  refine ⟨fun query reachable => ?_, fun _ _ _ _ => exists_alias_of_join, fun _ => rfl,
    fun query call => leadsTo_prefix_aliases.call call trivial query,
    fun query call _ failed => congrArg aliases (call.query_of_failed query failed),
    fun _ _ => failed_scope_of_fewer_aliases⟩
  have distinct := List.nodup_cons.mp reachable.hasDistinctAliases
  exact ⟨distinct.2, distinct.1⟩

/-- Names that are spelled like numbered ones, of the base table too, and a scope that
fails behind a join. -/
def rivalCalls : List Call :=
  [.join "t" ⟨"id", "a"⟩ {}, .join "u" ⟨"id", "a"⟩ { name := some "t_1" },
    .join "u" ⟨"id", "a"⟩ { name := some "t_0" },
    .tolerate (.either .stop [.join "t" ⟨"id", "a"⟩ {}, .reject ""]),
    .join "t" ⟨"id", "a"⟩ {}]

/-- A scope that joins a table and fails then. -/
def failingScope : Call :=
  .tolerate (.either .stop [.join "t" ⟨"id", "a"⟩ {}, .reject ""])

theorem aliases_of_reachable_rivalCalls :
    let query := (start "t_0" .prepared none).after rivalCalls
    query.aliases = ["t_1", "t_2"] ∧
      (query.aliases.Nodup ∧ query.base ∉ query.aliases) ∧
      (∃ aliasName, aliasName ∉ query.base :: query.aliases ∧
        (query.join "u" ⟨"id", "a"⟩ {}).query.aliases = query.aliases ++ [aliasName]) ∧
      (failingScope.reached query).aliases = ["t_1", "t_2", "t_3"] ∧
      failingScope.isScope = true ∧ (failingScope.run query).query.aliases = query.aliases := by
  intro query
  have reachable : query.Reachable := .runScript .goOn (.start "t_0" .prepared none) rivalCalls
  have joined : (query.join "u" ⟨"id", "a"⟩ {}).result = .ok () := by rfl
  have longer : (failingScope.reached query).aliases = ["t_1", "t_2", "t_3"] := by decide
  have fewer : (failingScope.run query).query.aliases.length <
      (failingScope.reached query).aliases.length := by decide
  rcases aliases_of_reachable with ⟨distinct, appended, -, -, restored, onlyScopes⟩
  rcases onlyScopes query failingScope fewer with ⟨isScope, error, failed⟩
  exact ⟨by rfl, distinct query reachable, appended query "u" ⟨"id", "a"⟩ {} joined, longer,
    isScope, restored query failingScope error failed⟩

end Query
end SelectBuilder
