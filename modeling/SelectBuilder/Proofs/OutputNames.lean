import SelectBuilder.Proofs.UniqueAliases

namespace SelectBuilder

/-!
# The output names of joined fields

A field that a join selects is named by the alias of the join, an underscore and the
field.  Aliases are the query's own, but an underscore may stand in them and in fields
as well, so the name does not say where the alias ends.  Two fields still have two names
unless one alias goes on where the other one ends, and the other one's field makes up
for it.
-/

/-- A field that a join selects, by the alias of the join. -/
structure JoinedField where
  aliasName : String
  field : String
deriving DecidableEq, Repr

namespace JoinedField

/-- The name under which the field comes out. -/
def outputName (joined : JoinedField) : String :=
  joined.aliasName ++ "_" ++ joined.field

def selection (joined : JoinedField) : Selection :=
  Query.fieldSelection joined.aliasName joined.field

theorem sql_selection (joined : JoinedField) :
    joined.selection.sql =
      Identifier.qualify (some joined.aliasName) joined.field ++ " AS "
        ++ Identifier.quote joined.outputName := rfl

/-- The alias of the second field goes on behind the alias of the first one and an
underscore, and the first field is the rest of that alias, an underscore and the second
field. -/
def RunsInto (first second : JoinedField) : Prop :=
  ∃ between, second.aliasName = first.aliasName ++ "_" ++ between ∧
    first.field = between ++ "_" ++ second.field

theorem RunsInto.outputName_eq {first second : JoinedField} (runsInto : first.RunsInto second) :
    first.outputName = second.outputName := by
  rcases runsInto with ⟨between, longer, rest⟩
  rw [outputName, outputName, longer, rest]
  simp only [String.append_assoc]

/-- Where one name is the other one and one alias begins the other one, the fields are
the same, or the first one runs into the second one. -/
theorem eq_or_runsInto {first second : JoinedField} {more : List Char}
    (longer : second.aliasName.toList = first.aliasName.toList ++ more)
    (rest : '_' :: first.field.toList = more ++ '_' :: second.field.toList) :
    first = second ∨ first.RunsInto second := by
  cases more with
  | nil =>
      rw [List.append_nil] at longer
      have sameField : first.field = second.field :=
        String.toList_inj.mp (List.cons.inj rest).2
      have sameAlias : first.aliasName = second.aliasName :=
        String.toList_inj.mp longer.symm
      rcases first with ⟨aliasName, field⟩
      rcases second with ⟨otherAlias, otherField⟩
      exact .inl (by rw [JoinedField.mk.injEq]; exact ⟨sameAlias, sameField⟩)
  | cons head between =>
      rcases List.cons.inj rest with ⟨rfl, fieldIs⟩
      refine .inr ⟨String.ofList between, ?_, ?_⟩
      · apply String.toList_inj.mp
        simp [longer]
      · apply String.toList_inj.mp
        simp [fieldIs]

/-- Different fields come out under one name exactly when one of them runs into the
other one. -/
theorem outputName_eq_iff {first second : JoinedField} (different : first ≠ second) :
    first.outputName = second.outputName ↔ first.RunsInto second ∨ second.RunsInto first := by
  constructor
  · intro same
    have glued : first.aliasName.toList ++ '_' :: first.field.toList =
        second.aliasName.toList ++ '_' :: second.field.toList := by
      have characters := congrArg String.toList same
      simpa [outputName] using characters
    rcases List.append_eq_append_iff.mp glued with ⟨more, longer, rest⟩ | ⟨more, longer, rest⟩
    · exact .inl ((eq_or_runsInto longer rest).resolve_left different)
    · exact .inr ((eq_or_runsInto longer rest).resolve_left different.symm)
  · rintro (runsInto | runsInto)
    · exact runsInto.outputName_eq
    · exact runsInto.outputName_eq.symm

end JoinedField

/-! ## The fields that joins have selected -/

/-- A call that holds no others and neither adds fields of a join nor takes any away. -/
def Call.keepsFields : Call -> Bool
  | .join _ _ _ | .selectOnly _ _ | .either _ _ | .tolerate _ => false
  | _ => true

theorem Call.isSimple_of_keepsFields {call : Call} (keeps : call.keepsFields = true) :
    call.IsSimple := by
  cases call with
  | either onFailure body => cases keeps
  | tolerate call => cases keeps
  | _ => trivial

namespace Query

/-- The fields that the joins of a query have selected, in their order, as far as no
later call has taken them back. -/
inductive Traces : Query -> List JoinedField -> Prop where
  | start (base : String) (mode : RenderMode) (database : Option String) :
      Traces (start base mode database) []
  | join {query : Query} {fields : List JoinedField} (table : String) (foreignKey : ForeignKey)
      (options : JoinOptions) :
      (query.join table foreignKey options).result = .ok () -> Traces query fields ->
      Traces (query.join table foreignKey options).query
        (fields ++ options.columns.map
          (JoinedField.mk (query.chooseAlias table options.name).aliasName))
  | selectOnly {query : Query} {fields : List JoinedField} (key : Key)
      (options : ColumnOptions) : Traces query fields -> Traces (query.selectOnly key options) []
  | other {query : Query} {fields : List JoinedField} {call : Call} :
      call.keepsFields = true -> Traces query fields -> Traces (call.run query).query fields
  | openScope {query : Query} {fields : List JoinedField} :
      Traces query fields -> Traces query.openScope fields
  | closeScope {query : Query} {fields : List JoinedField} :
      Traces query fields -> Traces query.closeScope fields

/-- A simple call adds to the trace or starts it anew. -/
theorem Traces.exists_run {query : Query} {fields : List JoinedField}
    (traces : query.Traces fields) {call : Call} (isSimple : call.IsSimple) :
    ∃ behind, (call.run query).query.Traces behind := by
  cases call with
  | join table foreignKey options =>
      cases result : (query.join table foreignKey options).result with
      | ok => exact ⟨_, .join table foreignKey options result traces⟩
      | error error =>
          have unchanged := (Call.join table foreignKey options).query_of_failed query result
          exact ⟨fields, unchanged.symm ▸ traces⟩
  | selectOnly key options => exact ⟨[], .selectOnly key options traces⟩
  | either onFailure body => exact isSimple.elim
  | tolerate call => exact isSimple.elim
  | _ => exact ⟨fields, .other rfl traces⟩

theorem leadsTo_exists_traces : LeadsTo (fun _ => True) fun before behind : Query =>
    (∃ fields, before.Traces fields) -> ∃ fields, behind.Traces fields := by
  refine .ofProperty ?simple ?opened ?closed ?parts
  case simple =>
    intro call query isSimple _ ⟨fields, traces⟩
    exact traces.exists_run isSimple
  case opened => exact fun query ⟨fields, traces⟩ => ⟨fields, traces.openScope⟩
  case closed => exact fun query ⟨fields, traces⟩ => ⟨fields, traces.closeScope⟩
  case parts => exact fun _ _ _ _ => trivial

theorem Reachable.exists_traces {query : Query} (reachable : query.Reachable) :
    ∃ fields, query.Traces fields := by
  refine reachable.holds ?starts ?opened leadsTo_exists_traces
  case starts => exact fun base mode database => ⟨[], .start base mode database⟩
  case opened => exact fun query ⟨fields, traces⟩ => ⟨fields, traces.openScope⟩

/-! ## What is traced is selected -/

/-- The selections before a call that keeps fields are still there behind it. -/
theorem prefix_selections_of_keepsFields {call : Call} (keeps : call.keepsFields = true)
    (query : Query) : query.selections <+: (call.run query).query.selections := by
  have isSimple := call.isSimple_of_keepsFields keeps
  revert keeps
  apply Call.query_run_cases
    (motive := fun call behind => call.keepsFields = true -> query.selections <+: behind.selections)
  case filtered =>
    intro _ _ group _ _ _
    rcases query.exists_pushCondition_eq group with ⟨conditions, scopes, pushed⟩
    have same : (query.pushCondition group).selections = query.selections := by rw [pushed]
    exact same.symm ▸ List.prefix_rfl
  case joined => exact fun _ _ _ _ _ keeps => by cases keeps
  case selected => exact fun _ _ _ => List.prefix_append query.selections _
  case selectedOnly => exact fun _ _ keeps => by cases keeps
  case isSimple => exact isSimple
  all_goals
    intros
    exact List.prefix_rfl

theorem selections_record (query : Query) (plan : JoinPlan) :
    (query.record plan).selections =
      query.selections ++ plan.columns.map (fieldSelection plan.join.aliasName) := by
  rcases query.exists_record_eq plan with ⟨conditions, scopes, recorded⟩
  rw [recorded]
  rfl

/-- The fields stand among the selections, one for one and in their order, and their
joins among the joins. -/
structure Selects (query : Query) (fields : List JoinedField) : Prop where
  selected : (fields.map JoinedField.selection).Sublist query.selections
  joined : forall joined, joined ∈ fields -> joined.aliasName ∈ query.aliases

namespace Selects

variable {query : Query} {fields : List JoinedField}

theorem mono (selects : query.Selects fields) {behind : Query}
    (selections : query.selections <+: behind.selections)
    (aliases : query.aliases <+: behind.aliases) : behind.Selects fields :=
  ⟨selects.selected.trans selections.sublist,
    fun joined member => aliases.subset (selects.joined joined member)⟩

theorem join (selects : query.Selects fields) {table : String} {foreignKey : ForeignKey}
    {options : JoinOptions} (succeeded : (query.join table foreignKey options).result = .ok ()) :
    (query.join table foreignKey options).query.Selects
      (fields ++ options.columns.map
        (JoinedField.mk (query.chooseAlias table options.name).aliasName)) := by
  rcases exists_plan_of_join succeeded with ⟨plan, planned, joined⟩
  rcases planJoin_eq_ok planned with ⟨kind, conditions, group, -, -, -, -, rfl⟩
  rw [joined, Outcome.success]
  constructor
  · rw [selections_record, List.map_append, List.map_map]
    exact selects.selected.append (List.Sublist.refl _)
  · intro joined member
    rw [aliases_record, List.mem_append, List.mem_singleton]
    rcases List.mem_append.mp member with before | new
    · exact .inl (selects.joined joined before)
    · rcases List.mem_map.mp new with ⟨field, _, rfl⟩
      exact .inr rfl

end Selects

theorem Traces.selects {query : Query} {fields : List JoinedField}
    (traces : query.Traces fields) : query.Selects fields := by
  induction traces with
  | start base mode database =>
      exact ⟨List.nil_sublist _, fun _ member => absurd member List.not_mem_nil⟩
  | join table foreignKey options succeeded _ ih => exact ih.join succeeded
  | selectOnly key options _ _ =>
      exact ⟨List.nil_sublist _, fun _ member => absurd member List.not_mem_nil⟩
  | @other query fields call keeps _ ih =>
      exact ih.mono (prefix_selections_of_keepsFields keeps query)
        (leadsTo_prefix_aliases.call call trivial query)
  | openScope _ ih => exact ih.mono List.prefix_rfl List.prefix_rfl
  | @closeScope query fields _ ih =>
      rcases query.exists_closeScope_eq with ⟨conditions, scopes, closed⟩
      rw [closed]
      exact ih.mono List.prefix_rfl List.prefix_rfl

/-- In every reachable query the aliases are different, and the fields that joins have
selected are among the selections, each under its output name.  Two different fields have
different output names, unless one of them runs into the other one; then, and only then,
they have the same. -/
theorem outputNames_of_reachable {query : Query} (reachable : query.Reachable) :
    (∃ fields, query.Traces fields) ∧
      forall fields, query.Traces fields ->
        query.aliases.Nodup ∧
        (fields.map JoinedField.selection).Sublist query.selections ∧
        (forall joined, joined ∈ fields ->
          joined.aliasName ∈ query.aliases ∧
            joined.selection.sql =
              Identifier.qualify (some joined.aliasName) joined.field ++ " AS "
                ++ Identifier.quote joined.outputName) ∧
        forall first second, first ∈ fields -> second ∈ fields -> first ≠ second ->
          (first.outputName = second.outputName ↔
            first.RunsInto second ∨ second.RunsInto first) := by
  refine ⟨reachable.exists_traces, fun fields traces => ?_⟩
  have selects := traces.selects
  exact ⟨(List.nodup_cons.mp reachable.hasDistinctAliases).2, selects.selected,
    fun joined member => ⟨selects.joined joined member, joined.sql_selection⟩,
    fun _ _ _ _ different => JoinedField.outputName_eq_iff different⟩

def userOptions : JoinOptions :=
  { name := some "user", columns := ["group_id", "name"] }

def groupOptions : JoinOptions :=
  { name := some "user_group", columns := ["id", "name"] }

/-- The alias of the second join goes on behind that of the first one. -/
def gluedCalls : List Call :=
  [.join "users" ⟨"id", "user_id"⟩ userOptions, .join "groups" ⟨"id", "group_id"⟩ groupOptions]

def gluedFields : List JoinedField :=
  [⟨"user", "group_id"⟩, ⟨"user", "name"⟩, ⟨"user_group", "id"⟩, ⟨"user_group", "name"⟩]

theorem traces_gluedCalls : ((prepared "posts").after gluedCalls).Traces gluedFields := by
  have users : ((prepared "posts").join "users" ⟨"id", "user_id"⟩ userOptions).query.Traces
      [⟨"user", "group_id"⟩, ⟨"user", "name"⟩] :=
    .join "users" _ userOptions (by rfl) (.start "posts" .prepared none)
  exact .join "groups" ⟨"id", "group_id"⟩ groupOptions (by rfl) users

/-- One name can be that of two fields: distinct aliases are not enough. -/
theorem outputNames_not_distinct :
    let query := (prepared "posts").after gluedCalls
    query.Reachable ∧ query.Traces gluedFields ∧ query.aliases = ["user", "user_group"] ∧
      query.columns =
        ["\x60user\x60.\x60group_id\x60 AS \x60user_group_id\x60",
          "\x60user\x60.\x60name\x60 AS \x60user_name\x60",
          "\x60user_group\x60.\x60id\x60 AS \x60user_group_id\x60",
          "\x60user_group\x60.\x60name\x60 AS \x60user_group_name\x60"] ∧
      ¬ forall first second, first ∈ gluedFields -> second ∈ gluedFields -> first ≠ second ->
        first.outputName ≠ second.outputName := by
  intro query
  have started : (prepared "posts").Reachable := .start "posts" .prepared none
  refine ⟨started.runScript .goOn gluedCalls, traces_gluedCalls, by decide, by decide, ?_⟩
  intro distinct
  exact distinct ⟨"user", "group_id"⟩ ⟨"user_group", "id"⟩ (by decide) (by decide) (by decide)
    (by decide)

/-- In the same query all other names are different. -/
theorem outputNames_of_reachable_gluedCalls :
    let query := (prepared "posts").after gluedCalls
    let first : JoinedField := ⟨"user", "group_id"⟩
    let second : JoinedField := ⟨"user_group", "id"⟩
    query.Reachable ∧ query.Traces gluedFields ∧ query.aliases.Nodup ∧
      (first.outputName = second.outputName ↔ first.RunsInto second ∨ second.RunsInto first) ∧
      first.RunsInto second := by
  intro query first second
  have started : (prepared "posts").Reachable := .start "posts" .prepared none
  have reachable : query.Reachable := started.runScript .goOn gluedCalls
  rcases outputNames_of_reachable reachable with ⟨-, each⟩
  rcases each gluedFields traces_gluedCalls with ⟨distinct, -, -, names⟩
  exact ⟨reachable, traces_gluedCalls, distinct,
    names first second (by decide) (by decide) (by decide), "group", rfl, rfl⟩

end Query
end SelectBuilder
