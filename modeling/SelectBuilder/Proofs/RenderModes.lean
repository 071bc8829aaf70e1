import SelectBuilder.Proofs.BoundValues
import SelectBuilder.Proofs.SideBySide

namespace SelectBuilder

/-!
# One statement in two modes

The mode of a query is read only when the query is built.  So the same calls do
the same to a prepared query and to an inline one, and both are then written
from one template: texts with a value between every two of them.  The template
knows nothing of a formatter.
-/

/-! ## Templates -/

/-- A text, and values with the texts behind them. -/
structure Template where
  first : String
  rest : List (Value × String)

namespace Template

/-- The values of a template in their order. -/
def values (template : Template) : List Value :=
  template.rest.map Prod.fst

/-- The texts of a template with something written for every value between them. -/
def fill (template : Template) (write : Value -> String) : String :=
  template.first ++ String.join (template.rest.map fun hole => write hole.1 ++ hole.2)

def text (sql : String) (template : Template) : Template :=
  ⟨sql ++ template.first, template.rest⟩

def bound (value : Value) (template : Template) : Template :=
  ⟨"", (value, template.first) :: template.rest⟩

theorem fill_text (sql : String) (template : Template) (write : Value -> String) :
    (template.text sql).fill write = sql ++ template.fill write := by
  rw [fill, fill, text, String.append_assoc]

theorem fill_bound (value : Value) (template : Template) (write : Value -> String) :
    (template.bound value).fill write = write value ++ template.fill write := by
  simp [fill, bound, String.append_assoc]

end Template

/-- The template of a fragment: all that stands between two values is one text. -/
def Fragment.template : Fragment -> Template
  | [] => ⟨"", []⟩
  | .text sql :: rest => (template rest).text sql
  | .bound value :: rest => (template rest).bound value

namespace Fragment

theorem sql_eq_fill (mode : RenderMode) (fragment : Fragment) :
    fragment.sql mode = fragment.template.fill fun value => Piece.sql mode (.bound value) := by
  induction fragment with
  | nil => rfl
  | cons piece rest ih =>
      rw [sql_cons, ih]
      cases piece with
      | text sql => rw [template, Template.fill_text, Piece.sql]
      | bound value => rw [template, Template.fill_bound]

theorem values_template (fragment : Fragment) :
    fragment.template.values = fragment.parameters .prepared := by
  induction fragment with
  | nil => rfl
  | cons piece rest ih =>
      rw [parameters_cons, ← ih]
      cases piece <;> rfl

theorem build_prepared (fragment : Fragment) :
    fragment.build .prepared =
      ⟨fragment.template.fill fun _ => "?", fragment.template.values⟩ := by
  rw [build, sql_eq_fill, values_template]
  rfl

theorem build_inline (formatter : Value -> String) (fragment : Fragment) :
    fragment.build (.inline formatter) =
      ⟨fragment.template.fill fun value => "'" ++ formatter value ++ "'", []⟩ := by
  rw [build, sql_eq_fill, parameters_inline]
  rfl

end Fragment

/-! ## The same calls in another mode -/

namespace Query

/-- The same query, to be read in another mode. -/
def inMode (query : Query) (mode : RenderMode) : Query :=
  { query with mode := mode }

/-- Two queries that differ in nothing but the mode of the second one. -/
def OnlyIn (mode : RenderMode) (first second : Query) : Prop :=
  second = first.inMode mode

theorem sharesScopes_onlyIn (mode : RenderMode) : SharesScopes (OnlyIn mode) where
  scopes := by
    rintro first _ rfl
    rfl
  update := by
    rintro first _ rfl conditions scopes
    rfl

theorem OnlyIn.apply {mode : RenderMode} {first second : Query} (same : OnlyIn mode first second)
    (change : Change) : OnlyIn mode (change.apply first) (change.apply second) := by
  cases change with
  | push group =>
      cases group with
      | none => exact same
      | some group => exact (sharesScopes_onlyIn mode).pushCondition same group
  | record plan =>
      apply (sharesScopes_onlyIn mode).record
      subst same
      cases next : plan.nextCounter <;> simp [OnlyIn, attach, inMode, setCounter, next]
  | _ =>
      subst same
      rfl

end Query

/-- No call comes to anything else in another mode. -/
theorem Call.change_inMode (call : Call) (query : Query) (mode : RenderMode) :
    call.change (query.inMode mode) = call.change query := by
  cases call <;> rfl

theorem Simulation.inMode (mode : RenderMode) :
    Simulation .refl (Query.OnlyIn mode) where
  change := by
    rintro first _ call rfl _
    exact (call.change_inMode first mode).trans (id_map (call.change first)).symm
  apply same _ _ := same.apply _
  openScope := (Query.sharesScopes_onlyIn mode).openScope
  closeScope := (Query.sharesScopes_onlyIn mode).closeScope

/-- The calls of a script have the same results on a prepared query and on an
inline one, whatever the formatter, and both statements are one template.  Its
values are the bound values of the joins and of the `WHERE` clause. -/
theorem exists_template (calls : List Call) (base : String) (database : Option String) :
    ∃ template : Template, forall formatter : Value -> String,
      let prepared := Query.start base .prepared database
      let inlined := Query.start base (.inline formatter) database
      (prepared.run calls).Match (Query.OnlyIn (.inline formatter)) (inlined.run calls) ∧
        (prepared.after calls).build = ⟨template.fill fun _ => "?", template.values⟩ ∧
        (inlined.after calls).build =
          ⟨template.fill fun value => "'" ++ formatter value ++ "'", []⟩ ∧
        template.values = (prepared.after calls).onValues ++ (prepared.after calls).whereValues := by
  have preparedMode : ((Query.start base .prepared database).after calls).mode = .prepared :=
    (Query.SameSetup.after _ calls).mode
  refine ⟨((Query.start base .prepared database).after calls).fragment.template, ?_⟩
  intro formatter prepared inlined
  have same : (prepared.run calls).Match (Query.OnlyIn (.inline formatter)) (inlined.run calls) := by
    have start : Query.OnlyIn (.inline formatter) prepared inlined := rfl
    have matching := (Simulation.inMode (.inline formatter)).script .goOn calls start
    rwa [Translation.map_refl] at matching
  have final : inlined.after calls = (prepared.after calls).inMode (.inline formatter) :=
    same.outcome.query
  refine ⟨same, ?_, ?_, ?_⟩
  · rw [Query.build, preparedMode, Fragment.build_prepared]
  · rw [final, Query.build]
    exact Fragment.build_inline formatter (prepared.after calls).fragment
  · rw [Fragment.values_template, Query.parameters_fragment]

end SelectBuilder
