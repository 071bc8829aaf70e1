import SelectBuilder.Proofs.BoundValues
import SelectBuilder.Proofs.RawFree
import SelectBuilder.Proofs.ScannedQuery

namespace SelectBuilder

/-!
# Lexical safety

Names and values may be any texts, with marks, quotes and question marks in
them.  In the statement of a raw-free script they still cannot be taken for
anything else, nor anything else for them: the scanner finds exactly the names
that the query mentions and exactly the values that it binds.  All the rest is
made of characters that neither open nor end anything.
-/

namespace Scanner

/-- Characters that would open a name, a literal or a comment, or end a statement. -/
def harmful : List Char :=
  [Quote.name.mark, Quote.literal.mark, '"', ';', '#', '/', '\\', '?', '\n']

theorem not_harmful_of_isPlain {character : Char} (plain : isPlain character = true) :
    character ∉ harmful := by
  have each : harmful.all (!isPlain ·) = true := by decide
  intro member
  have notPlain := List.all_eq_true.mp each character member
  rw [plain] at notPlain
  cases notPlain

/-- The scanner gets to the end of the statement.  On its way it finds these
names and these values, in this order, and nothing else but plain characters;
no two minus signs stand together, which would begin a comment. -/
def Safe (sql : String) (names : List String) (values : List Token) : Prop :=
  ∃ tokens, scan sql = some tokens ∧
    tokens.filterMap Token.name? = names ∧
    tokens.filter Token.isValue = values ∧
    (forall character, Token.plain character ∈ tokens ->
      isPlain character = true ∧ character ∉ harmful) ∧
    ¬ [Token.plain '-', Token.plain '-'] <:+: tokens

theorem Shows.safe {sql : String} {names : List String} {values : List Token} {pairs : Nat}
    (shows : Shows sql.toList names values pairs) : Safe sql names values := by
  rcases shows with ⟨tokens, finds, holds⟩
  refine ⟨tokens, finds.scan, holds.names, holds.values, ?_, ?_⟩
  · intro character member
    have plain := holds.harmless.isPlain member
    exact ⟨plain, not_harmful_of_isPlain plain⟩
  · rintro ⟨before, behind, same⟩
    have harmless := holds.harmless
    rw [← same, List.append_assoc] at harmless
    exact Harmless.no_double_minus harmless

end Scanner

open Scanner

/-- The values that a query binds, in the order of its statement. -/
def Query.boundValues (query : Query) : List Value :=
  query.fragment.parameters .prepared

theorem Query.safe_sql {query : Query} (named : query.IsNamed) {token : Value -> Token}
    (writes : Writes query.mode token) :
    Safe query.build.sql query.names (query.boundValues.map token) :=
  Shows.safe (ScansAs.statement writes named)

/-- The statement of a raw-free script is lexically safe.  Prepared, it has
exactly one placeholder for every parameter and no literals; inline, with any
formatter that doubles the quotes of what it writes, it has no placeholders, and
its literals are the texts of the bound values. -/
theorem safe_build_of_rawFree {calls : List Call} (rawFree : allRawFree calls = true)
    (base : String) (database : Option String) (text : Value -> String) :
    let prepared := (Query.start base .prepared database).after calls
    let inlined := (Query.start base (.inline (quoteDoubling text)) database).after calls
    Safe prepared.build.sql prepared.names
        (List.replicate prepared.build.parameters.length .placeholder) ∧
      inlined.build.parameters = [] ∧
      Safe inlined.build.sql inlined.names
        (inlined.boundValues.map fun value => .literal (text value)) := by
  intro prepared inlined
  have preparedNamed : prepared.IsNamed := Query.isNamed_after rawFree base _ database
  have inlinedNamed : inlined.IsNamed := Query.isNamed_after rawFree base _ database
  have preparedMode : prepared.mode = .prepared := (Query.SameSetup.after _ calls).mode
  have inlinedMode : inlined.mode = .inline (quoteDoubling text) :=
    (Query.SameSetup.after _ calls).mode
  refine ⟨?_, ?_, ?_⟩
  · have parameters : prepared.build.parameters = prepared.boundValues := by
      rw [Query.build, Fragment.build, preparedMode, Query.boundValues]
    have safe := prepared.safe_sql preparedNamed (by rw [preparedMode]; exact writes_prepared)
    rwa [List.map_const', ← parameters] at safe
  · rw [Query.build, Fragment.build, inlinedMode]
    exact Fragment.parameters_inline _ _
  · exact inlined.safe_sql inlinedNamed (by rw [inlinedMode]; exact writes_inline text)

/-- Names with marks, placeholders and comments in them, a value with a quote, and
a comparison that mentions nothing. -/
def hostileCalls : List Call :=
  [.filter ⟨[(.bare "a\x60? --", .term (.scalar (.text "it's; --")))]⟩,
    .either .goOn [.reject "", .filter ⟨[(.qualified "" "?", .term (.list []))]⟩]]

theorem safe_build_hostileCalls :
    let prepared := (Query.start "t\x60" .prepared none).after hostileCalls
    let inlined :=
      (Query.start "t\x60" (.inline (quoteDoubling Value.display)) none).after hostileCalls
    allRawFree hostileCalls = true ∧
      Safe prepared.build.sql ["t\x60", "t\x60", "t\x60", "a\x60? --"] [.placeholder] ∧
      Safe inlined.build.sql ["t\x60", "t\x60", "t\x60", "a\x60? --"]
        [.literal "it's; --"] := by
  have rawFree : allRawFree hostileCalls = true := by decide
  have safe := safe_build_of_rawFree rawFree "t\x60" none Value.display
  exact ⟨rawFree, safe.1, safe.2.2⟩

end SelectBuilder
