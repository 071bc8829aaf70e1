import Mathlib.Data.List.Forall2
import SelectBuilder.Fragment
import SelectBuilder.Proofs.ConditionReading

namespace SelectBuilder
namespace Reader

/-!
# Reading what a writer puts together

A text *reads as* some items when its lexemes add exactly these to whatever the
reader has already, and take exactly its parameters.  Texts put together read
as their items one after the other, as long as the second text cannot go on
with the last lexeme of the first.
-/

/-! ## Lexemes that are items -/

/-- The lexemes that stay as they are: all but placeholders and parentheses. -/
def Lexeme.isKept : Lexeme -> Bool
  | .placeholder | .opening | .closing => false
  | _ => true

theorem Reading.step_kept {lexeme : Lexeme} (kept : lexeme.isKept = true) (reading : Reading) :
    reading.step lexeme = some (reading.add (.lexeme lexeme)) := by
  cases lexeme <;> first | rfl | cases kept

theorem foldlM_kept {lexemes : List Lexeme} (kept : lexemes.all Lexeme.isKept = true)
    (items : List Item) (outer : List (List Item)) (parameters : List Value) :
    lexemes.foldlM Reading.step ⟨items, outer, parameters⟩ =
      some ⟨items ++ lexemes.map Item.lexeme, outer, parameters⟩ := by
  induction lexemes generalizing items with
  | nil => simp
  | cons lexeme rest ih =>
      rw [List.all_cons, Bool.and_eq_true] at kept
      rw [List.foldlM_cons, Reading.step_kept kept.1]
      have behind := ih kept.2 (items ++ [.lexeme lexeme])
      simpa [Reading.add] using behind

/-! ## Texts by their items -/

def ReadsAs (text : List Char) (parameters : List Value) (items : List Item) : Prop :=
  ∃ lexemes, Lexes text lexemes ∧ forall before outer rest,
    lexemes.foldlM Reading.step ⟨before, outer, parameters ++ rest⟩ =
      some ⟨before ++ items, outer, rest⟩

/-- A text that no boundary is needed in front of. -/
def Begins (text : List Char) : Prop :=
  forall rest, Boundary (text ++ rest)

theorem Begins.blank (text : List Char) : Begins (' ' :: text) := by
  intro rest next starts
  cases starts
  exact .inl rfl

namespace ReadsAs

variable {first second : List Char} {parameters others : List Value} {items more : List Item}

theorem nil : ReadsAs [] [] [] := by
  refine ⟨[], fun rest _ => ?_, fun before outer rest => ?_⟩
  · simp
  · simp

theorem append (left : ReadsAs first parameters items) (right : ReadsAs second others more)
    (begins : Begins second) :
    ReadsAs (first ++ second) (parameters ++ others) (items ++ more) := by
  rcases left with ⟨lexemes, lexes, reads⟩
  rcases right with ⟨behind, lexesBehind, readsBehind⟩
  refine ⟨lexemes ++ behind, lexes.append lexesBehind fun rest _ => begins rest, ?_⟩
  intro before outer rest
  rw [List.foldlM_append, List.append_assoc, reads]
  have combined := readsBehind (before ++ items) outer rest
  rw [List.append_assoc] at combined
  exact combined

theorem kept {lexemes : List Lexeme} (lexes : Lexes first lexemes)
    (all : lexemes.all Lexeme.isKept = true) :
    ReadsAs first [] (lexemes.map Item.lexeme) :=
  ⟨lexemes, lexes, fun before outer rest => foldlM_kept all before outer rest⟩

/-- Something in front that is kept, whatever follows. -/
theorem opened {lexemes : List Lexeme} (opens : Opens first lexemes)
    (all : lexemes.all Lexeme.isKept = true) (right : ReadsAs second others more) :
    ReadsAs (first ++ second) others (lexemes.map Item.lexeme ++ more) := by
  rcases right with ⟨behind, lexesBehind, readsBehind⟩
  refine ⟨lexemes ++ behind, opens.append lexesBehind, fun before outer rest => ?_⟩
  rw [List.foldlM_append, foldlM_kept all]
  have combined := readsBehind (before ++ lexemes.map Item.lexeme) outer rest
  rw [List.append_assoc] at combined
  exact combined

theorem placeholder (value : Value) : ReadsAs ['?'] [value] [.value value] := by
  refine ⟨[.placeholder], fun rest _ => ?_, fun before outer rest => rfl⟩
  exact lex_lexeme (by decide) rfl

/-- Parentheses make one item of what is in them. -/
theorem enclosed (inside : ReadsAs first parameters items) :
    ReadsAs ('(' :: (first ++ [')'])) parameters
      [.enclosed (formulaOf items) (tupleOf items)] := by
  rcases inside with ⟨lexemes, lexes, reads⟩
  refine ⟨.opening :: (lexemes ++ [.closing]), fun rest boundary => ?_, fun before outer rest => ?_⟩
  · have opening : lex ('(' :: (first ++ (')' :: rest))) =
        (lex (first ++ (')' :: rest))).map (.opening :: ·) :=
      lex_lexeme (by decide) rfl
    have closing : lex (')' :: rest) = (lex rest).map (.closing :: ·) :=
      lex_lexeme (by decide) rfl
    have meets : Boundary (')' :: rest) := by
      intro next starts
      cases starts
      exact .inr (.inr rfl)
    rw [lexes _ meets, closing] at opening
    simpa [Function.comp_def] using opening
  · have within := reads [] (before :: outer) rest
    rw [List.foldlM_cons]
    simp only [Reading.step, Option.bind_eq_bind, Option.bind_some, List.foldlM_append]
    rw [within]
    rfl

end ReadsAs

/-! ### Names, words and numbers -/

theorem ReadsAs.word (word : Word) : ReadsAs word.text [] [.lexeme (.word word)] := by
  have lexes : Lexes word.text [.word word] := fun rest boundary =>
    lex_word word rest (boundary.stops rfl rfl rfl) (boundary.stops rfl rfl rfl)
  exact .kept lexes rfl

theorem ReadsAs.number (numeral : Numeral) :
    ReadsAs numeral.text [] [.lexeme (.number numeral.number)] := by
  have lexes : Lexes numeral.text [.number numeral.number] := fun rest boundary =>
    lex_number numeral rest (boundary.stops rfl rfl rfl) (boundary.head_ne (by decide))
  exact .kept lexes rfl

/-- The lexemes of a column. -/
def columnLexemes (column : Column) : List Lexeme :=
  (column.table.elim [] fun table => [.name table, .point]) ++
    [if column.name = "*" then .wildcard else .name column.name]

theorem lexes_columnName (name : String) :
    Lexes (Identifier.columnName name).toList [if name = "*" then .wildcard else .name name] := by
  intro rest boundary
  by_cases wildcard : name = "*"
  · subst wildcard
    exact lex_lexeme (by decide) rfl
  · rw [Identifier.columnName, if_neg wildcard, if_neg wildcard]
    exact lex_name name rest (boundary.head_ne (by decide))

theorem ReadsAs.column (column : Column) :
    ReadsAs column.sql.toList [] ((columnLexemes column).map Item.lexeme) := by
  rcases column with ⟨table, name⟩
  have lexes : Lexes (Column.sql ⟨table, name⟩).toList (columnLexemes ⟨table, name⟩) := by
    cases table with
    | none => exact lexes_columnName name
    | some table =>
        intro rest boundary
        have unmarked :
            ('.' :: ((Identifier.columnName name).toList ++ rest)).head? ≠ some Identifier.mark := by
          intro marked
          exact absurd (Option.some.inj marked) (by decide)
        have qualifier := lex_name table _ unmarked
        have point : lex ('.' :: ((Identifier.columnName name).toList ++ rest)) =
            (lex ((Identifier.columnName name).toList ++ rest)).map (.point :: ·) :=
          lex_lexeme (by decide) rfl
        rw [point, lexes_columnName name rest boundary] at qualifier
        simpa [Column.sql, Identifier.qualify, columnLexemes, Function.comp_def] using qualifier
  apply ReadsAs.kept lexes
  by_cases wildcard : name = "*" <;> cases table <;> simp [columnLexemes, wildcard, Lexeme.isKept]

/-- Words with a blank around each of them. -/
def spacedWords (words : List Word) : List Char :=
  ' ' :: words.flatMap fun word => word.text ++ [' ']

theorem opens_spacedWords (words : List Word) :
    Opens (spacedWords words) (words.map Lexeme.word) := by
  intro rest
  rw [spacedWords, List.cons_append, lex_blank]
  induction words with
  | nil => simp
  | cons word others ih =>
      have first := lex_word word
        (' ' :: ((others.flatMap fun word => word.text ++ [' ']) ++ rest)) rfl rfl
      rw [lex_blank, ih] at first
      simpa [Function.comp_def] using first

theorem all_isKept_words (words : List Word) :
    (words.map Lexeme.word).all Lexeme.isKept = true := by
  simp [List.all_eq_true, Lexeme.isKept]

/-! ### Fragments -/

/-- The reader finds these items in a fragment. -/
def FragmentReads (fragment : Fragment) (items : List Item) : Prop :=
  ReadsAs (fragment.sql .prepared).toList (fragment.parameters .prepared) items

theorem FragmentReads.text {sql : String} {items : List Item}
    (reads : ReadsAs sql.toList [] items) : FragmentReads [.text sql] items := by
  simpa [FragmentReads, Fragment.sql, Fragment.parameters, Piece.sql, Piece.parameters] using reads

theorem FragmentReads.bound (value : Value) : FragmentReads [.bound value] [.value value] := by
  simpa [FragmentReads, Fragment.sql, Fragment.parameters, Piece.sql, Piece.parameters] using
    ReadsAs.placeholder value

theorem FragmentReads.enclosed {fragment : Fragment} {items : List Item}
    (inside : FragmentReads fragment items) :
    FragmentReads (.text "(" :: (fragment ++ [.text ")"]))
      [.enclosed (formulaOf items) (tupleOf items)] := by
  have closed := ReadsAs.enclosed inside
  simpa [FragmentReads, Fragment.sql, Fragment.parameters, Piece.sql, Piece.parameters] using closed

/-- When every fragment is read as a piece that means its result, then all of them are
read as pieces that mean all the results. -/
theorem exists_pieces {Result : Type} {means : List Item -> Result -> Prop}
    {fragments : List Fragment} {results : List Result}
    (each : List.Forall₂
      (fun fragment result => ∃ piece, FragmentReads fragment piece ∧ means piece result)
      fragments results) :
    ∃ pieces, List.Forall₂ FragmentReads fragments pieces ∧ List.Forall₂ means pieces results := by
  induction each with
  | nil => exact ⟨[], .nil, .nil⟩
  | cons first others ih =>
      rcases first with ⟨piece, found, here⟩
      rcases ih with ⟨pieces, foundOthers, behind⟩
      exact ⟨piece :: pieces, .cons found foundOthers, .cons here behind⟩

/-- Fragments with something kept between every two. -/
theorem FragmentReads.separated {separator : String} {lexeme : Lexeme}
    (opens : Opens separator.toList [lexeme]) (kept : lexeme.isKept = true)
    (begins : forall text, Begins (separator.toList ++ text)) {fragments : List Fragment}
    {pieces : List (List Item)} (each : List.Forall₂ FragmentReads fragments pieces) :
    FragmentReads (Fragment.separated separator fragments)
      ([Item.lexeme lexeme].intercalate pieces) := by
  unfold FragmentReads
  rw [Fragment.toList_sql_separated, Fragment.parameters_separated]
  induction each with
  | nil => exact .nil
  | cons first others ih =>
      cases others with
      | nil => simpa [FragmentReads] using first
      | cons second behind =>
          have joined := ReadsAs.append first (.opened opens (by simp [kept]) ih) (begins _)
          simpa [List.intercalate_cons_cons] using joined

end Reader
end SelectBuilder
