import SelectBuilder.Proofs.MentionedNames
import SelectBuilder.Proofs.Numeral

namespace SelectBuilder

/-!
# Balanced text

What stands in parentheses can change nothing outside them as long as it closes
only what it opened itself.  Names may have parentheses in them, which do not
count, and a name has to end where it began.  Conditions without raw SQL are
written so, whatever names and values there are in them.
-/

/-! ## Reading for parentheses -/

/-- Where a reader of SQL is: in a name or not, and in how many parentheses. -/
structure Place where
  inName : Bool
  depth : Nat
deriving DecidableEq, Repr

namespace Place

/-- Outside of everything. -/
def top : Place := ⟨false, 0⟩

/-- A mark in a name is written twice, so the name is left and entered again.
No place is behind a parenthesis that closes nothing. -/
def next (place : Place) (character : Char) : Option Place :=
  if character = Identifier.mark then some { place with inName := !place.inName }
  else if place.inName then some place
  else if character = '(' then some { place with depth := place.depth + 1 }
  else if character = ')' then
    match place.depth with
    | 0 => none
    | depth + 1 => some { place with depth := depth }
  else some place

def behind (place : Place) (text : List Char) : Option Place :=
  text.foldlM next place

theorem behind_cons (place : Place) (head : Char) (rest : List Char) :
    place.behind (head :: rest) = (place.next head).bind (·.behind rest) := rfl

theorem behind_append (place : Place) (first second : List Char) :
    place.behind (first ++ second) = (place.behind first).bind (·.behind second) :=
  List.foldlM_append

/-- The same place with all of it in one more pair of parentheses. -/
def deeper (place : Place) : Place :=
  { place with depth := place.depth + 1 }

theorem next_deeper {place after : Place} {character : Char}
    (read : place.next character = some after) :
    place.deeper.next character = some after.deeper := by
  rcases place with ⟨inName, depth⟩
  -- Only a closing parenthesis asks for the depth, and here there is one more.
  unfold next at read ⊢
  split at read
  · grind [deeper]
  · split at read
    · grind [deeper]
    · cases depth <;> grind [deeper]

/-- What can be read outside of everything can be read in parentheses, and leaves
them as they are. -/
theorem behind_deeper {place after : Place} {text : List Char}
    (read : place.behind text = some after) :
    place.deeper.behind text = some after.deeper := by
  induction text generalizing place with
  | nil =>
      cases read
      rfl
  | cons head rest ih =>
      rw [behind_cons] at read ⊢
      rcases Option.bind_eq_some_iff.mp read with ⟨next, first, others⟩
      rw [next_deeper first]
      exact ih others

/-- The name goes on behind doubled marks. -/
theorem behind_doubled (depth : Nat) (text : List Char) :
    behind ⟨true, depth⟩ (Identifier.doubled text) = some ⟨true, depth⟩ := by
  induction text with
  | nil => rfl
  | cons head rest ih =>
      by_cases isMark : head = Identifier.mark
      · simp [Identifier.doubled, isMark, behind_cons, next, ih]
      · simp [Identifier.doubled, isMark, behind_cons, next, ih]

end Place

/-- A text that ends every name it begins, and closes every parenthesis it opens
outside names and no others. -/
def Balanced (sql : String) : Prop :=
  Place.top.behind sql.toList = some .top

instance (sql : String) : Decidable (Balanced sql) :=
  inferInstanceAs (Decidable (_ = _))

namespace Balanced

variable {first second : String}

theorem append (left : Balanced first) (right : Balanced second) : Balanced (first ++ second) := by
  unfold Balanced
  rw [String.toList_append, Place.behind_append, left]
  exact right

theorem enclosed (inside : Balanced first) : Balanced ("(" ++ first ++ ")") := by
  have opened : Place.top.behind ['('] = some Place.top.deeper := rfl
  have closed : Place.top.deeper.behind [')'] = some Place.top := rfl
  have text : ("(" ++ first ++ ")").toList = ['('] ++ first.toList ++ [')'] := by
    simp
  unfold Balanced
  rw [text, Place.behind_append, Place.behind_append, opened, Option.bind_some,
    Place.behind_deeper inside, Option.bind_some, closed]

/-- Text in which no name and no parenthesis begins or ends. -/
theorem of_forall (each : forall character, character ∈ first.toList ->
    character ≠ Identifier.mark ∧ character ≠ '(' ∧ character ≠ ')') : Balanced first := by
  unfold Balanced
  generalize first.toList = text at each ⊢
  induction text with
  | nil => rfl
  | cons head rest ih =>
      rcases each head List.mem_cons_self with ⟨notMark, notOpen, notClose⟩
      have stays : Place.top.next head = some .top := by
        simp [Place.next, Place.top, notMark, notOpen, notClose]
      rw [Place.behind_cons, stays]
      exact ih fun character member => each character (List.mem_cons_of_mem _ member)

theorem quote (name : String) : Balanced (Identifier.quote name) := by
  have entered : Place.top.next Identifier.mark = some ⟨true, 0⟩ := rfl
  have left : Place.behind ⟨true, 0⟩ [Identifier.mark] = some .top := rfl
  unfold Balanced
  rw [Identifier.toList_quote, Place.behind_cons, entered, Option.bind_some, Place.behind_append,
    Place.behind_doubled, Option.bind_some, left]

theorem intercalate {separator : String} (between : Balanced separator) {texts : List String}
    (each : forall text, text ∈ texts -> Balanced text) :
    Balanced (separator.intercalate texts) := by
  induction texts with
  | nil => exact rfl
  | cons text rest ih =>
      have head := each text List.mem_cons_self
      have behind := ih fun other member => each other (List.mem_cons_of_mem _ member)
      cases rest with
      | nil => simpa using head
      | cons next others =>
          rw [String.intercalate_cons_cons]
          exact (head.append between).append behind

end Balanced

/-! ## What is written balanced -/

theorem Column.balanced_sql (column : Column) : Balanced column.sql := by
  have named : Balanced (Identifier.columnName column.name) := by
    unfold Identifier.columnName
    split
    · decide
    · exact .quote column.name
  rcases column with ⟨table, name⟩
  cases table with
  | none => exact named
  | some table => exact ((Balanced.quote table).append (by decide)).append named

/-- A numeral is digits, a sign and a point. -/
theorem Numeral.not_bracket {numeral : Numeral} {character : Char}
    (member : character ∈ numeral.text) :
    character ≠ Identifier.mark ∧ character ≠ '(' ∧ character ≠ ')' := by
  have digit (isDigit : character.isDigit = true) :
      character ≠ Identifier.mark ∧ character ≠ '(' ∧ character ≠ ')' := by
    refine ⟨?_, ?_, ?_⟩ <;>
      · rintro rfl
        exact absurd isDigit (by decide)
  unfold text minus tail at member
  rcases List.mem_append.mp member with front | back
  · rcases List.mem_append.mp front with sign | whole
    · split at sign
      · rw [List.mem_singleton.mp sign]
        decide
      · cases sign
    · exact digit (numeral.isDigit_of_mem character (List.mem_append_left _ whole))
  · split at back
    · cases back
    · rcases List.mem_cons.mp back with point | fraction
      · rw [point]
        decide
      · exact digit (numeral.isDigit_of_mem character (List.mem_append_right _ fraction))

theorem Value.balanced_display {value : Value} (numeric : value.isNumeric = true) :
    Balanced value.display := by
  rcases exists_numeral_of_isNumeric numeric with ⟨numeral, sameText⟩
  apply Balanced.of_forall
  intro character member
  rw [← sameText] at member
  exact Numeral.not_bracket member

namespace Fragment

/-- A fragment whose prepared text is balanced. -/
def IsBalanced (fragment : Fragment) : Prop :=
  Balanced (fragment.sql .prepared)

namespace IsBalanced

variable {first second : Fragment}

theorem nil : IsBalanced [] := rfl

theorem text {sql : String} (balanced : Balanced sql) : IsBalanced [.text sql] := by
  simpa [IsBalanced, Fragment.sql, Piece.sql] using balanced

theorem bound (value : Value) : IsBalanced [.bound value] := by
  have placeholder : Balanced "?" := by decide
  simpa [IsBalanced, sql, Piece.sql] using placeholder

theorem append (left : IsBalanced first) (right : IsBalanced second) :
    IsBalanced (first ++ second) := by
  rw [IsBalanced, sql_append]
  exact Balanced.append left right

theorem enclosed (inside : IsBalanced first) :
    IsBalanced (.text "(" :: (first ++ [.text ")"])) := by
  have whole := Balanced.enclosed inside
  simpa [IsBalanced, sql_append, sql_cons, sql, Piece.sql, String.append_assoc] using whole

/-- Where one text ends and the next begins does not matter. -/
theorem text_append {before behind : String} {rest : Fragment} :
    IsBalanced (.text (before ++ behind) :: rest) ↔
      IsBalanced (.text before :: .text behind :: rest) := by
  simp [IsBalanced, sql_cons, Piece.sql, String.append_assoc]

theorem separated {separator : String} (between : Balanced separator)
    {fragments : List Fragment}
    (each : forall fragment, fragment ∈ fragments -> fragment.IsBalanced) :
    IsBalanced (separated separator fragments) := by
  rw [IsBalanced, sql_separated]
  apply between.intercalate
  intro text member
  rcases List.mem_map.mp member with ⟨fragment, among, rfl⟩
  exact each fragment among

end IsBalanced
end Fragment

theorem Value.isBalanced_fragment (value : Value) : value.fragment.IsBalanced := by
  unfold fragment
  split
  · next numeric => exact .text (balanced_display numeric)
  · exact .bound value

theorem Value.isBalanced_listFragment (values : List Value) :
    (listFragment values).IsBalanced := by
  apply Fragment.IsBalanced.separated (by decide)
  intro fragment member
  rcases List.mem_map.mp member with ⟨value, among, rfl⟩
  split
  · next numeric => exact .text (balanced_display (List.all_eq_true.mp numeric value among))
  · exact .bound value

theorem Term.isBalanced_fragment (term : Term) (named : term.IsNamed) :
    term.fragment.IsBalanced := by
  cases term with
  | null => exact .text (by decide)
  | scalar value => exact value.isBalanced_fragment
  | list values => exact Value.isBalanced_listFragment values
  | raw sql =>
      rcases named with ⟨column, rfl⟩
      exact .text column.balanced_sql

theorem Operator.balanced_sql (operator : Operator) : Balanced (" " ++ operator.sql ++ " ") := by
  cases operator <;> decide

theorem Comparison.isBalanced_fragment (comparison : Comparison) (named : comparison.IsNamed) :
    comparison.fragment.IsBalanced := by
  rcases comparison with ⟨target, operator, term⟩
  rcases named with ⟨isColumn, isNamed⟩
  cases target with
  | raw sql => exact isColumn.elim
  | column column =>
      have targetText : Fragment.IsBalanced [.text column.sql] := .text column.balanced_sql
      revert isNamed
      refine fragment_cases
        (motive := fun _ term fragment => term.IsNamed -> fragment.IsBalanced)
        ?noMember ?everyMember ?isNull ?isNotNull ?tuple ?single operator term
      case noMember => exact fun _ => .text (by decide)
      case everyMember => exact fun _ => .text (by decide)
      case isNull => exact fun _ => targetText.append (.text (by decide))
      case isNotNull => exact fun _ => targetText.append (.text (by decide))
      case tuple =>
        intro operator term _ isNamed
        -- The text of the operator opens the parenthesis that the last text closes.
        have opening : " (" = " " ++ "(" := rfl
        have inside := (term.isBalanced_fragment isNamed).enclosed
        have behind := (Fragment.IsBalanced.text operator.balanced_sql).append inside
        rw [opening, ← String.append_assoc]
        exact targetText.append (Fragment.IsBalanced.text_append.mpr behind)
      case single =>
        intro operator term _ _ _ isNamed
        exact (targetText.append (.text operator.balanced_sql)).append
          (term.isBalanced_fragment isNamed)

/-- A condition without raw SQL is written balanced. -/
theorem Condition.isBalanced_fragment {condition : Condition} (named : condition.IsNamed)
    (nested : Bool) : (condition.fragment nested).IsBalanced := by
  induction condition using Condition.induction generalizing nested with
  | compare comparison =>
      rw [fragment]
      exact comparison.isBalanced_fragment (named comparison (List.mem_singleton_self comparison))
  | group junction children ih =>
      have members : (Fragment.separated junction.sql ((children.filter fun child =>
          !child.isEmpty).map (fragment true))).IsBalanced := by
        apply Fragment.IsBalanced.separated
        · cases junction <;> decide
        · intro fragment member
          rcases List.mem_map.mp member with ⟨child, visible, rfl⟩
          have among := (List.mem_filter.mp visible).1
          exact ih child among (isNamed_of_mem named among) true
      rw [fragment_group]
      split
      · exact .nil
      · cases nested with
        | true => exact members.enclosed
        | false => exact members

end SelectBuilder
