import SelectBuilder.Proofs.BalancedText

namespace SelectBuilder

/-!
# The words of a text

A blank or a comma begins a new word where it stands outside names and parentheses.
What stands inside belongs to the word around it, whatever characters it has.  So a
text that is put together from words can be cut into the same words again.
-/

/-- What begins a word, unless a name or parentheses are around it. -/
def isSeparator (character : Char) : Bool :=
  character = ' ' || character = ','

namespace Place

/-- The place behind a character that does not begin a word. -/
def within (place : Place) (character : Char) : Option Place :=
  if place = top ∧ isSeparator character = true then none else place.next character

def behindWithin (place : Place) (text : List Char) : Option Place :=
  text.foldlM within place

theorem behindWithin_cons (place : Place) (head : Char) (rest : List Char) :
    place.behindWithin (head :: rest) = (place.within head).bind (·.behindWithin rest) := rfl

theorem behindWithin_append (place : Place) (first second : List Char) :
    place.behindWithin (first ++ second) =
      (place.behindWithin first).bind (·.behindWithin second) :=
  List.foldlM_append

/-- In parentheses no word begins. -/
theorem within_deeper (place : Place) (character : Char) :
    place.deeper.within character = place.deeper.next character :=
  if_neg fun both => Nat.succ_ne_zero _ (congrArg depth both.1)

theorem next_separator {character : Char} (separates : isSeparator character = true) :
    top.next character = some top := by
  rcases Bool.or_eq_true_iff.mp separates with blank | comma
  · rw [of_decide_eq_true blank]
    rfl
  · rw [of_decide_eq_true comma]
    rfl

theorem behindWithin_deeper {place after : Place} {text : List Char}
    (read : place.behind text = some after) :
    place.deeper.behindWithin text = some after.deeper := by
  induction text generalizing place with
  | nil =>
      cases read
      rfl
  | cons head rest ih =>
      rw [behind_cons] at read
      rcases Option.bind_eq_some_iff.mp read with ⟨next, first, others⟩
      rw [behindWithin_cons, within_deeper, next_deeper first]
      exact ih others

theorem behindWithin_doubled (text : List Char) :
    behindWithin ⟨true, 0⟩ (Identifier.doubled text) = some ⟨true, 0⟩ := by
  have inside (character : Char) : within ⟨true, 0⟩ character = next ⟨true, 0⟩ character :=
    if_neg fun both => Bool.noConfusion (congrArg inName both.1)
  have between : within top Identifier.mark = some ⟨true, 0⟩ := rfl
  induction text with
  | nil => rfl
  | cons head rest ih =>
      by_cases isMark : head = Identifier.mark
      · -- A mark in a name is doubled: the first one leaves the name, the second is in it again.
        have left : next ⟨true, 0⟩ Identifier.mark = some top := rfl
        rw [isMark, Identifier.doubled, if_pos rfl, behindWithin_cons, inside, left,
          Option.bind_some, behindWithin_cons, between, Option.bind_some, ih]
      · have stays : next ⟨true, 0⟩ head = some ⟨true, 0⟩ := by simp [next, isMark]
        rw [Identifier.doubled, if_neg isMark, behindWithin_cons, inside, stays,
          Option.bind_some, ih]

end Place

/-! ## Text in which no word begins -/

/-- A balanced text in which no word begins. -/
def Solid (sql : String) : Prop :=
  Place.top.behindWithin sql.toList = some .top

instance (sql : String) : Decidable (Solid sql) :=
  inferInstanceAs (Decidable (_ = _))

namespace Solid

variable {first second : String}

theorem append (left : Solid first) (right : Solid second) : Solid (first ++ second) := by
  unfold Solid
  rw [String.toList_append, Place.behindWithin_append, left]
  exact right

/-- In parentheses there may be anything, so long as it is balanced. -/
theorem enclosed (inside : Balanced first) : Solid ("(" ++ first ++ ")") := by
  have opened : Place.top.behindWithin ['('] = some Place.top.deeper := rfl
  have closed : Place.top.deeper.behindWithin [')'] = some Place.top := rfl
  have text : ("(" ++ first ++ ")").toList = ['('] ++ first.toList ++ [')'] := by
    simp
  unfold Solid
  rw [text, Place.behindWithin_append, Place.behindWithin_append, opened, Option.bind_some,
    Place.behindWithin_deeper inside, Option.bind_some, closed]

theorem quote (name : String) : Solid (Identifier.quote name) := by
  have entered : Place.top.within Identifier.mark = some ⟨true, 0⟩ := rfl
  have left : Place.behindWithin ⟨true, 0⟩ [Identifier.mark] = some .top := rfl
  unfold Solid
  rw [Identifier.toList_quote, Place.behindWithin_cons, entered, Option.bind_some,
    Place.behindWithin_append, Place.behindWithin_doubled, Option.bind_some, left]

/-- Text of characters of a kind without those that matter to words. -/
theorem of_forall (allowed : Char -> Bool)
    (excluded : [Identifier.mark, '(', ')', ' ', ','].all (fun character => !allowed character) =
      true)
    (each : forall character, character ∈ first.toList -> allowed character = true) :
    Solid first := by
  unfold Solid
  generalize first.toList = text at each ⊢
  induction text with
  | nil => rfl
  | cons head rest ih =>
      have plain : head ∉ [Identifier.mark, '(', ')', ' ', ','] := by
        intro among
        have isExcluded := List.all_eq_true.mp excluded head among
        rw [each head List.mem_cons_self] at isExcluded
        cases isExcluded
      have stays : Place.top.within head = some .top := by
        simp only [List.mem_cons, List.not_mem_nil, not_or] at plain
        simp [Place.within, Place.next, Place.top, isSeparator, plain]
      rw [Place.behindWithin_cons, stays]
      exact ih fun character member => each character (List.mem_cons_of_mem _ member)

theorem functionName (name : String) : Solid (Identifier.functionName name) := by
  refine of_forall Identifier.isFunctionCharacter (by decide) fun character member => ?_
  rw [Identifier.toList_functionName] at member
  exact (List.mem_filter.mp member).2

theorem numeral (number : Nat) : Solid number.repr := by
  refine of_forall Char.isDigit (by decide) fun character member => ?_
  rw [Nat.toList_repr] at member
  exact Numeral.isDigit_toDigits member

theorem columnName (name : String) : Solid (Identifier.columnName name) := by
  unfold Identifier.columnName
  split
  · decide
  · exact .quote name

end Solid

/-! ## Cutting -/

/-- Cut a text where words begin.  The first part is what the word before it still
gets.  A text that closes too many parentheses is not cut behind the first of them. -/
def cutFrom : Place -> List Char -> List Char × List (List Char)
  | _, [] => ([], [])
  | place, head :: rest =>
      match place.next head with
      | none => (head :: rest, [])
      | some next =>
          let cut := cutFrom next rest
          if place = .top ∧ isSeparator head = true then ([], (head :: cut.1) :: cut.2)
          else (head :: cut.1, cut.2)

/-- The words of a text, each with the character that begins it. -/
def words (text : String) : List String :=
  (cutFrom .top text.toList).2.map String.ofList

/-- A separator, and text in which no other word begins. -/
def IsWord (word : String) : Prop :=
  ∃ separator text, isSeparator separator = true ∧ Solid text ∧
    word.toList = separator :: text.toList

theorem IsWord.spaced {text : String} (solid : Solid text) : IsWord (" " ++ text) :=
  ⟨' ', text, rfl, solid, by simp⟩

theorem IsWord.comma : IsWord "," :=
  ⟨',', "", rfl, rfl, rfl⟩

theorem cutFrom_append {place after : Place} {text : List Char}
    (read : place.behindWithin text = some after) (rest : List Char) :
    cutFrom place (text ++ rest) = (text ++ (cutFrom after rest).1, (cutFrom after rest).2) := by
  induction text generalizing place with
  | nil =>
      cases read
      rfl
  | cons head tail ih =>
      rw [Place.behindWithin_cons] at read
      rcases Option.bind_eq_some_iff.mp read with ⟨next, first, others⟩
      -- If a word began here, the text could not have been read to its end.
      have inside : ¬ (place = .top ∧ isSeparator head = true) := by
        intro begins
        rw [Place.within, if_pos begins] at first
        cases first
      rw [Place.within, if_neg inside] at first
      rw [List.cons_append, cutFrom, first]
      simp only [if_neg inside, ih others, List.cons_append]

theorem cutFrom_join {list : List String} (each : forall word, word ∈ list -> IsWord word) :
    cutFrom .top (String.join list).toList = ([], list.map String.toList) := by
  induction list with
  | nil => rfl
  | cons word rest ih =>
      rcases each word List.mem_cons_self with ⟨separator, text, separates, solid, written⟩
      have behind := ih fun other member => each other (List.mem_cons_of_mem _ member)
      rw [String.join_cons, String.toList_append, written, List.cons_append, cutFrom,
        Place.next_separator separates]
      simp only [cutFrom_append solid, behind, separates, and_self, if_true, List.append_nil,
        List.map_cons, written]

/-- Words, put together, are cut into the same words. -/
theorem words_join {list : List String} (each : forall word, word ∈ list -> IsWord word) :
    words (String.join list) = list := by
  rw [words, cutFrom_join each, List.map_map]
  have same : String.ofList ∘ String.toList = id := funext fun _ => String.ofList_toList
  rw [same, List.map_id]

end SelectBuilder
