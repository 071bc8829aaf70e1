import SelectBuilder.Identifier
import SelectBuilder.Proofs.Numeral

namespace SelectBuilder
namespace Scanner

/-!
# How a database scans SQL

A scanner goes through a statement character by character.  A backtick opens a
name and a single quote opens a literal; inside, only the same mark matters, and
the mark twice is the mark itself.  Outside, a question mark is a placeholder
and every other character stands for itself.

A text is understood apart from its surroundings when the scanner, coming to
it from outside, finds the same tokens in it whatever follows.  Only a mark may
not follow directly, because it could double the last one.
-/

inductive Token where
  | name (text : String)
  | literal (text : String)
  | placeholder
  | plain (character : Char)
deriving DecidableEq, Repr

namespace Token

def name? : Token -> Option String
  | .name text => some text
  | _ => none

/-- Literals and placeholders: where values are. -/
def isValue : Token -> Bool
  | .literal _ | .placeholder => true
  | _ => false

end Token

/-- What stands between marks. -/
inductive Quote where
  | name
  | literal
deriving DecidableEq, Repr

namespace Quote

def mark : Quote -> Char
  | .name => Identifier.mark
  | .literal => '\x27'

def token (quote : Quote) (content : List Char) : Token :=
  match quote with
  | .name => .name (String.ofList content)
  | .literal => .literal (String.ofList content)

/-- A text with every mark of this kind written twice. -/
def doubled (quote : Quote) (text : List Char) : List Char :=
  text.flatMap fun character =>
    if character = quote.mark then [quote.mark, quote.mark] else [character]

theorem doubled_name (text : List Char) : Quote.name.doubled text = Identifier.doubled text := by
  induction text with
  | nil => rfl
  | cons head rest ih =>
      by_cases isMark : head = Identifier.mark
      · simpa [doubled, Identifier.doubled, mark, isMark] using ih
      · simpa [doubled, Identifier.doubled, mark, isMark] using ih

end Quote

/-- Where the scanner is: outside, inside marks behind some content, or behind
a mark that closes unless it is doubled. -/
inductive State where
  | outside
  | inside (quote : Quote) (content : List Char)
  | behind (quote : Quote) (content : List Char)

/-- The tokens that a character outside completes, and where it leads. -/
def start (character : Char) : List Token × State :=
  if character = Quote.name.mark then ([], .inside .name [])
  else if character = Quote.literal.mark then ([], .inside .literal [])
  else if character = '?' then ([.placeholder], .outside)
  else ([.plain character], .outside)

def step : State -> Char -> List Token × State
  | .outside, character => start character
  | .inside quote content, character =>
      if character = quote.mark then ([], .behind quote content)
      else ([], .inside quote (content ++ [character]))
  | .behind quote content, character =>
      if character = quote.mark then ([], .inside quote (content ++ [character]))
      else (quote.token content :: (start character).1, (start character).2)

/-- At the end no mark may be open. -/
def finish : State -> Option (List Token)
  | .outside => some []
  | .inside _ _ => none
  | .behind quote content => some [quote.token content]

def scanFrom (state : State) : List Char -> Option (List Token)
  | [] => finish state
  | character :: rest =>
      (scanFrom (step state character).2 rest).map ((step state character).1 ++ ·)

/-- The tokens of a statement, if its marks are closed. -/
def scan (sql : String) : Option (List Token) :=
  scanFrom .outside sql.toList

theorem start_ne_nil {character : Char} (outside : (start character).2 = .outside) :
    (start character).1 ≠ [] := by
  unfold start at outside ⊢
  split at outside
  · cases outside
  · next notName =>
      rw [if_neg notName]
      split at outside
      · cases outside
      · next notLiteral =>
          rw [if_neg notLiteral]
          split <;> exact List.cons_ne_nil _ _

/-- A character that leads outside completes a token. -/
theorem step_ne_nil {state : State} {character : Char}
    (outside : (step state character).2 = .outside) : (step state character).1 ≠ [] := by
  cases state with
  | outside => exact start_ne_nil outside
  | inside quote content =>
      rw [step] at outside
      split at outside <;> cases outside
  | behind quote content =>
      rw [step] at outside ⊢
      split
      · next same =>
          rw [if_pos same] at outside
          cases outside
      · exact List.cons_ne_nil _ _

/-- The scanner finds tokens in everything that it reads. -/
theorem scanFrom_ne_nil {state : State} {text : List Char} {tokens : List Token}
    (scanned : scanFrom state text = some tokens) (more : state ≠ .outside ∨ text ≠ []) :
    tokens ≠ [] := by
  induction text generalizing state tokens with
  | nil =>
      cases state with
      | outside => simp at more
      | inside quote content => cases scanned
      | behind quote content =>
          cases scanned
          exact List.cons_ne_nil _ _
  | cons head rest ih =>
      rw [scanFrom, Option.map_eq_some_iff] at scanned
      rcases scanned with ⟨others, behind, rfl⟩
      by_cases outside : (step state head).2 = .outside
      · exact List.append_ne_nil_of_left_ne_nil (step_ne_nil outside) others
      · exact List.append_ne_nil_of_right_ne_nil _ (ih behind (.inl outside))

/-! ## Between marks -/

/-- A text that begins with no mark. -/
def Detached (text : List Char) : Prop :=
  forall quote : Quote, text.head? ≠ some quote.mark

theorem Detached.nil : Detached [] := fun _ none => by cases none

theorem Detached.append {first second : List Char} (left : Detached first)
    (right : Detached second) : Detached (first ++ second) := by
  cases first with
  | nil => exact right
  | cons head rest => exact left

theorem scanFrom_behind (quote : Quote) (content rest : List Char) (detached : Detached rest) :
    scanFrom (.behind quote content) rest =
      (scanFrom .outside rest).map (quote.token content :: ·) := by
  cases rest with
  | nil => rfl
  | cons next behind =>
      have different : next ≠ quote.mark := fun same => detached quote (by rw [same]; rfl)
      simp [scanFrom, step, different, Function.comp_def]

theorem scanFrom_inside (quote : Quote) (content text rest : List Char)
    (detached : Detached rest) :
    scanFrom (.inside quote content) (quote.doubled text ++ quote.mark :: rest) =
      (scanFrom .outside rest).map (quote.token (content ++ text) :: ·) := by
  induction text generalizing content with
  | nil =>
      have closed := scanFrom_behind quote content rest detached
      simp [Quote.doubled, scanFrom, step, closed, Function.comp_def]
  | cons head tail ih =>
      have longer := ih (content ++ [head])
      rw [List.append_assoc, List.singleton_append] at longer
      by_cases isMark : head = quote.mark
      · subst isMark
        simpa [Quote.doubled, scanFrom, step] using longer
      · simpa [Quote.doubled, scanFrom, step, isMark] using longer

theorem scanFrom_quoted (quote : Quote) (text rest : List Char) (detached : Detached rest) :
    scanFrom .outside (quote.mark :: (quote.doubled text ++ [quote.mark]) ++ rest) =
      (scanFrom .outside rest).map (quote.token text :: ·) := by
  have inside := scanFrom_inside quote [] text rest detached
  cases quote with
  | name => simpa [scanFrom, step, start] using inside
  | literal =>
      have different : Quote.literal.mark ≠ Quote.name.mark := by decide
      simpa [scanFrom, step, start, different] using inside

/-! ## Plain text -/

/-- The characters that clauses are made of besides names and values.  No mark
of any kind is among them, nor anything that ends a statement. -/
def isPlain (character : Char) : Bool :=
  character.isAlphanum || " _.,()*=!<>-".toList.contains character

/-- Plain text in which a minus is always the sign of a number. -/
def plainText : List Char -> Bool
  | [] => true
  | character :: rest =>
      isPlain character && (character ≠ '-' || rest.head?.any Char.isDigit) && plainText rest

theorem plainText_append {first second : List Char} (left : plainText first = true)
    (right : plainText second = true) : plainText (first ++ second) = true := by
  induction first with
  | nil => exact right
  | cons head rest ih =>
      simp only [plainText, Bool.and_eq_true] at left
      simp only [List.cons_append, plainText, Bool.and_eq_true]
      refine ⟨⟨left.1.1, ?_⟩, ih left.2⟩
      cases rest with
      | nil =>
          have notMinus := left.1.2
          simp only [List.head?_nil, Option.any_none, Bool.or_false] at notMinus
          simp [notMinus]
      | cons next behind => exact left.1.2

theorem plainText_of_forall {text : List Char}
    (each : forall character, character ∈ text -> isPlain character = true ∧ character ≠ '-') :
    plainText text = true := by
  induction text with
  | nil => rfl
  | cons head rest ih =>
      have first := each head List.mem_cons_self
      have behind := ih fun character member => each character (List.mem_cons_of_mem _ member)
      simp [plainText, first.1, first.2, behind]

theorem plainText_digits {text : List Char}
    (digits : forall character, character ∈ text -> character.isDigit = true) :
    plainText text = true := by
  apply plainText_of_forall
  intro character member
  have isDigit := digits character member
  constructor
  · simp [isPlain, Char.isAlphanum, isDigit]
  · intro minus
    rw [minus] at isDigit
    exact absurd isDigit (by decide)

theorem plainText_numeral (numeral : Numeral) : plainText numeral.text = true := by
  rcases numeral with ⟨negative, whole, fraction, someDigits, digits⟩
  have wholePlain : plainText whole = true :=
    plainText_digits fun character member => digits character (List.mem_append_left _ member)
  have fractionPlain : plainText fraction = true :=
    plainText_digits fun character member => digits character (List.mem_append_right _ member)
  have tailPlain :
      plainText (Numeral.tail ⟨negative, whole, fraction, someDigits, digits⟩) = true := by
    unfold Numeral.tail
    cases fraction with
    | nil => rfl
    | cons first rest =>
        have point : plainText ['.'] = true := by decide
        exact plainText_append point fractionPlain
  have unsigned := plainText_append wholePlain tailPlain
  cases negative with
  | false => simpa [Numeral.text, Numeral.minus] using unsigned
  | true =>
      cases whole with
      | nil => exact absurd rfl someDigits
      | cons first rest =>
          have firstDigit := digits first (by simp)
          have minus : isPlain '-' = true := by decide
          simp only [Numeral.text, Numeral.minus, if_true, List.cons_append, List.nil_append,
            plainText, minus, List.head?_cons, Option.any_some, firstDigit]
          simpa [plainText] using unsigned

theorem isPlain_ne_mark {character : Char} (plain : isPlain character = true) (quote : Quote) :
    character ≠ quote.mark := by
  intro same
  subst same
  cases quote <;> exact absurd plain (by decide)

theorem isPlain_ne_placeholder {character : Char} (plain : isPlain character = true) :
    character ≠ '?' := by
  intro same
  subst same
  exact absurd plain (by decide)

theorem start_plain {character : Char} (plain : isPlain character = true) :
    start character = ([.plain character], .outside) := by
  simp [start, isPlain_ne_mark plain, isPlain_ne_placeholder plain]

theorem isPlain_of_mem {text : List Char} (plain : plainText text = true) {character : Char}
    (member : character ∈ text) : isPlain character = true := by
  induction text with
  | nil => cases member
  | cons head rest ih =>
      simp only [plainText, Bool.and_eq_true] at plain
      rcases List.mem_cons.mp member with same | behind
      · rw [same]
        exact plain.1.1
      · exact ih plain.2 behind

theorem Detached.plain {text : List Char} (plain : plainText text = true) :
    Detached text := by
  intro quote starts
  cases text with
  | nil => cases starts
  | cons head rest =>
      have different := isPlain_ne_mark (isPlain_of_mem plain List.mem_cons_self) quote
      exact different (Option.some.inj starts)

/-- Plain text is scanned character by character, whatever follows. -/
theorem scanFrom_plainText {text : List Char} (plain : plainText text = true)
    (rest : List Char) :
    scanFrom .outside (text ++ rest) =
      (scanFrom .outside rest).map (text.map Token.plain ++ ·) := by
  induction text with
  | nil => simp
  | cons head tail ih =>
      have headPlain := isPlain_of_mem plain List.mem_cons_self
      simp only [plainText, Bool.and_eq_true] at plain
      simp [scanFrom, step, start_plain headPlain, ih plain.2, Function.comp_def]

end Scanner
end SelectBuilder
