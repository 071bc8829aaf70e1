import SelectBuilder.Fragment
import SelectBuilder.Proofs.FoundTokens

namespace SelectBuilder
namespace Scanner

/-!
# Texts by what a scanner finds in them

A text *shows* names, values and empty pairs of parentheses when the scanner finds
exactly these in it, in this order, and besides them only plain characters in harmless
places.  Texts put together show what they show one after the other, as long as no two
marks meet; in SQL there is always something plain between them.
-/

/-- Bare text that keeps two marks apart. -/
def Divider (text : List Char) : Prop :=
  Bare text ∧ text ≠ []

instance (text : List Char) : Decidable (Divider text) :=
  inferInstanceAs (Decidable (_ ∧ _))

theorem Divider.detached {text : List Char} (divider : Divider text) (rest : List Char) :
    Detached (text ++ rest) := by
  rcases divider with ⟨bare, nonempty⟩
  cases text with
  | nil => exact absurd rfl nonempty
  | cons head tail => exact (Detached.plain bare.1 : Detached (head :: tail))

/-! ## The tokens of a text -/

/-- Coming from outside, the scanner finds these tokens in the text, whatever
detached text follows. -/
def Finds (text : List Char) (tokens : List Token) : Prop :=
  forall rest, Detached rest ->
    scanFrom .outside (text ++ rest) = (scanFrom .outside rest).map (tokens ++ ·)

namespace Finds

variable {first second : List Char} {tokens others : List Token}

theorem append (left : Finds first tokens) (right : Finds second others)
    (detached : Detached second) : Finds (first ++ second) (tokens ++ others) := by
  intro rest outside
  rw [List.append_assoc, left _ (detached.append outside), right rest outside]
  simp [Function.comp_def]

theorem plain (plain : plainText first = true) : Finds first (first.map Token.plain) :=
  fun rest _ => scanFrom_plainText plain rest

/-- Behind plain text the scanner is outside again, even in front of a mark. -/
theorem plain_append (plain : plainText first = true) (right : Finds second others) :
    Finds (first ++ second) (first.map Token.plain ++ others) := by
  intro rest outside
  rw [List.append_assoc, scanFrom_plainText plain, right rest outside]
  simp [Function.comp_def]

theorem quote (name : String) : Finds (Identifier.quote name).toList [.name name] := by
  intro rest outside
  have quoted := scanFrom_quoted .name name.toList rest outside
  rw [Quote.doubled_name] at quoted
  simpa [Quote.mark, Quote.token] using quoted

theorem literal (text : String) :
    Finds (Quote.literal.mark :: (Quote.literal.doubled text.toList ++ [Quote.literal.mark]))
      [.literal text] := by
  intro rest outside
  have quoted := scanFrom_quoted .literal text.toList rest outside
  simpa [Quote.token] using quoted

theorem placeholder : Finds ['?'] [.placeholder] :=
  fun _ _ => rfl

theorem scanFrom_eq (finds : Finds first tokens) : scanFrom .outside first = some tokens := by
  have atEnd := finds [] .nil
  rw [List.append_nil] at atEnd
  rw [atEnd]
  simp [scanFrom, finish]

/-- The whole text is scanned to its end. -/
theorem scan {sql : String} (finds : Finds sql.toList tokens) : scan sql = some tokens :=
  finds.scanFrom_eq

/-- Only in no text there are no tokens. -/
theorem ne_nil (finds : Finds first tokens) (some : first ≠ []) : tokens ≠ [] :=
  scanFrom_ne_nil finds.scanFrom_eq (.inr some)

end Finds

/-! ## What a text shows -/

/-- Coming from outside, the scanner finds these names, these values and so many empty
pairs in the text, and nothing harmful, whatever detached text follows. -/
def Shows (text : List Char) (names : List String) (values : List Token) (pairs : Nat) : Prop :=
  ∃ tokens, Finds text tokens ∧ Holds tokens names values pairs

namespace Shows

variable {first second : List Char} {names otherNames : List String}
  {values otherValues : List Token} {pairs more : Nat}

theorem append (left : Shows first names values pairs)
    (right : Shows second otherNames otherValues more) (detached : Detached second) :
    Shows (first ++ second) (names ++ otherNames) (values ++ otherValues) (pairs + more) := by
  rcases left with ⟨tokens, finds, holds⟩
  rcases right with ⟨others, othersFinds, othersHold⟩
  exact ⟨tokens ++ others, finds.append othersFinds detached, holds.append othersHold⟩

theorem bare (bare : Bare first) : Shows first [] [] 0 :=
  ⟨_, .plain bare.1, .bare bare⟩

theorem nil : Shows [] [] [] 0 :=
  .bare (by decide)

theorem bare_append (bare : Bare first) (right : Shows second names values pairs) :
    Shows (first ++ second) names values pairs := by
  rcases right with ⟨tokens, finds, holds⟩
  have both := (Holds.bare bare).append holds
  rw [Nat.zero_add] at both
  exact ⟨_, finds.plain_append bare.1, both⟩

theorem append_bare (left : Shows first names values pairs) (second : List Char)
    (bare : Bare second) : Shows (first ++ second) names values pairs := by
  have both := left.append (.bare bare) (.plain bare.1)
  rwa [List.append_nil, List.append_nil] at both

/-- Two texts with something bare between them. -/
theorem join (left : Shows first names values pairs) (between : List Char)
    (divider : Divider between) (right : Shows second otherNames otherValues more) :
    Shows (first ++ (between ++ second)) (names ++ otherNames) (values ++ otherValues)
      (pairs + more) := by
  apply left.append (right.bare_append divider.1)
  exact divider.detached second

/-- Something in parentheses. -/
theorem wrapped (inside : Shows first names values pairs) (some : first ≠ []) :
    Shows ('(' :: (first ++ [')'])) names values pairs := by
  rcases inside with ⟨tokens, finds, holds⟩
  have closed := finds.append (.plain (show plainText [')'] = true by decide)) (.plain (by decide))
  exact ⟨_, closed.plain_append (show plainText ['('] = true by decide),
    holds.wrapped (finds.ne_nil some)⟩

/-- Nothing in parentheses. -/
theorem emptyPair : Shows ['(', ')'] [] [] 1 :=
  ⟨_, .plain (by decide), .emptyPair⟩

theorem quote (name : String) : Shows (Identifier.quote name).toList [name] [] 0 :=
  ⟨_, .quote name, .name name⟩

theorem literal (text : String) :
    Shows (Quote.literal.mark :: (Quote.literal.doubled text.toList ++ [Quote.literal.mark]))
      [] [.literal text] 0 :=
  ⟨_, .literal text, .literal text⟩

theorem placeholder : Shows ['?'] [] [.placeholder] 0 :=
  ⟨_, .placeholder, .placeholder⟩

/-- Texts with a bare separator between every two show what they show in turn.  The pairs
in each of them are those of its members that are hollow. -/
theorem intercalate {Item Member : Type} (separator : List Char)
    (divider : Divider separator) {text : Item -> List Char} {namesOf : Item -> List String}
    {valuesOf : Item -> List Token} {members : Item -> List Member} {hollow : Member -> Bool}
    {items : List Item}
    (each : forall item, item ∈ items ->
      Shows (text item) (namesOf item) (valuesOf item) ((members item).countP hollow)) :
    Shows (separator.intercalate (items.map text)) (items.flatMap namesOf)
      (items.flatMap valuesOf) ((items.flatMap members).countP hollow) := by
  induction items with
  | nil => exact .nil
  | cons item rest ih =>
      have first := each item List.mem_cons_self
      have behind := ih fun other member => each other (List.mem_cons_of_mem _ member)
      cases rest with
      | nil => simpa using first
      | cons next others =>
          simpa [List.append_assoc] using first.join separator divider behind

end Shows
end Scanner
end SelectBuilder
