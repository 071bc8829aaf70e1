import Mathlib.Data.List.Basic
import SelectBuilder.Proofs.Scanning

namespace SelectBuilder
namespace Scanner

/-!
# What is in a list of tokens

The names, the values and the empty pairs of parentheses in a list of tokens are found
part by part, and so is that there is nothing harmful in it.  A pair could only be made
of two parts when one ends with an opening parenthesis and the other begins with a
closing one.
-/

/-! ## Harmless tokens -/

/-- Outside names and literals there are only plain characters, and a minus is
always followed by a digit. -/
def Harmless : List Token -> Prop
  | [] => True
  | .plain character :: rest =>
      isPlain character = true ∧
        (character = '-' ->
          ∃ digit behind, rest = .plain digit :: behind ∧ digit.isDigit = true) ∧
        Harmless rest
  | _ :: rest => Harmless rest

theorem Harmless.append {first second : List Token} (left : Harmless first)
    (right : Harmless second) : Harmless (first ++ second) := by
  induction first with
  | nil => exact right
  | cons token rest ih =>
      cases token with
      | plain character =>
          rcases left with ⟨plain, sign, behind⟩
          refine ⟨plain, fun minus => ?_, ih behind⟩
          rcases sign minus with ⟨digit, more, next, isDigit⟩
          exact ⟨digit, more ++ second, by rw [next]; rfl, isDigit⟩
      | _ => exact ih left

theorem Harmless.plain {text : List Char} (plain : plainText text = true) :
    Harmless (text.map Token.plain) := by
  induction text with
  | nil => trivial
  | cons head rest ih =>
      simp only [plainText, Bool.and_eq_true] at plain
      refine ⟨plain.1.1, fun minus => ?_, ih plain.2⟩
      cases rest with
      | nil => simp [minus] at plain
      | cons digit behind =>
          have signed := plain.1.2
          simp only [minus, List.head?_cons, Option.any_some] at signed
          exact ⟨digit, behind.map Token.plain, rfl, by simpa using signed⟩

theorem Harmless.isPlain {tokens : List Token} (harmless : Harmless tokens) {character : Char}
    (member : Token.plain character ∈ tokens) : isPlain character = true := by
  induction tokens with
  | nil => cases member
  | cons token rest ih =>
      rcases List.mem_cons.mp member with same | behind
      · subst same
        exact harmless.1
      · cases token with
        | plain other => exact ih harmless.2.2 behind
        | _ => exact ih harmless behind

/-- Nowhere do two minus signs stand together. -/
theorem Harmless.no_double_minus {before behind : List Token} :
    ¬ Harmless (before ++ .plain '-' :: .plain '-' :: behind) := by
  induction before with
  | nil =>
      intro harmless
      rcases harmless.2.1 rfl with ⟨digit, more, next, isDigit⟩
      injection next with same
      injection same with same
      rw [← same] at isDigit
      exact absurd isDigit (by decide)
  | cons token rest ih =>
      intro harmless
      cases token with
      | plain character => exact ih harmless.2.2
      | _ => exact ih harmless

/-! ## Empty pairs -/

/-- The number of opening parentheses that are closed at once. -/
def emptyPairs : List Token -> Nat
  | [] => 0
  | token :: rest =>
      (if token = .plain '(' ∧ rest.head? = some (.plain ')') then 1 else 0) + emptyPairs rest

theorem emptyPairs_append {first second : List Token}
    (last : first.getLast? ≠ some (.plain '(')) :
    emptyPairs (first ++ second) = emptyPairs first + emptyPairs second := by
  induction first with
  | nil => simp [emptyPairs]
  | cons token rest ih =>
      cases rest with
      | nil =>
          have notOpening : token ≠ .plain '(' := by simpa using last
          simp [emptyPairs, notOpening]
      | cons next others =>
          -- The first token sees only the next one, which is the same in the longer list.
          have behind := ih (by simpa using last)
          rw [List.cons_append, emptyPairs, behind, ← Nat.add_assoc]
          rfl

theorem emptyPairs_eq_zero {tokens : List Token} (none : .plain '(' ∉ tokens) :
    emptyPairs tokens = 0 := by
  induction tokens with
  | nil => rfl
  | cons token rest ih =>
      rcases not_or.mp (mt List.mem_cons.mpr none) with ⟨different, behind⟩
      rw [emptyPairs, if_neg fun both => different both.1.symm, ih behind]

theorem emptyPairs_ne_zero_iff {tokens : List Token} :
    emptyPairs tokens ≠ 0 ↔ [.plain '(', .plain ')'] <:+: tokens := by
  induction tokens with
  | nil => simp [emptyPairs]
  | cons token rest ih =>
      have atOnce : [.plain '(', .plain ')'] <+: token :: rest ↔
          token = .plain '(' ∧ rest.head? = some (.plain ')') := by
        rw [List.cons_prefix_cons]
        cases rest <;> simp [eq_comm]
      rw [List.infix_cons_iff, ← ih, atOnce, emptyPairs]
      split <;> simp [*]

/-! ## All of it -/

/-- There are these names, these values and so many empty pairs in the tokens, and nothing
harmful.  The tokens neither close what may be opened before them nor open what may be
closed behind them. -/
structure Holds (tokens : List Token) (names : List String) (values : List Token)
    (pairs : Nat) : Prop where
  harmless : Harmless tokens
  first : tokens.head? ≠ some (.plain ')')
  last : tokens.getLast? ≠ some (.plain '(')
  names : tokens.filterMap Token.name? = names
  values : tokens.filter Token.isValue = values
  pairs : emptyPairs tokens = pairs

/-- Plain text without parentheses. -/
def Bare (text : List Char) : Prop :=
  plainText text = true ∧ '(' ∉ text ∧ ')' ∉ text

instance (text : List Char) : Decidable (Bare text) :=
  inferInstanceAs (Decidable (_ ∧ _ ∧ _))

theorem Bare.of_forall {text : List Char} (plain : plainText text = true)
    (each : forall character, character ∈ text -> character ≠ '(' ∧ character ≠ ')') :
    Bare text :=
  ⟨plain, fun opens => (each _ opens).1 rfl, fun closes => (each _ closes).2 rfl⟩

namespace Holds

variable {tokens others : List Token} {names otherNames : List String}
  {values otherValues : List Token} {pairs more : Nat}

theorem name (text : String) : Holds [.name text] [text] [] 0 :=
  ⟨trivial, by simp, by simp, rfl, rfl, rfl⟩

theorem literal (text : String) : Holds [.literal text] [] [.literal text] 0 :=
  ⟨trivial, by simp, by simp, rfl, rfl, rfl⟩

theorem placeholder : Holds [.placeholder] [] [.placeholder] 0 :=
  ⟨trivial, by simp, by simp, rfl, rfl, rfl⟩

theorem emptyPair : Holds [.plain '(', .plain ')'] [] [] 1 :=
  ⟨.plain (show plainText ['(', ')'] = true by decide), by simp, by simp, rfl, rfl, rfl⟩

theorem bare {text : List Char} (bare : Bare text) : Holds (text.map Token.plain) [] [] 0 := by
  have inText (character : Char) (member : .plain character ∈ text.map Token.plain) :
      character ∈ text := by
    rcases List.mem_map.mp member with ⟨_, among, ⟨⟩⟩
    exact among
  refine ⟨.plain bare.1, ?_, ?_, ?_, ?_, ?_⟩
  · exact fun closes => bare.2.2 (inText _ (List.mem_of_mem_head? closes))
  · exact fun opens => bare.2.1 (inText _ (List.mem_of_getLast? opens))
  · simp [List.filterMap_map, Function.comp_def, Token.name?]
  · simp [List.filter_map, Function.comp_def, Token.isValue]
  · exact emptyPairs_eq_zero fun opens => bare.2.1 (inText _ opens)

theorem append (left : Holds tokens names values pairs)
    (right : Holds others otherNames otherValues more) :
    Holds (tokens ++ others) (names ++ otherNames) (values ++ otherValues) (pairs + more) where
  harmless := left.harmless.append right.harmless
  first := by
    cases tokens with
    | nil => exact right.first
    | cons token rest => exact left.first
  last := by
    rw [List.getLast?_append]
    cases last : others.getLast? with
    | none => exact left.last
    | some token =>
        rw [Option.some_or, ← last]
        exact right.last
  names := by rw [List.filterMap_append, left.names, right.names]
  values := by rw [List.filter_append, left.values, right.values]
  pairs := by rw [emptyPairs_append left.last, left.pairs, right.pairs]

/-- What is in the parentheses keeps them apart. -/
theorem wrapped (inside : Holds tokens names values pairs) (some : tokens ≠ []) :
    Holds (.plain '(' :: (tokens ++ [.plain ')'])) names values pairs where
  harmless :=
    (Harmless.plain (show plainText ['('] = true by decide)).append
      (inside.harmless.append (.plain (show plainText [')'] = true by decide)))
  first := by simp
  last := by
    rw [← List.cons_append, List.getLast?_concat]
    simp
  names := by
    rw [List.filterMap_cons_none rfl, List.filterMap_append, inside.names]
    exact List.append_nil names
  values := by
    rw [List.filter_cons_of_neg Bool.false_ne_true, List.filter_append, inside.values]
    exact List.append_nil values
  pairs := by
    -- The opening parenthesis meets the inside and not the closing one.
    have next : (tokens ++ [Token.plain ')']).head? ≠ Option.some (.plain ')') := by
      rw [List.head?_append_of_ne_nil _ some]
      exact inside.first
    rw [emptyPairs, if_neg fun both => next both.2, Nat.zero_add, emptyPairs_append inside.last,
      inside.pairs]
    rfl

end Holds
end Scanner
end SelectBuilder
