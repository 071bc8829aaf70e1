import SelectBuilder.Proofs.ReadTerms
import SelectBuilder.Proofs.TopLevelWords

namespace SelectBuilder

/-!
# The sections of a statement

A statement is divided by the words with which its clauses begin.  Outside of names
and parentheses these words stand nowhere else: a name may be such a word, but it is
quoted, and a function of such a name has its parenthesis in the same word.  So the
sections can be read from the text, whichever of them there are.
-/

/-! ## Headings and other words -/

/-- The words by which a clause begins, or what may follow its first word. -/
inductive Heading where
  | select
  | distinct
  | source
  | join (kind : JoinKind)
  | condition
  | grouping
  | ordering
  | limit
  | offset
deriving DecidableEq

namespace Heading

def all : List Heading :=
  [.select, .distinct, .source, .join .inner, .join .left, .join .right, .condition,
    .grouping, .ordering, .limit, .offset]

def name : Heading -> String
  | .select => "SELECT"
  | .distinct => "DISTINCT"
  | .source => "FROM"
  | .join .inner => "INNER"
  | .join .left => "LEFT"
  | .join .right => "RIGHT"
  | .condition => "WHERE"
  | .grouping => "GROUP"
  | .ordering => "ORDER"
  | .limit => "LIMIT"
  | .offset => "OFFSET"

def word (heading : Heading) : String :=
  " " ++ heading.name

def ofWord? (word : String) : Option Heading :=
  all.find? fun heading => heading.word = word

theorem ofWord?_word (heading : Heading) : ofWord? heading.word = some heading := by
  rcases heading with _ | _ | _ | ⟨_ | _ | _⟩ | _ | _ | _ | _ | _ <;> decide

theorem isWord_word (heading : Heading) : IsWord heading.word := by
  apply IsWord.spaced
  rcases heading with _ | _ | _ | ⟨_ | _ | _⟩ | _ | _ | _ | _ | _ <;> decide

/-- Headings are in capital letters. -/
theorem ofWord?_eq_none {word : String} {character : Char} (member : character ∈ word.toList)
    (other : character ≠ ' ' ∧ character.isUpper = false) : ofWord? word = none := by
  have capitals (heading : Heading) :
      heading.name.toList.all (fun letter => letter.isUpper) = true := by
    rcases heading with _ | _ | _ | ⟨_ | _ | _⟩ | _ | _ | _ | _ | _ <;> decide
  apply List.find?_eq_none.mpr
  intro heading _ isWord
  rw [← of_decide_eq_true isWord, Heading.word, String.toList_append] at member
  rcases List.mem_append.mp member with blank | letter
  · exact other.1 (List.mem_singleton.mp blank)
  · have capital := List.all_eq_true.mp (capitals heading) character letter
    rw [other.2] at capital
    cases capital

end Heading

/-- A word of a clause that does not begin another one. -/
structure IsInner (word : String) : Prop where
  isWord : IsWord word
  noHeading : Heading.ofWord? word = none

/-- A word of one member of a list. -/
structure IsItem (word : String) : Prop extends IsInner word where
  noComma : word ≠ ","

theorem IsInner.comma : IsInner "," := ⟨.comma, by decide⟩

theorem IsItem.spaced {text : String} (solid : Solid text)
    (noHeading : Heading.ofWord? (" " ++ text) = none) : IsItem (" " ++ text) where
  isWord := .spaced solid
  noHeading := noHeading
  noComma same := by
    have first := congrArg (fun text => text.toList.head?) same
    simp at first

/-- A word with a character in it that no heading has. -/
theorem IsItem.of_mem {text : String} (solid : Solid text) {character : Char}
    (member : character ∈ text.toList) (other : character ≠ ' ' ∧ character.isUpper = false) :
    IsItem (" " ++ text) := by
  have inside : character ∈ (" " ++ text).toList := by
    rw [String.toList_append]
    exact List.mem_append_right _ member
  exact .spaced solid (Heading.ofWord?_eq_none inside other)

theorem IsItem.quoteAppend (name : String) {text : String} (solid : Solid text) :
    IsItem (" " ++ (Identifier.quote name ++ text)) := by
  have mark : Identifier.mark ∈ (Identifier.quote name ++ text).toList := by simp
  exact .of_mem ((Solid.quote name).append solid) mark (by decide)

theorem IsItem.quote (name : String) : IsItem (" " ++ Identifier.quote name) := by
  have alone := IsItem.quoteAppend name (rfl : Solid "")
  rwa [String.append_empty] at alone

theorem IsItem.column (column : Column) : IsItem (" " ++ column.sql) := by
  rcases column with ⟨table, name⟩
  cases table with
  | none =>
      rw [Column.sql, Identifier.qualify, Identifier.columnName]
      split
      · exact .spaced (by decide) (by decide)
      · exact .quote name
  | some table =>
      have dotted : Solid ("." ++ Identifier.columnName name) :=
        Solid.append (by decide) (.columnName name)
      rw [Column.sql, Identifier.qualify, String.append_assoc]
      exact .quoteAppend table dotted

theorem IsItem.numeral (number : Nat) : IsItem (" " ++ number.repr) := by
  rcases List.exists_mem_of_ne_nil _ (Nat.toDigits_ne_nil : Nat.toDigits 10 number ≠ []) with
    ⟨digit, member⟩
  have isDigit := Numeral.isDigit_toDigits member
  have inside : digit ∈ number.repr.toList := by rwa [Nat.toList_repr]
  have other : digit ≠ ' ' ∧ digit.isUpper = false := by
    constructor
    · rintro rfl
      exact absurd isDigit (by decide)
    · apply Bool.eq_false_iff.mpr
      intro isUpper
      have toNine := (Char.isDigit_iff_toNat.mp isDigit).2
      have fromA : 'A'.val ≤ digit.val ∧ digit.val ≤ 'Z'.val := of_decide_eq_true isUpper
      exact absurd (Nat.le_trans (UInt32.le_iff_toNat_le.mp fromA.1) toNine) (by decide)
  exact .of_mem (.numeral number) inside other

/-- What stands in parentheses is part of one word. -/
theorem IsItem.enclosed {text : String} (balanced : Balanced text) :
    IsItem (" " ++ ("(" ++ text ++ ")")) := by
  have opening : '(' ∈ ("(" ++ text ++ ")").toList := by simp
  exact .of_mem (.enclosed balanced) opening (by decide)

/-- A text that is put together from words with a property. -/
def MadeOf (property : String -> Prop) (text : String) : Prop :=
  ∃ list, String.join list = text ∧ forall word, word ∈ list -> property word

namespace MadeOf

variable {property other : String -> Prop} {first second text : String}

theorem empty (property : String -> Prop) : MadeOf property "" :=
  ⟨[], rfl, List.forall_mem_nil property⟩

theorem word (holds : property text) : MadeOf property text :=
  ⟨[text], by simp, List.forall_mem_singleton.mpr holds⟩

theorem keyword (solid : Solid text) (noHeading : Heading.ofWord? (" " ++ text) = none) :
    MadeOf IsInner (" " ++ text) :=
  .word ⟨.spaced solid, noHeading⟩

theorem append (left : MadeOf property first) (right : MadeOf property second) :
    MadeOf property (first ++ second) := by
  rcases left with ⟨list, rfl, each⟩
  rcases right with ⟨others, rfl, othersEach⟩
  exact ⟨list ++ others, String.join_append, List.forall_mem_append.mpr ⟨each, othersEach⟩⟩

theorem imp (made : MadeOf property text) (weaker : forall word, property word -> other word) :
    MadeOf other text := by
  rcases made with ⟨list, same, each⟩
  exact ⟨list, same, fun word member => weaker word (each word member)⟩

/-- The words can be found in the text. -/
theorem words (made : MadeOf property text) (isWord : forall word, property word -> IsWord word) :
    String.join (SelectBuilder.words text) = text ∧
      forall word, word ∈ SelectBuilder.words text -> property word := by
  rcases made with ⟨list, rfl, each⟩
  rw [words_join fun word member => isWord word (each word member)]
  exact ⟨rfl, each⟩

end MadeOf

/-! ## Sections -/

/-- A heading, and the text up to the next one. -/
structure Section where
  heading : Heading
  body : String

def Section.text (part : Section) : String :=
  part.heading.word ++ part.body

/-- The sections of a text that is given as its words. -/
def readSections : List String -> List Section
  | [] => []
  | word :: rest =>
      match Heading.ofWord? word with
      | some heading =>
          ⟨heading, String.join (rest.takeWhile fun other => (Heading.ofWord? other).isNone)⟩
            :: readSections rest
      | none => readSections rest

theorem readSections_append {list : List String}
    (inner : forall word, word ∈ list -> Heading.ofWord? word = none) (rest : List String) :
    readSections (list ++ rest) = readSections rest := by
  induction list with
  | nil => rfl
  | cons word others ih =>
      rw [List.cons_append, readSections, inner word List.mem_cons_self]
      exact ih fun other member => inner other (List.mem_cons_of_mem _ member)

/-- Sections can be read from their text. -/
theorem readSections_words {sections : List Section}
    (inner : forall part, part ∈ sections -> MadeOf IsInner part.body) :
    readSections (words (String.join (sections.map Section.text))) = sections := by
  -- The words of the sections behind the first one begin with a heading.
  suffices reads : ∃ list, String.join list = String.join (sections.map Section.text) ∧
      (forall word, word ∈ list -> IsWord word) ∧ readSections list = sections ∧
      list.takeWhile (fun word => (Heading.ofWord? word).isNone) = [] by
    rcases reads with ⟨list, same, each, read, -⟩
    rw [← same, words_join each, read]
  induction sections with
  | nil => exact ⟨[], rfl, List.forall_mem_nil _, rfl, rfl⟩
  | cons part rest ih =>
      rcases ih fun other member => inner other (List.mem_cons_of_mem _ member) with
        ⟨behind, same, each, read, begins⟩
      rcases inner part List.mem_cons_self with ⟨body, written, bodyInner⟩
      have noHeading (word : String) (member : word ∈ body) : Heading.ofWord? word = none :=
        (bodyInner word member).noHeading
      refine ⟨part.heading.word :: (body ++ behind), ?_, ?_, ?_, ?_⟩
      · rw [String.join_cons, String.join_append, written, same, List.map_cons, String.join_cons,
          Section.text, String.append_assoc]
      · apply List.forall_mem_cons.mpr ⟨part.heading.isWord_word, _⟩
        exact List.forall_mem_append.mpr ⟨fun word member => (bodyInner word member).isWord, each⟩
      · have taken : (body ++ behind).takeWhile (fun word => (Heading.ofWord? word).isNone) =
            body := by
          rw [List.takeWhile_append_of_pos, begins, List.append_nil]
          intro word member
          rw [noHeading word member]
          rfl
        rw [readSections, part.heading.ofWord?_word]
        simp only [taken, readSections_append noHeading, read, written]
      · rw [List.takeWhile_cons, part.heading.ofWord?_word]
        rfl

/-! ## Lists -/

/-- A list, with a blank in front. -/
def listed (texts : List String) : String :=
  " " ++ ", ".intercalate texts

/-- The words of texts, and one more between every two texts. -/
def separatedWords (between : String) (texts : List String) : List String :=
  [between].intercalate (texts.map fun text => words (" " ++ text))

theorem join_separatedWords {property : String -> Prop}
    (isWord : forall word, property word -> IsWord word) {between : String}
    (holds : property between) {texts : List String}
    (each : forall text, text ∈ texts -> MadeOf property (" " ++ text)) (some : texts ≠ []) :
    String.join (separatedWords between texts) = " " ++ (between ++ " ").intercalate texts ∧
      forall word, word ∈ separatedWords between texts -> property word := by
  induction texts with
  | nil => exact absurd rfl some
  | cons first rest ih =>
      rcases (each first List.mem_cons_self).words isWord with ⟨written, own⟩
      cases rest with
      | nil =>
          rw [separatedWords, List.map_singleton, List.intercalate_singleton,
            String.intercalate_singleton]
          exact ⟨written, own⟩
      | cons second others =>
          have restMade := fun text member => each text (List.mem_cons_of_mem first member)
          rcases ih restMade (List.cons_ne_nil second others) with ⟨behind, behindHolds⟩
          have split : separatedWords between (first :: second :: others) =
              words (" " ++ first) ++ between :: separatedWords between (second :: others) := by
            simp only [separatedWords, List.map_cons, List.intercalate_cons_cons,
              List.append_assoc, List.singleton_append]
          rw [split]
          refine ⟨?_, List.forall_mem_append.mpr
            ⟨own, List.forall_mem_cons.mpr ⟨holds, behindHolds⟩⟩⟩
          rw [String.join_append, String.join_cons, written, behind, String.intercalate_cons_cons]
          simp only [String.append_assoc]

/-- The words of a list are those of its members, and commas. -/
theorem join_words_listed {texts : List String}
    (items : forall text, text ∈ texts -> MadeOf IsItem (" " ++ text)) (some : texts ≠ []) :
    String.join (separatedWords "," texts) = listed texts ∧
      forall word, word ∈ separatedWords "," texts -> IsInner word :=
  join_separatedWords (fun _ inner => inner.isWord) .comma
    (fun text member => (items text member).imp fun _ item => item.toIsInner) some

theorem madeOf_listed {texts : List String}
    (items : forall text, text ∈ texts -> MadeOf IsItem (" " ++ text)) (some : texts ≠ []) :
    MadeOf IsInner (listed texts) :=
  ⟨separatedWords "," texts, join_words_listed items some⟩

/-- A list can be read from its text. -/
theorem eq_of_listed {first second : List String}
    (firstItems : forall text, text ∈ first -> MadeOf IsItem (" " ++ text))
    (secondItems : forall text, text ∈ second -> MadeOf IsItem (" " ++ text))
    (firstSome : first ≠ []) (secondSome : second ≠ [])
    (same : listed first = listed second) : first = second := by
  -- Cut into words and then at the commas, either text gives the words of its members.
  have members {texts : List String}
      (items : forall text, text ∈ texts -> MadeOf IsItem (" " ++ text)) (some : texts ≠ []) :
      ((words (listed texts)).splitOnP (· == ",")).map String.join =
        texts.map fun text => " " ++ text := by
    rcases join_words_listed items some with ⟨written, inner⟩
    rw [← written, words_join fun word member => (inner word member).isWord, separatedWords,
      Reader.splitOnP_intercalate "," (by decide) (by simpa using some), List.map_map]
    · apply List.map_congr_left
      intro text member
      exact ((items text member).words fun _ item => item.isWord).1
    · intro piece member word inside
      rcases List.mem_map.mp member with ⟨text, among, rfl⟩
      have item := ((items text among).words fun _ item => item.isWord).2 word inside
      exact beq_false_of_ne item.noComma
  have both := members firstItems firstSome
  rw [same, members secondItems secondSome] at both
  exact List.map_injective_iff.mpr (fun _ _ => (String.append_right_inj " ").mp) both.symm

end SelectBuilder
