import SelectBuilder.Column

namespace SelectBuilder

/-!
# Reading quoted columns

A quoted name can be read back from the front of any text, as long as no mark
follows that could double the closing one.  The same goes for a column with
its table, and the wildcard is read as the column of that name.  Nothing else
is read as a column, but for the wildcard in quotes, which no column is
written as.
-/

namespace Identifier

/-- Read on behind an opening mark: the name up to the closing mark, and the
text behind that.  Two marks in a row are one mark of the name. -/
def readInside : List Char -> Option (List Char × List Char)
  | [] => none
  | head :: rest =>
      if head = mark then
        match rest with
        | [] => some ([], [])
        | next :: behind =>
            if next = mark then (readInside behind).map fun found => (mark :: found.1, found.2)
            else some ([], next :: behind)
      else (readInside rest).map fun found => (head :: found.1, found.2)

/-- Read a quoted name. -/
def readName : List Char -> Option (String × List Char)
  | [] => none
  | head :: rest =>
      if head = mark then (readInside rest).map fun found => (String.ofList found.1, found.2)
      else none

/-- Read a column's own name, the wildcard or a quoted one. -/
def readColumnName (text : List Char) : Option (String × List Char) :=
  match text with
  | '*' :: rest => some ("*", rest)
  | _ => readName text

theorem readInside_cons_of_ne {head : Char} (different : head ≠ mark) (rest : List Char) :
    readInside (head :: rest) =
      (readInside rest).map fun found => (head :: found.1, found.2) := by
  cases rest <;> simp [readInside, different]

theorem readInside_doubled (name rest : List Char) (detached : rest.head? ≠ some mark) :
    readInside (doubled name ++ mark :: rest) = some (name, rest) := by
  induction name with
  | nil =>
      cases rest with
      | nil => simp [doubled, readInside]
      | cons next behind =>
          have different : next ≠ mark := fun same => detached (by rw [same]; rfl)
          simp [doubled, readInside, different]
  | cons head tail ih =>
      by_cases isMark : head = mark
      · simp [doubled, readInside, isMark, ih]
      · simp [doubled, readInside_cons_of_ne isMark, isMark, ih]

theorem readInside_eq_some_iff {text name rest : List Char} :
    readInside text = some (name, rest) ↔
      text = doubled name ++ mark :: rest ∧ rest.head? ≠ some mark := by
  refine ⟨fun found => ?_, ?_⟩
  · fun_induction readInside text generalizing name rest with
    | case1 => cases found
    | case2 =>
        cases found
        exact ⟨rfl, by simp⟩
    | case3 behind ih =>
        rcases Option.map_eq_some_iff.mp found with ⟨inner, read, same⟩
        cases same
        rcases ih read with ⟨written, detached⟩
        exact ⟨by simp [doubled, written], detached⟩
    | case4 next behind different =>
        cases found
        exact ⟨rfl, by simpa using different⟩
    | case5 head text different ih =>
        rcases Option.map_eq_some_iff.mp found with ⟨inner, read, same⟩
        cases same
        rcases ih read with ⟨written, detached⟩
        exact ⟨by simp [doubled, different, written], detached⟩
  · rintro ⟨written, detached⟩
    rw [written]
    exact readInside_doubled name rest detached

theorem readName_quote (name : String) (rest : List Char) (detached : rest.head? ≠ some mark) :
    readName ((quote name).toList ++ rest) = some (name, rest) := by
  have inside := readInside_doubled name.toList rest detached
  simp [readName, inside]

theorem readName_eq_some_iff {text rest : List Char} {name : String} :
    readName text = some (name, rest) ↔
      text = (quote name).toList ++ rest ∧ rest.head? ≠ some mark := by
  constructor
  · intro found
    cases text with
    | nil => cases found
    | cons head behind =>
        by_cases isMark : head = mark
        · rw [readName, if_pos isMark] at found
          rcases Option.map_eq_some_iff.mp found with ⟨inner, inside, same⟩
          cases same
          rcases readInside_eq_some_iff.mp inside with ⟨written, detached⟩
          exact ⟨by simp [isMark, written], detached⟩
        · rw [readName, if_neg isMark] at found
          cases found
  · rintro ⟨written, detached⟩
    rw [written]
    exact readName_quote name rest detached

/-- Two texts with quoted names in front are the same only if the names and what is
behind them are. -/
theorem eq_of_quote_append {first second : String} {rest other : List Char}
    (same : (quote first).toList ++ rest = (quote second).toList ++ other)
    (detached : rest.head? ≠ some mark) (otherDetached : other.head? ≠ some mark) :
    first = second ∧ rest = other := by
  have read := readName_quote first rest detached
  rw [same, readName_quote second other otherDetached] at read
  cases read
  exact ⟨rfl, rfl⟩

theorem eq_of_quote_cons {first second : String} {head other : Char} {rest others : List Char}
    (same : (quote first).toList ++ head :: rest = (quote second).toList ++ other :: others)
    (detached : head ≠ mark) (otherDetached : other ≠ mark) :
    first = second ∧ head = other ∧ rest = others := by
  rcases eq_of_quote_append same (by simpa using detached) (by simpa using otherDetached) with
    ⟨names, behind⟩
  exact ⟨names, List.cons.inj behind⟩

theorem eq_of_quote_eq {first second : String} (same : quote first = quote second) :
    first = second := by
  have written : (quote first).toList ++ [] = (quote second).toList ++ [] := by rw [same]
  exact (eq_of_quote_append written (by simp) (by simp)).1

/-- A column's own name is read where it is the bare wildcard or stands in quotes. -/
theorem readColumnName_eq_some_iff {text rest : List Char} {name : String} :
    readColumnName text = some (name, rest) ↔
      name = "*" ∧ text = '*' :: rest ∨
        text = (quote name).toList ++ rest ∧ rest.head? ≠ some mark := by
  unfold readColumnName
  split
  · next behind =>
      have unquoted : '*' :: behind ≠ (quote name).toList ++ rest := by
        rw [toList_quote]
        exact fun same => absurd (List.cons.inj same).1 (by decide)
      constructor
      · intro found
        cases found
        exact .inl ⟨rfl, rfl⟩
      · rintro (⟨rfl, same⟩ | ⟨same, -⟩)
        · cases same
          rfl
        · exact absurd same unquoted
  · next noWildcard =>
      rw [readName_eq_some_iff]
      constructor
      · exact .inr
      · rintro (⟨-, same⟩ | quoted)
        · exact absurd same (noWildcard rest)
        · exact quoted

theorem readColumnName_columnName (name : String) (rest : List Char)
    (detached : rest.head? ≠ some mark) :
    readColumnName ((columnName name).toList ++ rest) = some (name, rest) := by
  by_cases wildcard : name = "*"
  · subst wildcard
    rfl
  · rw [columnName, if_neg wildcard]
    exact readColumnName_eq_some_iff.mpr (.inr ⟨rfl, detached⟩)

end Identifier

namespace Column

/-- Read a column, with a table when a name is followed by a dot. -/
def read (text : List Char) : Option (Column × List Char) :=
  match text with
  | '*' :: rest => some (⟨none, "*"⟩, rest)
  | _ =>
      match Identifier.readName text with
      | some (table, '.' :: rest) =>
          (Identifier.readColumnName rest).map fun found => (⟨some table, found.1⟩, found.2)
      | some (name, rest) => some (⟨none, name⟩, rest)
      | none => none

/-- The column with all of its names in quotes, the wildcard too. -/
def quoted (column : Column) : String :=
  match column.table with
  | none => Identifier.quote column.name
  | some table => Identifier.quote table ++ "." ++ Identifier.quote column.name

theorem sql_eq_quoted {column : Column} (named : column.name ≠ "*") :
    column.sql = column.quoted := by
  rcases column with ⟨table, name⟩
  cases table <;> simp [sql, quoted, Identifier.qualify, Identifier.columnName, named]

theorem read_of_dot {text rest : List Char} {table : String}
    (front : Identifier.readName text = some (table, '.' :: rest)) :
    read text =
      (Identifier.readColumnName rest).map fun found => (⟨some table, found.1⟩, found.2) := by
  unfold read
  split
  · simp [Identifier.readName, Identifier.mark] at front
  · simp only [front]

theorem read_of_noDot {text rest : List Char} {name : String}
    (front : Identifier.readName text = some (name, rest)) (noDot : rest.head? ≠ some '.') :
    read text = some (⟨none, name⟩, rest) := by
  unfold read
  split
  · simp [Identifier.readName, Identifier.mark] at front
  · rw [front]
    cases rest with
    | nil => rfl
    | cons next behind =>
        have different : next ≠ '.' := by simpa using noDot
        simp [different]

/-- A column with a table is the table's name, a dot and the column's own name. -/
theorem read_eq_some_table_iff {text rest : List Char} {table name : String} :
    read text = some (⟨some table, name⟩, rest) ↔
      ∃ behind, text = (Identifier.quote table).toList ++ '.' :: behind ∧
        Identifier.readColumnName behind = some (name, rest) := by
  constructor
  · intro found
    unfold read at found
    split at found
    · cases found
    · split at found
      · next front =>
          rcases Option.map_eq_some_iff.mp found with ⟨inner, own, same⟩
          cases same
          exact ⟨_, (Identifier.readName_eq_some_iff.mp front).1, own⟩
      · cases found
      · cases found
  · rintro ⟨behind, written, own⟩
    have front := Identifier.readName_quote table ('.' :: behind) (by simp [Identifier.mark])
    rw [written, read_of_dot front, own]
    rfl

/-- A column without a table is the bare wildcard, or one name without a dot behind it. -/
theorem read_eq_some_noTable_iff {text rest : List Char} {name : String} :
    read text = some (⟨none, name⟩, rest) ↔
      name = "*" ∧ text = '*' :: rest ∨
        text = (Identifier.quote name).toList ++ rest ∧
          rest.head? ≠ some Identifier.mark ∧ rest.head? ≠ some '.' := by
  constructor
  · intro found
    unfold read at found
    split at found
    · cases found
      exact .inl ⟨rfl, rfl⟩
    · split at found
      · rcases Option.map_eq_some_iff.mp found with ⟨inner, own, same⟩
        cases same
      · next noDot front =>
          cases found
          rcases Identifier.readName_eq_some_iff.mp front with ⟨written, detached⟩
          refine .inr ⟨written, detached, fun dot => ?_⟩
          rcases List.head?_eq_some_iff.mp dot with ⟨behind, starts⟩
          exact noDot behind starts
      · cases found
  · rintro (⟨wildcard, bare⟩ | ⟨written, detached, noDot⟩)
    · rw [wildcard, bare]
      rfl
    · rw [written]
      exact read_of_noDot (Identifier.readName_quote name rest detached) noDot

/-- A column reads as itself in front of whatever cannot belong to it. -/
theorem read_sql (column : Column) (rest : List Char)
    (detached : rest.head? ≠ some Identifier.mark)
    (noDot : column.table = none -> rest.head? ≠ some '.') :
    read (column.sql.toList ++ rest) = some (column, rest) := by
  rcases column with ⟨table, name⟩
  cases table with
  | some table =>
      have own := Identifier.readColumnName_columnName name rest detached
      exact read_eq_some_table_iff.mpr ⟨_, by simp [sql, Identifier.qualify], own⟩
  | none =>
      by_cases wildcard : name = "*"
      · subst wildcard
        exact read_eq_some_noTable_iff.mpr (.inl ⟨rfl, rfl⟩)
      · rw [sql_eq_quoted wildcard]
        exact read_eq_some_noTable_iff.mpr (.inr ⟨rfl, detached, noDot rfl⟩)

/-- What is read stands in front of what is left, as it is written or as a wildcard in
quotes. -/
theorem eq_of_read {text rest : List Char} {column : Column}
    (found : read text = some (column, rest)) :
    text = column.sql.toList ++ rest ∨
      column.name = "*" ∧ text = column.quoted.toList ++ rest := by
  have spelled : text = column.sql.toList ++ rest ∨ text = column.quoted.toList ++ rest := by
    rcases column with ⟨table, name⟩
    cases table with
    | some table =>
        rcases read_eq_some_table_iff.mp found with ⟨behind, written, own⟩
        rcases Identifier.readColumnName_eq_some_iff.mp own with ⟨wildcard, bare⟩ | ⟨marked, -⟩
        · rw [written, bare, wildcard]
          exact .inl (by simp [sql, Identifier.qualify, Identifier.columnName])
        · rw [written, marked]
          exact .inr (by simp [quoted])
    | none =>
        rcases read_eq_some_noTable_iff.mp found with ⟨wildcard, bare⟩ | ⟨written, -⟩
        · rw [bare, wildcard]
          exact .inl rfl
        · exact .inr written
  by_cases wildcard : column.name = "*"
  · exact spelled.imp_right fun inQuotes => ⟨wildcard, inQuotes⟩
  · rw [← sql_eq_quoted wildcard, or_self] at spelled
    exact .inl spelled

theorem sql_injective : Function.Injective sql := by
  intro first second same
  have read := first.read_sql [] (by simp) (by simp)
  rw [same, second.read_sql [] (by simp) (by simp)] at read
  cases read
  rfl

/-- One reader gets every column back from the front of every text, if what follows
cannot belong to the column: it is no mark, and no dot behind a column without a table.
What it reads stands there as it is written, or is a wildcard in quotes.  So different
columns are written differently. -/
theorem read_exact :
    (forall (table : Option String) (name : String) (rest : List Char),
      rest.head? ≠ some Identifier.mark -> (table = none -> rest.head? ≠ some '.') ->
        read ((Identifier.qualify table name).toList ++ rest) = some (⟨table, name⟩, rest)) ∧
      (forall (text rest : List Char) (column : Column),
        read text = some (column, rest) ->
          text = column.sql.toList ++ rest ∨
            column.name = "*" ∧ text = column.quoted.toList ++ rest) ∧
      (Function.Injective fun column : Option String × String =>
        Identifier.qualify column.1 column.2) ∧
      Function.Injective sql := by
  refine ⟨fun table name => read_sql ⟨table, name⟩, fun text rest column => eq_of_read, ?_,
    sql_injective⟩
  rintro ⟨table, name⟩ ⟨other, otherName⟩ same
  have columns : Column.mk table name = ⟨other, otherName⟩ := sql_injective same
  cases columns
  rfl

/-- One name that looks like a table's and a column's, and a column that is nothing but a
mark, in front of a dot. -/
theorem read_exact_lookalikes :
    let comma := ", `c`".toList
    let dot := ".`c`".toList
    comma.head? ≠ some Identifier.mark ∧ comma.head? ≠ some '.' ∧
      read ("`a``.``b`".toList ++ comma) = some (⟨none, "a`.`b"⟩, comma) ∧
      dot.head? ≠ some Identifier.mark ∧
      read ("`a`.````".toList ++ dot) = some (⟨some "a", "`"⟩, dot) ∧
      Identifier.qualify none "a`.`b" ≠ Identifier.qualify (some "a") "b" := by
  intro comma dot
  rcases read_exact with ⟨reads, -, different, -⟩
  have alone := reads none "a`.`b" comma (by decide) (by decide)
  have dotted := reads (some "a") "`" dot (by decide) (by decide)
  refine ⟨by decide, by decide, alone, by decide, dotted, fun same => ?_⟩
  have pairs : ((none : Option String), "a`.`b") = (some "a", "b") := different same
  cases pairs

end Column
end SelectBuilder
