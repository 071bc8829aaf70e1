import SelectBuilder.Proofs.QueryShape
import SelectBuilder.Proofs.RawFree
import SelectBuilder.Proofs.StatementClauses

namespace SelectBuilder

/-!
# Telling clauses apart

Two queries without raw SQL that are written alike have the same clauses.  What is
written in them is made of words, of which none begins a clause.  So the text
divides into the sections it was put together from, every section belongs to one
clause, and what stands in it can be read: a list at its commas, and a join name by
name.
-/

/-! ## Readable clauses -/

namespace Clauses

/-- The parts of the clauses are words, of which none begins a clause, and none in a
member of a list is a comma. -/
structure IsReadable (clauses : Clauses) : Prop where
  selected_ne_nil : clauses.selected ≠ []
  selected : forall text, text ∈ clauses.selected -> MadeOf IsItem (" " ++ text)
  joins : forall join, join ∈ clauses.joins -> IsInner (" " ++ join.condition)
  whereText : forall text, clauses.whereText = some text -> MadeOf IsInner (" " ++ text)
  grouping : forall text, text ∈ clauses.grouping -> MadeOf IsItem (" " ++ text)
  ordering : forall entry, entry ∈ clauses.ordering -> MadeOf IsItem (" " ++ entry.1)

variable {clauses : Clauses}

theorem IsReadable.orderTexts (readable : clauses.IsReadable) :
    forall text, text ∈ clauses.orderTexts -> MadeOf IsItem (" " ++ text) := by
  intro text member
  rcases List.mem_map.mp member with ⟨entry, among, rfl⟩
  have direction : IsItem (" " ++ entry.2.sql) := by
    cases entry.2 <;> exact .spaced (by decide) (by decide)
  have whole := (readable.ordering entry among).append (.word direction)
  simpa only [orderText, String.append_assoc] using whole

end Clauses

/-- A column in a call is one word: what a function is called is not quoted, but its
parenthesis is part of the word. -/
theorem IsItem.called (column : Column) (function : Option String) :
    IsItem (" " ++ Selection.sql ⟨.column column, function, none⟩) := by
  cases function with
  | none => exact .column column
  | some function =>
      have blanks : Balanced (" " ++ column.sql ++ " ") :=
        (Balanced.append (by decide) column.balanced_sql).append (by decide)
      have written : Selection.sql ⟨.column column, some function, none⟩ =
          Identifier.functionName function ++ ("(" ++ (" " ++ column.sql ++ " ") ++ ")") := by
        apply String.toList_inj.mp
        simp [Selection.sql, Target.sql]
      rw [written]
      have opening : '(' ∈ (Identifier.functionName function ++
          ("(" ++ (" " ++ column.sql ++ " ") ++ ")")).toList := by
        simp
      exact .of_mem ((Solid.functionName function).append (.enclosed blanks)) opening (by decide)

theorem Selection.madeOf_sql {selection : Selection} (isColumn : selection.target.IsColumn) :
    MadeOf IsItem (" " ++ selection.sql) := by
  rcases selection with ⟨target, function, aliasName⟩
  cases target with
  | raw sql => exact isColumn.elim
  | column column =>
      have called := MadeOf.word (IsItem.called column function)
      cases aliasName with
      | none => exact called
      | some aliasName =>
          have as : IsItem (" " ++ "AS") := .spaced (by decide) (by decide)
          have whole := (called.append (.word as)).append (.word (.quote aliasName))
          have written : " " ++ Selection.sql ⟨.column column, function, some aliasName⟩ =
              " " ++ Selection.sql ⟨.column column, function, none⟩ ++ (" " ++ "AS") ++
                (" " ++ Identifier.quote aliasName) := by
            apply String.toList_inj.mp
            simp [Selection.sql]
          rw [written]
          exact whole

theorem Target.madeOf_sql {target : Target} (isColumn : target.IsColumn) :
    MadeOf IsItem (" " ++ target.sql) := by
  cases target with
  | raw sql => exact isColumn.elim
  | column column => exact .word (.column column)

/-- Conditions that hold together are words between which `AND` stands. -/
theorem madeOf_conjunction {units : List String}
    (each : forall unit, unit ∈ units -> MadeOf IsInner (" " ++ unit)) {text : String}
    (written : conjunction? units = some text) : MadeOf IsInner (" " ++ text) := by
  cases units with
  | nil => cases written
  | cons first others =>
      cases written
      have between : IsInner (" " ++ "AND") := ⟨.spaced (by decide), by decide⟩
      exact ⟨_, join_separatedWords (fun _ inner => inner.isWord) between each
        (List.cons_ne_nil first others)⟩

/-- The clauses of a query without raw SQL are readable. -/
theorem Query.isReadable_clauses {query : Query} (prepared : query.mode = .prepared)
    (named : query.IsNamed) (shaped : query.IsShaped) : query.clauses.IsReadable where
  selected_ne_nil := by
    unfold clauses
    cases query.columns <;> exact List.cons_ne_nil _ _
  selected text member := by
    have written (column : String) (among : column ∈ query.columns) :
        MadeOf IsItem (" " ++ column) := by
      rcases List.mem_map.mp among with ⟨selection, inside, rfl⟩
      exact Selection.madeOf_sql (named.selections selection inside)
    rw [clauses] at member
    cases columns : query.columns with
    | nil =>
        rw [columns, List.mem_singleton] at member
        rw [member]
        exact .word (.column ⟨some query.base, "*"⟩)
    | cons first others =>
        rw [columns] at member written
        exact written text member
  joins join member := by
    rcases List.mem_map.mp member with ⟨own, among, rfl⟩
    rcases (shaped.joins own among).1 with ⟨source, foreignKey, further, condition⟩
    have unit : own.condition.IsUnit := by
      rw [condition]
      exact .all (by simp)
    rw [unit.sql_fragment_true, prepared]
    exact (IsItem.enclosed
      (Condition.isBalanced_fragment (named.joins own among) false)).toIsInner
  whereText text written := by
    change query.whereText? = some text at written
    rw [shaped.isWrittenInUnits.text, prepared] at written
    refine madeOf_conjunction ?_ written
    intro unit member
    rcases List.mem_map.mp member with ⟨condition, among, rfl⟩
    exact .word (IsItem.enclosed
      (Condition.isBalanced_fragment (named.conditions condition among) false)).toIsInner
  grouping text member := by
    rcases List.mem_map.mp member with ⟨target, among, rfl⟩
    exact Target.madeOf_sql (named.grouping target among)
  ordering entry member := by
    rcases List.mem_map.mp member with ⟨own, among, rfl⟩
    exact Target.madeOf_sql (named.ordering own among)

/-! ## Readable sections -/

theorem madeOf_of_mem_listSection {heading : Heading} {texts : List String}
    (items : forall text, text ∈ texts -> MadeOf IsItem (" " ++ text)) {part : Section}
    (member : part ∈ listSection heading texts) : MadeOf IsInner part.body := by
  rcases eq_of_mem_listSection member with ⟨notNil, only⟩
  have opening : MadeOf IsInner (" " ++ "BY") := .keyword (by decide) (by decide)
  rw [only]
  exact opening.append (madeOf_listed items notNil)

theorem madeOf_of_mem_numberSection {heading : Heading} {number : Option UInt64} {part : Section}
    (member : part ∈ optionSection heading (number.map fun number => number.toNat.repr)) :
    MadeOf IsInner part.body := by
  rcases List.mem_map.mp member with ⟨text, written, rfl⟩
  rcases Option.map_eq_some_iff.mp (Option.mem_toList.mp written) with ⟨number, -, rfl⟩
  exact .word (IsItem.numeral number.toNat).toIsInner

/-- A join is the words of its kind, its table, its alias and its condition. -/
theorem JoinClause.madeOf_body {join : JoinClause} (condition : IsInner (" " ++ join.condition)) :
    MadeOf IsInner join.body := by
  have further : ∃ text, join.kind.further = text ++ " " ∧ MadeOf IsInner text := by
    have joinWord : MadeOf IsInner (" " ++ "JOIN") := .keyword (by decide) (by decide)
    have outerWord : MadeOf IsInner (" " ++ "OUTER") := .keyword (by decide) (by decide)
    cases join.kind with
    | inner => exact ⟨_, rfl, joinWord⟩
    | left => exact ⟨_, rfl, outerWord.append joinWord⟩
    | right => exact ⟨_, rfl, outerWord.append joinWord⟩
  have source : ∃ text, MadeOf IsInner (" " ++ text) ∧
      text = (join.database.elim "" fun database => Identifier.quote database ++ ".") ++
        Identifier.quote join.table := by
    cases join.database with
    | none => exact ⟨_, .word (IsItem.quote join.table).toIsInner, by simp⟩
    | some database =>
        have behind : Solid ("." ++ Identifier.quote join.table) :=
          Solid.append (by decide) (.quote join.table)
        exact ⟨_, .word (IsItem.quoteAppend database behind).toIsInner,
          by simp [String.append_assoc]⟩
  have asWord : MadeOf IsInner (" " ++ "AS") := .keyword (by decide) (by decide)
  have onWord : MadeOf IsInner (" " ++ "ON") := .keyword (by decide) (by decide)
  have aliasWord := MadeOf.word (IsItem.quote join.aliasName).toIsInner
  rcases further with ⟨kind, isKind, kindWords⟩
  rcases source with ⟨table, tableWord, isTable⟩
  have named := ((kindWords.append tableWord).append asWord).append aliasWord
  have whole := (named.append onWord).append (.word condition)
  have written : join.body = kind ++ (" " ++ table) ++ (" " ++ "AS") ++
      (" " ++ Identifier.quote join.aliasName) ++ (" " ++ "ON") ++ (" " ++ join.condition) := by
    apply String.toList_inj.mp
    simp [body, isKind, isTable]
  rw [written]
  exact whole

namespace Clauses

variable {clauses : Clauses}

/-- What is inside the sections begins no clause. -/
theorem IsReadable.inner (readable : clauses.IsReadable) {part : Section}
    (member : part ∈ clauses.sections) : MadeOf IsInner part.body := by
  rcases List.mem_flatMap.mp member with ⟨clause, -, inside⟩
  cases clause with
  | selection =>
      have list := madeOf_listed readable.selected readable.selected_ne_nil
      rw [Clauses.part] at inside
      split at inside
      · rcases List.mem_cons.mp inside with rfl | last
        · exact .empty IsInner
        · rw [List.mem_singleton.mp last]
          exact list
      · rw [List.mem_singleton.mp inside]
        exact list
  | source =>
      rw [List.mem_singleton.mp inside]
      exact .word (IsItem.quote clauses.base).toIsInner
  | joins =>
      rcases List.mem_map.mp inside with ⟨join, among, rfl⟩
      exact join.madeOf_body (readable.joins join among)
  | condition =>
      rcases List.mem_map.mp inside with ⟨text, written, rfl⟩
      exact readable.whereText text (Option.mem_toList.mp written)
  | grouping => exact madeOf_of_mem_listSection readable.grouping inside
  | ordering => exact madeOf_of_mem_listSection readable.orderTexts inside
  | limit => exact madeOf_of_mem_numberSection inside
  | offset => exact madeOf_of_mem_numberSection inside

end Clauses

/-! ## Reading a section -/

theorem eq_of_optionSection {heading : Heading} {first second : Option String}
    (same : optionSection heading first = optionSection heading second) : first = second := by
  cases first <;> cases second <;> simp_all [optionSection]

theorem eq_of_listSection {heading : Heading} {first second : List String}
    (firstItems : forall text, text ∈ first -> MadeOf IsItem (" " ++ text))
    (secondItems : forall text, text ∈ second -> MadeOf IsItem (" " ++ text))
    (same : listSection heading first = listSection heading second) : first = second := by
  cases first with
  | nil =>
      cases second with
      | nil => rfl
      | cons head rest => cases same
  | cons head rest =>
      cases second with
      | nil => cases same
      | cons other others =>
          have bodies := congrArg Section.body (List.head_eq_of_cons_eq same)
          exact eq_of_listed firstItems secondItems (List.cons_ne_nil _ _)
            (List.cons_ne_nil _ _) ((String.append_right_inj " BY").mp bodies)

namespace JoinClause

/-- The text of a join behind its database. -/
def rest (join : JoinClause) : List Char :=
  (Identifier.quote join.table).toList ++
    (' ' :: 'A' :: 'S' :: ' ' :: ((Identifier.quote join.aliasName).toList ++
      (' ' :: 'O' :: 'N' :: ' ' :: join.condition.toList)))

/-- The same with the database in front, if there is one. -/
def qualified (join : JoinClause) : List Char :=
  match join.database with
  | none => join.rest
  | some database => (Identifier.quote database).toList ++ '.' :: join.rest

theorem toList_body (join : JoinClause) :
    join.body.toList = join.kind.further.toList ++ join.qualified := by
  cases database : join.database <;> simp [body, qualified, rest, database]

theorem eq_of_rest {first second : JoinClause} (same : first.rest = second.rest) :
    first.table = second.table ∧ first.aliasName = second.aliasName ∧
      first.condition = second.condition := by
  rcases Identifier.eq_of_quote_cons same (by decide) (by decide) with ⟨tables, -, behind⟩
  simp only [List.cons.injEq, true_and] at behind
  rcases Identifier.eq_of_quote_cons behind (by decide) (by decide) with ⟨aliases, -, conditions⟩
  simp only [List.cons.injEq, true_and] at conditions
  exact ⟨tables, aliases, String.toList_inj.mp conditions⟩

/-- A name is followed by a dot only if it is the database. -/
theorem eq_of_qualified {first second : JoinClause} (same : first.qualified = second.qualified) :
    first.database = second.database ∧ first.rest = second.rest := by
  unfold qualified at same
  cases database : first.database <;> cases other : second.database <;>
    rw [database, other] at same
  case none.none => exact ⟨rfl, same⟩
  case none.some =>
    have next := (Identifier.eq_of_quote_cons same (by decide) (by decide)).2.1
    exact absurd next (by decide)
  case some.none =>
    have next := (Identifier.eq_of_quote_cons same (by decide) (by decide)).2.1
    exact absurd next (by decide)
  case some.some =>
    rcases Identifier.eq_of_quote_cons same (by decide) (by decide) with ⟨databases, -, rests⟩
    exact ⟨congrArg some databases, rests⟩

/-- A join can be read from its section. -/
theorem part_injective : Function.Injective part := by
  intro first second same
  have kinds : first.kind = second.kind := Heading.join.inj (congrArg Section.heading same)
  have bodies := congrArg (fun part => part.body.toList) same
  simp only [part, toList_body, kinds, List.append_cancel_left_eq] at bodies
  rcases eq_of_qualified bodies with ⟨databases, rests⟩
  rcases eq_of_rest rests with ⟨tables, aliases, conditions⟩
  cases first
  cases second
  simp_all

end JoinClause

namespace Clauses

variable {first second : Clauses}

theorem eq_of_selection (readable : first.IsReadable) (otherReadable : second.IsReadable)
    (same : first.part .selection = second.part .selection) :
    first.distinct = second.distinct ∧ first.selected = second.selected := by
  have both :
      first.distinct = second.distinct ∧ listed first.selected = listed second.selected := by
    unfold part at same
    cases one : first.distinct <;> cases other : second.distinct <;> simp_all
  rcases both with ⟨distinct, lists⟩
  exact ⟨distinct, eq_of_listed readable.selected otherReadable.selected
    readable.selected_ne_nil otherReadable.selected_ne_nil lists⟩

theorem orderText_injective : Function.Injective orderText := by
  rintro ⟨text, direction⟩ ⟨other, otherDirection⟩ same
  cases direction <;> cases otherDirection
  case ascending.ascending | descending.descending =>
    have texts := (String.append_left_inj _).mp ((String.append_left_inj _).mp same)
    exact Prod.ext texts rfl
  all_goals
    have backwards := congrArg (fun text => text.toList.reverse) same
    simp [orderText, Direction.sql] at backwards

theorem numeral_injective :
    Function.Injective fun number : UInt64 => number.toNat.repr := by
  intro one other same
  exact UInt64.toNat_inj.mp (eq_of_repr_eq same)

/-- The clauses can be read from their sections. -/
theorem eq_of_sections (readable : first.IsReadable) (otherReadable : second.IsReadable)
    (same : first.sections = second.sections) : first = second := by
  have parts (clause : Clause) : first.part clause = second.part clause := by
    rw [← filter_sections, same, filter_sections]
  rcases eq_of_selection readable otherReadable (parts .selection) with ⟨distinct, selected⟩
  have base : first.base = second.base := by
    have bodies := congrArg Section.body (List.head_eq_of_cons_eq (parts .source))
    exact Identifier.eq_of_quote_eq ((String.append_right_inj " ").mp bodies)
  have grouping := eq_of_listSection readable.grouping otherReadable.grouping (parts .grouping)
  have orderTexts :=
    eq_of_listSection readable.orderTexts otherReadable.orderTexts (parts .ordering)
  apply Clauses.ext
  case distinct => exact distinct
  case base => exact base
  case selected => exact selected
  case joins => exact List.map_injective_iff.mpr JoinClause.part_injective (parts .joins)
  case whereText => exact eq_of_optionSection (parts .condition)
  case grouping => exact grouping
  case ordering => exact List.map_injective_iff.mpr orderText_injective orderTexts
  case limit => exact Option.map_injective numeral_injective (eq_of_optionSection (parts .limit))
  case offset => exact Option.map_injective numeral_injective (eq_of_optionSection (parts .offset))

end Clauses

namespace Query

/-- The sections of a statement can be read from its text. -/
theorem readSections_build {query : Query} (readable : query.clauses.IsReadable) :
    readSections (words (" " ++ query.build.sql)) = query.clauses.sections := by
  rw [sql_build_eq_sections]
  exact readSections_words fun _ => readable.inner

/-- Prepared queries from calls without raw SQL that are written alike have the same
clauses. -/
theorem clauses_eq_of_sql_eq {first second : Query}
    (firstReachable : first.ReachableBy fun call => call.isRawFree = true)
    (secondReachable : second.ReachableBy fun call => call.isRawFree = true)
    (firstPrepared : first.mode = .prepared) (secondPrepared : second.mode = .prepared)
    (same : first.build.sql = second.build.sql) : first.clauses = second.clauses := by
  have readable := isReadable_clauses firstPrepared firstReachable.isNamed
    (Reachable.isShaped (firstReachable.mono fun _ _ => trivial))
  have otherReadable := isReadable_clauses secondPrepared secondReachable.isNamed
    (Reachable.isShaped (secondReachable.mono fun _ _ => trivial))
  apply Clauses.eq_of_sections readable otherReadable
  rw [← readSections_build readable, same, readSections_build otherReadable]

/-- Names and functions that are words of a statement, or nothing but separators. -/
def keywordCalls : List Call :=
  [.select "FROM" { function := some "DISTINCT", aliasName := some "a, \x60b" },
    .select "*" { function := some "" },
    .join "WHERE" ⟨"ON", ") AND ("⟩ { kind := some "left" },
    .orderBy ("LIMIT", "DESC") "asc",
    .limit 3]

/-- Other calls to the same end: the functions are called otherwise, some calls fail, and
what was selected and ordered by before is taken back. -/
def detourCalls : List Call :=
  [.select "id" {},
    .either .stop [.filter ⟨[("id", .term .null)]⟩, .join "x" ⟨"id", "id"⟩ {}, .reject ""],
    .selectOnly "FROM" { function := some "DIS-TINCT", aliasName := some "a, \x60b" },
    .select "*" { function := some "()" },
    .join "WHERE" ⟨"ON", ") AND ("⟩ { kind := some "LEFT" },
    .orderBy "id" "desc", .resetOrder, .orderBy ("LIMIT", "DESC") "ASC", .orderBy "id" "",
    .limit 3]

theorem clauses_eq_of_sql_eq_detourCalls :
    let first := (start "ORDER" .prepared (some "BY")).after keywordCalls
    let second := (start "ORDER" .prepared (some "BY")).after detourCalls
    first.build.sql = second.build.sql ∧ first.selections ≠ second.selections ∧
      first.clauses = second.clauses := by
  intro first second
  have started : (start "ORDER" .prepared (some "BY")).ReachableBy
      fun call => call.isRawFree = true := .start "ORDER" .prepared (some "BY")
  have rawFree : forall call, call ∈ keywordCalls -> call.isRawFree = true := by decide
  have otherRawFree : forall call, call ∈ detourCalls -> call.isRawFree = true := by decide
  have reachable := started.runScript .goOn rawFree
  have otherReachable := started.runScript .goOn otherRawFree
  have same : first.build.sql = second.build.sql := by rfl
  exact ⟨same, by decide, clauses_eq_of_sql_eq reachable otherReachable rfl rfl same⟩

end Query
end SelectBuilder
