import SelectBuilder.Proofs.LastingConditions
import SelectBuilder.Proofs.StatementSections

namespace SelectBuilder

/-!
# The clauses of a statement

A statement is written clause by clause, and a clause in no section, in one or in
several.  Which text stands in them is all that matters here: the statement of a
query is put together from the texts of its parts.
-/

/-! ## Clauses -/

/-- A join as it is written, in its parts. -/
structure JoinClause where
  kind : JoinKind
  database : Option String
  table : String
  aliasName : String
  condition : String

/-- What a statement says, clause by clause. -/
@[ext]
structure Clauses where
  distinct : Bool
  base : String
  selected : List String
  joins : List JoinClause
  whereText : Option String
  grouping : List String
  ordering : List (String × Direction)
  limit : Option UInt64
  offset : Option UInt64

/-- The clauses of a query.  Without selections all columns of the base table are
selected. -/
def Query.clauses (query : Query) : Clauses where
  distinct := query.distinct
  base := query.base
  selected :=
    match query.columns with
    | [] => [Identifier.qualify (some query.base) "*"]
    | columns => columns
  joins := query.joins.map fun join =>
    ⟨join.kind, query.database, join.table, join.aliasName,
      (join.condition.fragment true).sql query.mode⟩
  whereText := query.whereText?
  grouping := query.grouping.map Target.sql
  ordering := query.ordering.map fun entry => (entry.1.sql, entry.2)
  limit := query.limit
  offset := query.offset

/-- What is written of a kind behind its first word. -/
def JoinKind.further : JoinKind -> String
  | .inner => " JOIN "
  | .left => " OUTER JOIN "
  | .right => " OUTER JOIN "

/-- The text of a join behind the first word of its kind. -/
def JoinClause.body (join : JoinClause) : String :=
  join.kind.further ++
    (join.database.elim "" fun database => Identifier.quote database ++ ".") ++
    Identifier.quote join.table ++ " AS " ++ Identifier.quote join.aliasName ++ " ON " ++
    join.condition

def JoinClause.part (join : JoinClause) : Section :=
  ⟨.join join.kind, join.body⟩

/-- The clauses by themselves. -/
inductive Clause where
  | selection
  | source
  | joins
  | condition
  | grouping
  | ordering
  | limit
  | offset
deriving DecidableEq

def Clause.all : List Clause :=
  [.selection, .source, .joins, .condition, .grouping, .ordering, .limit, .offset]

/-- The clause in which a heading stands. -/
def Heading.clause : Heading -> Clause
  | .select => .selection
  | .distinct => .selection
  | .source => .source
  | .join _ => .joins
  | .condition => .condition
  | .grouping => .grouping
  | .ordering => .ordering
  | .limit => .limit
  | .offset => .offset

def optionSection (heading : Heading) (text : Option String) : List Section :=
  text.toList.map fun text => ⟨heading, " " ++ text⟩

/-- The section of a list, which is left out when there is nothing in it. -/
def listSection (heading : Heading) (texts : List String) : List Section :=
  match texts with
  | [] => []
  | texts => [⟨heading, " BY" ++ listed texts⟩]

theorem eq_of_mem_listSection {heading : Heading} {texts : List String} {part : Section}
    (member : part ∈ listSection heading texts) :
    texts ≠ [] ∧ part = ⟨heading, " BY" ++ listed texts⟩ := by
  cases texts with
  | nil => cases member
  | cons first others => exact ⟨List.cons_ne_nil _ _, List.mem_singleton.mp member⟩

namespace Clauses

def orderText (entry : String × Direction) : String :=
  entry.1 ++ " " ++ entry.2.sql

def orderTexts (clauses : Clauses) : List String :=
  clauses.ordering.map orderText

/-- The sections that a clause is written as. -/
def part (clauses : Clauses) : Clause -> List Section
  | .selection =>
      if clauses.distinct then [⟨.select, ""⟩, ⟨.distinct, listed clauses.selected⟩]
      else [⟨.select, listed clauses.selected⟩]
  | .source => [⟨.source, " " ++ Identifier.quote clauses.base⟩]
  | .joins => clauses.joins.map JoinClause.part
  | .condition => optionSection .condition clauses.whereText
  | .grouping => listSection .grouping clauses.grouping
  | .ordering => listSection .ordering clauses.orderTexts
  | .limit => optionSection .limit (clauses.limit.map fun limit => limit.toNat.repr)
  | .offset => optionSection .offset (clauses.offset.map fun offset => offset.toNat.repr)

def sections (clauses : Clauses) : List Section :=
  Clause.all.flatMap clauses.part

theorem clause_of_mem_part {clauses : Clauses} {clause : Clause} {part : Section}
    (member : part ∈ clauses.part clause) : part.heading.clause = clause := by
  cases clause with
  | selection =>
      rw [Clauses.part] at member
      split at member
      · rcases List.mem_cons.mp member with rfl | last
        · rfl
        · rw [List.mem_singleton.mp last]
          rfl
      · rw [List.mem_singleton.mp member]
        rfl
  | source => rw [List.mem_singleton.mp member]; rfl
  | grouping => rw [(eq_of_mem_listSection member).2]; rfl
  | ordering => rw [(eq_of_mem_listSection member).2]; rfl
  | _ =>
      rcases List.mem_map.mp member with ⟨_, _, rfl⟩
      rfl

/-- The sections of a clause can be found among all of them. -/
theorem filter_sections (clauses : Clauses) (clause : Clause) :
    clauses.sections.filter (fun part => part.heading.clause = clause) = clauses.part clause := by
  have kept (other : Clause) :
      (clauses.part other).filter (fun part => part.heading.clause = clause) =
        if other = clause then clauses.part clause else [] := by
    split
    · next same =>
        subst same
        exact List.filter_eq_self.mpr fun part member => decide_eq_true (clause_of_mem_part member)
    · next different =>
        apply List.filter_eq_nil_iff.mpr
        intro part member
        rw [clause_of_mem_part member, decide_eq_true_iff]
        exact different
  unfold sections
  rw [List.filter_flatMap]
  simp only [kept]
  cases clause <;> simp [Clause.all]

end Clauses

/-! ## Statements by their sections -/

theorem JoinKind.sql_eq (kind : JoinKind) :
    " " ++ (kind.sql ++ " ") = (Heading.join kind).word ++ kind.further := by
  cases kind <;> decide

theorem optionSection_text (heading : Heading) (text : Option String) :
    String.join ((optionSection heading text).map Section.text) =
      text.elim "" fun text => heading.word ++ " " ++ text := by
  cases text with
  | none => rfl
  | some text => simp [optionSection, Section.text, String.append_assoc]

theorem listSection_text (heading : Heading) {texts : List String} (some : texts ≠ []) :
    String.join ((listSection heading texts).map Section.text) =
      heading.word ++ " BY " ++ ", ".intercalate texts := by
  cases texts with
  | nil => exact absurd rfl some
  | cons first others =>
      simp [listSection, Section.text, listed, ← String.append_assoc]

namespace Query

/-- The text of a clause, put together from its sections. -/
def clauseText (query : Query) (clause : Clause) : String :=
  String.join ((query.clauses.part clause).map Section.text)

theorem selectClause_text (query : Query) :
    " " ++ query.selectClause.sql query.mode = query.clauseText .selection := by
  have columns : query.selectClause.sql query.mode = "SELECT " ++
      (if query.distinct then "DISTINCT " else "") ++
        ", ".intercalate query.clauses.selected := by
    unfold selectClause clauses
    cases query.columns <;> exact Fragment.sql_text query.mode _
  have same : query.clauses.distinct = query.distinct := rfl
  rw [columns, clauseText, Clauses.part, same]
  cases query.distinct <;>
    simp [Section.text, listed, Heading.word, Heading.name, ← String.append_assoc]

theorem fromClause_text (query : Query) :
    query.fromClause.sql query.mode = query.clauseText .source := by
  have opening : (" FROM " : String) = Heading.source.word ++ " " := rfl
  rw [fromClause, Fragment.sql_text, opening]
  simp [clauseText, Clauses.part, clauses, Section.text, String.append_assoc]

theorem joinClauses_text (query : Query) :
    query.joinClauses.sql query.mode = query.clauseText .joins := by
  rw [sql_joinClauses, clauseText, Clauses.part, clauses, joinTexts, List.map_map, List.map_map,
    List.map_map]
  congr 1
  apply List.map_congr_left
  intro join _
  have opening := join.kind.sql_eq
  simp only [Function.comp, Join.fragment, Fragment.sql_cons, Piece.sql, JoinClause.part,
    Section.text, JoinClause.body, ← String.append_assoc] at opening ⊢
  rw [opening]

theorem whereClause_text (query : Query) :
    query.whereClause.sql query.mode = query.clauseText .condition := by
  rw [sql_whereClause, clauseText, Clauses.part, optionSection_text]
  rfl

theorem groupClause_text (query : Query) :
    query.groupClause.sql query.mode = query.clauseText .grouping := by
  rw [groupClause, clauseText, Clauses.part, clauses]
  cases query.grouping with
  | nil => rfl
  | cons first others =>
      rw [listSection_text .grouping (by simp)]
      exact Fragment.sql_text query.mode _

theorem orderClause_text (query : Query) :
    query.orderClause.sql query.mode = query.clauseText .ordering := by
  have texts : query.clauses.orderTexts = query.ordering.map orderSql := by
    rw [Clauses.orderTexts, clauses, List.map_map]
    rfl
  rw [orderClause, clauseText, Clauses.part, texts]
  cases query.ordering with
  | nil => rfl
  | cons first others =>
      rw [listSection_text .ordering (by simp)]
      exact Fragment.sql_text query.mode _

theorem limitClause_text (query : Query) :
    query.limitClause.sql query.mode = query.clauseText .limit := by
  rw [limitClause, clauseText, Clauses.part, optionSection_text, clauses]
  cases query.limit with
  | none => rfl
  | some limit => exact Fragment.sql_text query.mode _

theorem offsetClause_text (query : Query) :
    query.offsetClause.sql query.mode = query.clauseText .offset := by
  rw [offsetClause, clauseText, Clauses.part, optionSection_text, clauses]
  cases query.offset with
  | none => rfl
  | some offset => exact Fragment.sql_text query.mode _

/-- The statement is written section by section. -/
theorem sql_build_eq_sections (query : Query) :
    " " ++ query.build.sql = String.join (query.clauses.sections.map Section.text) := by
  have parts : String.join (query.clauses.sections.map Section.text) =
      String.join (Clause.all.map query.clauseText) := by
    simp [Clauses.sections, Clause.all, clauseText, String.join_append]
  rw [parts, build, Fragment.build, fragment]
  simp only [Fragment.sql_append, ← String.append_assoc, selectClause_text, fromClause_text,
    joinClauses_text, whereClause_text, groupClause_text, orderClause_text, limitClause_text,
    offsetClause_text, Clause.all, List.map_cons, List.map_nil, String.join_cons, String.join_nil,
    String.append_empty]

end Query

end SelectBuilder
