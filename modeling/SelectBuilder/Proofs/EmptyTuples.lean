import SelectBuilder.Proofs.RawFree
import SelectBuilder.Proofs.ScannedQuery

namespace SelectBuilder

/-!
# Empty tuples

Groups without members are never written, and membership in no values is a
constant.  Only one thing is ever written as a pair of parentheses with nothing in
it: a comparison of another operator with the empty list.  The scanner finds exactly
as many such pairs in a statement without raw SQL as there are such comparisons in it.
-/

open Scanner

/-- In the statement of a query without raw SQL, prepared or with a formatter that
doubles quotes, the scanner finds an empty pair of parentheses for every comparison
with an empty list by an operator that does not ask for membership, and no other ones. -/
theorem emptyPairs_build_of_rawFree {query : Query}
    (reachable : query.ReachableBy fun call => call.isRawFree = true)
    (mode : query.mode = .prepared ∨ ∃ text, query.mode = .inline (quoteDoubling text)) :
    ∃ tokens, scan query.build.sql = some tokens ∧
      emptyPairs tokens = query.comparisons.countP Comparison.isEmptyTuple ∧
      ([.plain '(', .plain ')'] <:+: tokens ↔
        ∃ comparison, comparison ∈ query.comparisons ∧
          comparison.operator.isMembership = false ∧ comparison.term = .list []) := by
  have writes : ∃ token, Writes query.mode token := by
    rcases mode with prepared | ⟨text, inline⟩
    · rw [prepared]
      exact ⟨_, writes_prepared⟩
    · rw [inline]
      exact ⟨_, writes_inline text⟩
  rcases writes with ⟨token, writes⟩
  rcases ScansAs.statement writes reachable.isNamed with ⟨tokens, finds, holds⟩
  refine ⟨tokens, finds.scan, holds.pairs, ?_⟩
  rw [← emptyPairs_ne_zero_iff, holds.pairs, ← Nat.pos_iff_ne_zero, List.countP_pos_iff]
  simp [Comparison.isEmptyTuple]

/-- Two empty tuples, one of them from a document, beside empty lists of members, and
names and a function with parentheses in them. -/
def hollowTupleCalls : List Call :=
  [.filterJson (.object [("a()", .object [("equal", .array []), ("in", .array [])])]),
    .select "b" { function := some "now()", aliasName := some "()" },
    .join "u" ⟨"id", "()"⟩
      { filter := ⟨[(.bare "c", .operators [("not_like", .list []), ("not_in", .list [])])]⟩ }]

theorem emptyPairs_build_hollowTupleCalls :
    let query := (Query.start "t" .prepared none).after hollowTupleCalls
    query.ReachableBy (fun call => call.isRawFree = true) ∧ query.mode = .prepared ∧
      query.build.sql =
        "SELECT now( \x60t\x60.\x60b\x60 ) AS \x60()\x60 FROM \x60t\x60" ++
          " INNER JOIN \x60u\x60 AS \x60u_0\x60 ON (\x60t\x60.\x60()\x60 = \x60u_0\x60.\x60id\x60)" ++
          " WHERE (\x60t\x60.\x60a()\x60 = () AND 1=0)" ++
          " AND (\x60u_0\x60.\x60c\x60 NOT LIKE () AND 1=1)" ∧
      ∃ tokens, scan query.build.sql = some tokens ∧ emptyPairs tokens = 2 := by
  intro query
  have rawFree : allRawFree hollowTupleCalls = true := by decide
  have reachable : query.ReachableBy fun call => call.isRawFree = true :=
    Query.reachableBy_after rawFree "t" .prepared none
  rcases emptyPairs_build_of_rawFree reachable (.inl rfl) with ⟨tokens, scanned, count, -⟩
  have two : query.comparisons.countP Comparison.isEmptyTuple = 2 := by decide
  exact ⟨reachable, rfl, by decide +kernel, tokens, scanned, count.trans two⟩

/-- A document that asks for equality with no values at all. -/
def hollowDocument : Json :=
  .object [("a", .object [("equal", .array [])])]

/-- Such a document is accepted, and an empty pair is written for it. -/
theorem emptyPair_of_hollowDocument :
    let call := Call.filterJson hollowDocument
    let query := (Query.start "t" .prepared none).after [call]
    (call.run (Query.start "t" .prepared none)).result = .ok () ∧
      query.ReachableBy (fun call => call.isRawFree = true) ∧
      query.build.sql = "SELECT \x60t\x60.* FROM \x60t\x60 WHERE (\x60t\x60.\x60a\x60 = ())" ∧
      ∃ tokens, scan query.build.sql = some tokens ∧ [.plain '(', .plain ')'] <:+: tokens := by
  intro call query
  have rawFree : allRawFree [call] = true := by decide
  have reachable : query.ReachableBy fun call => call.isRawFree = true :=
    Query.reachableBy_after rawFree "t" .prepared none
  rcases ScansAs.statement writes_prepared reachable.isNamed with ⟨tokens, finds, holds⟩
  have one : query.comparisons.countP Comparison.isEmptyTuple = 1 := by decide
  have found : emptyPairs tokens ≠ 0 := by
    rw [holds.pairs, one]
    decide
  exact ⟨by rfl, reachable, by decide +kernel, tokens, finds.scan,
    emptyPairs_ne_zero_iff.mp found⟩

end SelectBuilder
