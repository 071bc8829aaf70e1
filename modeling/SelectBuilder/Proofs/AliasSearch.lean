import SelectBuilder.Proofs.AliasNumbers

namespace SelectBuilder

/-!
# The search for a free number ends

The search goes from number to number as long as their aliases are in use, and nothing
in it says how far.  But there are only as many aliases in use as there are joins, and
the base table, so it cannot go farther than that, and neither can the counter from
which it starts.  Where the joins have been taken back with a scope, so have the
counters.
-/

/-- A search that counts from a number to the last one, where it ends.  It counts on
only where the alias is in use, and there must be a greater number to count to. -/
inductive SearchEnds (greatest : Nat) (inUse : String -> Bool) (table : String) :
    Nat -> Nat -> Prop where
  | found {number : Nat} :
      inUse (numberedAlias table number) = false ->
      SearchEnds greatest inUse table number number
  | onward {number last : Nat} :
      inUse (numberedAlias table number) = true -> number < greatest ->
      SearchEnds greatest inUse table (number + 1) last ->
      SearchEnds greatest inUse table number last

namespace SearchEnds

variable {greatest : Nat} {inUse : String -> Bool} {table : String}

/-- From one number the search can end in one way only. -/
theorem unique {number first second : Nat} (ends : SearchEnds greatest inUse table number first)
    (other : SearchEnds greatest inUse table number second) : first = second := by
  induction ends with
  | found free =>
      cases other with
      | found _ => rfl
      | onward taken _ _ => rw [free] at taken; cases taken
  | onward taken _ _ ih =>
      cases other with
      | found free => rw [free] at taken; cases taken
      | onward _ _ behind => exact ih behind

/-- The search with a limit to its skips is this search when it comes to a free number. -/
theorem of_freeNumber {skips number : Nat}
    (free : inUse (numberedAlias table (freeNumber inUse table skips number)) = false)
    (room : freeNumber inUse table skips number ≤ greatest) :
    SearchEnds greatest inUse table number (freeNumber inUse table skips number) := by
  induction skips generalizing number with
  | zero => exact .found free
  | succ skips ih =>
      rw [freeNumber] at free room ⊢
      split at free
      · next taken =>
          rw [if_pos taken] at room ⊢
          have ahead := le_freeNumber inUse table skips (number + 1)
          exact .onward taken (by omega) (ih free room)
      · next first =>
          rw [if_neg first]
          exact .found free

end SearchEnds

namespace Query

/-- Only as many numbers of a table can be taken as there are names that take them. -/
theorem le_of_none_free {query : Query} {table : String} {bound : Nat}
    (noneFree : forall number, number < bound -> ¬ query.IsFree table number) :
    bound ≤ query.joins.length + 1 := by
  have taken : forall offset, offset < bound ->
      query.aliasInUse (numberedAlias table (0 + offset)) = true := by
    intro number within
    rw [Nat.zero_add, ← Bool.not_eq_false, ← isFree_iff]
    exact noneFree number within
  have count := count_le_of_inUse (query.base :: query.aliases)
    (fun aliasName inUse => (query.aliasInUse_eq_true_iff aliasName).mp inUse) taken
  simpa [aliases] using count

namespace CountersTight

variable {query : Query}

theorem counters_le (tight : query.CountersTight) (table : String) :
    query.counters table ≤ query.joins.length + 1 :=
  le_of_none_free (tight table)

theorem nextNumber_le (tight : query.CountersTight) (table : String) :
    query.nextNumber table ≤ query.joins.length + 1 := by
  apply le_of_none_free
  intro number below free
  exact Nat.not_le.mpr below ((tight.isLeast table).2 free)

theorem searchEnds (tight : query.CountersTight) (table : String) {greatest : Nat}
    (room : query.joins.length + 1 ≤ greatest) :
    SearchEnds greatest query.aliasInUse table (query.counters table)
      (query.nextNumber table) :=
  .of_freeNumber ((query.isFree_iff table _).mp (query.isFree_nextNumber table))
    ((tight.nextNumber_le table).trans room)

end CountersTight

/-- In every reachable query the counters are at most one more than the number of
joins, and so is the number at which the search of any table ends, which is the number
that an unnamed join of the table gets.  Where the joins fit in memory, at two bytes or
more for each, all the numbers that the search counts to can be counted, up to the
greatest address, and so can the next counter. -/
theorem alias_search_ends {query : Query} (reachable : query.Reachable) (table : String) :
    query.counters table ≤ query.joins.length + 1 ∧
      query.nextNumber table ≤ query.joins.length + 1 ∧
      (forall last,
        SearchEnds (query.joins.length + 1) query.aliasInUse table (query.counters table) last ↔
          last = query.nextNumber table) ∧
      forall greatest size, 4 ≤ greatest -> 2 ≤ size -> query.joins.length * size ≤ greatest ->
        SearchEnds greatest query.aliasInUse table (query.counters table)
            (query.nextNumber table) ∧
          query.nextNumber table + 1 ≤ greatest := by
  have tight := reachable.countersTight
  refine ⟨tight.counters_le table, tight.nextNumber_le table, fun last => ⟨?_, ?_⟩, ?_⟩
  · exact fun ends => ends.unique (tight.searchEnds table (Nat.le_refl _))
  · rintro rfl
    exact tight.searchEnds table (Nat.le_refl _)
  · intro greatest size wide large fits
    have halved : query.joins.length * 2 ≤ greatest :=
      (Nat.mul_le_mul_left query.joins.length large).trans fits
    have bound := tight.nextNumber_le table
    exact ⟨tight.searchEnds table (by omega), by omega⟩

/-- The base table and a caller's alias are spelled like numbered aliases, and a scope
that fails has moved the counter. -/
def crowdedCalls : List Call :=
  [.join "u" ⟨"id", "a"⟩ {}, .join "v" ⟨"id", "a"⟩ { name := some "u_2" },
    .either .stop [.join "u" ⟨"id", "a"⟩ {}, .reject ""], .join "u" ⟨"id", "a"⟩ {}]

/-- The counter cannot be greater than it is here. -/
theorem alias_search_ends_crowdedCalls :
    let query := (start "u_0" .prepared none).after crowdedCalls
    query.Reachable ∧ query.joins.length = 3 ∧ query.counters "u" = 4 ∧
      query.counters "u" ≤ query.joins.length + 1 ∧
      SearchEnds 65535 query.aliasInUse "u" (query.counters "u") (query.nextNumber "u") ∧
      query.nextNumber "u" + 1 ≤ 65535 := by
  intro query
  have reachable : query.Reachable :=
    .runScript .goOn (.start "u_0" .prepared none) crowdedCalls
  rcases alias_search_ends reachable "u" with ⟨counter, -, -, memory⟩
  have ends := memory 65535 200 (by decide) (by decide) (by decide)
  exact ⟨reachable, by decide, by decide, counter, ends.1, ends.2⟩

end Query
end SelectBuilder
