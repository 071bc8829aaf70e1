import SelectBuilder.Condition

namespace SelectBuilder

/-!
# Filters

A filter is an ordered description of comparisons: entries of a key and an
operand.  Compiling it turns the entries into comparisons, in order, and gives
bare keys the table at hand.  Operator names are only looked up then, so one
unknown name refuses the filter as a whole.
-/

/-- The right side of an entry: one term, or terms under the names of operators. -/
inductive Operand where
  | term (term : Term)
  | operators (entries : List (String × Term))
deriving DecidableEq, Repr

namespace Operand

instance : Coe Term Operand := ⟨Operand.term⟩

/-- The comparisons an operand asks for.  A list alone asks for membership and any
other term for equality. -/
def comparisons : Operand -> Except BuildError (List (Operator × Term))
  | .term single@(.list _) => .ok [(.member, single)]
  | .term single => .ok [(.equal, single)]
  | .operators entries =>
      entries.mapM fun entry => do return (← Operator.ofName entry.1, entry.2)

def agrees : Operand -> Operand -> Bool
  | .term first, .term second => first.agrees second
  | .operators first, .operators second =>
      first.isEqv second fun left right => left.1 = right.1 && left.2.agrees right.2
  | _, _ => false

end Operand

structure Filter where
  entries : List (Key × Operand)
deriving DecidableEq, Repr

namespace Filter

def empty : Filter := ⟨[]⟩

instance : EmptyCollection Filter := ⟨empty⟩

instance : Append Filter := ⟨fun first second => ⟨first.entries ++ second.entries⟩⟩

@[simp] theorem entries_append (first second : Filter) :
    (first ++ second).entries = first.entries ++ second.entries := rfl

def size (filter : Filter) : Nat :=
  filter.entries.length

def isEmpty (filter : Filter) : Bool :=
  filter.entries.isEmpty

/-- The comparisons of one entry; its key is resolved once for all of them. -/
def compileEntry (defaultTable : String) (entry : Key × Operand) :
    Except BuildError (List Condition) := do
  let target := entry.1.resolve defaultTable
  return (← entry.2.comparisons).map fun comparison =>
    .compare ⟨target, comparison.1, comparison.2⟩

/-- The comparisons of all entries in order; the first unknown operator name
refuses the filter. -/
def compile (defaultTable : String) (filter : Filter) : Except BuildError (List Condition) := do
  return (← filter.entries.mapM (compileEntry defaultTable)).flatten

/-- The comparisons as one group that holds together, if there are any. -/
def compileGroup (defaultTable : String) (filter : Filter) :
    Except BuildError (Option Condition) := do
  match ← filter.compile defaultTable with
  | [] => return none
  | comparisons => return some (.group .and comparisons)

def agrees (first second : Filter) : Bool :=
  first.entries.isEqv second.entries fun left right =>
    left.1 = right.1 && left.2.agrees right.2

end Filter
end SelectBuilder
