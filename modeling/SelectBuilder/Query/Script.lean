import SelectBuilder.Filter.Document
import SelectBuilder.Query.Join

namespace SelectBuilder

/-!
# Scripts of calls

A script is a list of calls on one query, of which some hold scripts in turn.
Running it reports for every call what came of it and the query behind it.
A failed call does not end a script by itself: the script says whether it
goes on, and where it would stop it can still tolerate single calls.
-/

/-- Whether the calls behind a failed one are still made. -/
inductive OnFailure where
  | stop
  | goOn
deriving DecidableEq, Repr

inductive Call where
  | filter (filter : Filter)
  | filterJson (document : Json)
  /-- Fail for a reason of the caller's own. -/
  | reject (reason : String)
  | join (table : String) (foreignKey : ForeignKey) (options : JoinOptions)
  | select (key : Key) (options : ColumnOptions)
  | selectOnly (key : Key) (options : ColumnOptions)
  | groupBy (key : Key)
  | orderBy (key : Key) (direction : String)
  | resetOrder
  | limit (limit : UInt64)
  | offset (offset : UInt64)
  | distinct (distinct : Bool)
  /-- Run a body in a scope of alternatives. -/
  | either (onFailure : OnFailure) (body : List Call)
  /-- Make a call that may fail without any script stopping for it. -/
  | tolerate (call : Call)

/-- What a script that meets failures in this way does when this call fails. -/
def Call.onFailure (script : OnFailure) : Call -> OnFailure
  | .tolerate _ => .goOn
  | _ => script

/-- What came of a call: its result, the reports of the calls in its body that
were made, and the query behind it. -/
structure Report where
  result : Except BuildError Unit
  inside : List Report
  query : Query

/-- What a call left behind, without what happened inside it. -/
def Report.outcome (report : Report) : Outcome :=
  ⟨report.result, report.query⟩

/-- What came of a script: the reports of its calls and the outcome of all of it. -/
structure Run where
  reports : List Report
  outcome : Outcome

/-- A call without a body, as it is reported. -/
def Outcome.report (outcome : Outcome) : Report :=
  ⟨outcome.result, [], outcome.query⟩

/-- A filter described by a document. -/
def Query.filterJson (query : Query) (document : Json) : Outcome :=
  match Filter.ofJson document with
  | .error error => .failure error query
  | .ok filter => query.filter filter

mutual

def Call.run (query : Query) : Call -> Report
  | .filter filter => (query.filter filter).report
  | .filterJson document => (query.filterJson document).report
  | .reject reason => (Outcome.failure (.invalidValue (.stated reason)) query).report
  | .join table foreignKey options => (query.join table foreignKey options).report
  | .select key options => (Outcome.success (query.select key options)).report
  | .selectOnly key options => (Outcome.success (query.selectOnly key options)).report
  | .groupBy key => (Outcome.success (query.groupBy key)).report
  | .orderBy key direction => (query.orderBy key direction).report
  | .resetOrder => (Outcome.success query.resetOrder).report
  | .limit limit => (Outcome.success (query.setLimit limit)).report
  | .offset offset => (Outcome.success (query.setOffset offset)).report
  | .distinct distinct => (Outcome.success (query.setDistinct distinct)).report
  | .either onFailure body =>
      let inside := runScript onFailure query.openScope body
      let outcome := query.settleScope inside.outcome
      ⟨outcome.result, inside.reports, outcome.query⟩
  | .tolerate call => call.run query

/-- Make the calls one after the other, each on the query that the one before it left. -/
def runScript (onFailure : OnFailure) (query : Query) : List Call -> Run
  | [] => ⟨[], .success query⟩
  | call :: rest =>
      let report := call.run query
      match call.onFailure onFailure, report.result with
      | .stop, .error error => ⟨[report], .failure error report.query⟩
      | _, _ =>
          let run := runScript onFailure report.query rest
          ⟨report :: run.reports, run.outcome⟩

end

/-- A scope in a script is a scope of the query, whose body is the script inside. -/
theorem Call.outcome_run_either (query : Query) (onFailure : OnFailure) (body : List Call) :
    ((Call.either onFailure body).run query).outcome =
      query.either fun opened => (runScript onFailure opened body).outcome := rfl

/-- A script at top level goes on after failures. -/
def Query.run (query : Query) (calls : List Call) : Run :=
  runScript .goOn query calls

/-- The query at the end of a script. -/
def Query.after (query : Query) (calls : List Call) : Query :=
  (query.run calls).outcome.query

end SelectBuilder
