import SelectBuilder.Proofs.ScriptInduction

namespace SelectBuilder

/-!
# Failed calls leave no trace

A call that fails may have taken some of its steps already, and a scope may
have made any number of calls before one of them failed.  Still the query is
afterwards what it was before.  So the failed calls can be struck out of a
script, together with all that was said inside them, and nobody can tell: the
calls that remain have the same results and see the same queries.
-/

/-! ## One failed call -/

/-- A call of the kinds that can fail, when it fails, has changed nothing. -/
def Outcome.Clean (before : Query) (outcome : Outcome) : Prop :=
  forall error, outcome.result = .error error -> outcome.query = before

theorem Query.clean_filter (query : Query) (filter : Filter) :
    (query.filter filter).Clean query := by
  intro error failed
  rw [filter_eq] at failed ⊢
  rcases compiled : filter.compileGroup query.base with error | _ | group
  · rfl
  · rw [compiled] at failed; cases failed
  · rw [compiled] at failed; cases failed

theorem Query.clean_filterJson (query : Query) (document : Json) :
    (query.filterJson document).Clean query := by
  unfold filterJson
  cases Filter.ofJson document with
  | error error => exact fun _ _ => rfl
  | ok filter => exact query.clean_filter filter

theorem Query.clean_orderBy (query : Query) (key : Key) (direction : String) :
    (query.orderBy key direction).Clean query := by
  intro error failed
  rw [orderBy_eq] at failed ⊢
  cases named : Direction.ofName direction with
  | error error => rfl
  | ok direction => rw [named] at failed; cases failed

theorem Query.clean_join (query : Query) (table : String) (foreignKey : ForeignKey)
    (options : JoinOptions) : (query.join table foreignKey options).Clean query := by
  intro error failed
  rw [join_eq] at failed ⊢
  cases planned : query.planJoin table foreignKey options with
  | error error => rfl
  | ok plan => rw [planned] at failed; cases failed

theorem Query.clean_settleScope (query : Query) (inside : Outcome) :
    (query.settleScope inside).Clean query := by
  intro error failed
  unfold settleScope at failed ⊢
  cases result : inside.result with
  | ok => rw [result] at failed; cases failed
  | error error => rfl

/-- Whatever the call, the query behind a failure is the query before it. -/
theorem Call.query_of_failed (call : Call) (query : Query) {error : BuildError}
    (failed : (call.run query).result = .error error) : (call.run query).query = query := by
  induction call using Call.induction with
  | simple call isSimple =>
      cases call with
      | filter filter => exact query.clean_filter filter error failed
      | filterJson document => exact query.clean_filterJson document error failed
      | orderBy key direction => exact query.clean_orderBy key direction error failed
      | join table foreignKey options =>
          exact query.clean_join table foreignKey options error failed
      | reject reason => rw [Call.run]; rfl
      | either onFailure body => exact isSimple.elim
      | tolerate inner => exact isSimple.elim
      | _ => rw [Call.run] at failed; cases failed
  | either onFailure body _ =>
      have clean := query.clean_settleScope (runScript onFailure query.openScope body).outcome
      rw [Call.run] at failed ⊢
      exact clean error failed
  | tolerate call ih =>
      rw [Call.run] at failed ⊢
      exact ih failed

/-! ## Scripts without their failed calls -/

mutual

/-- A call without the failed calls inside it. -/
def Call.withoutFailures (query : Query) : Call -> Call
  | .either onFailure body => .either onFailure (withoutFailures query.openScope body)
  | .tolerate call => .tolerate (call.withoutFailures query)
  | call => call

/-- The calls of a script that succeed when it runs, each without the failed
calls inside it. -/
def withoutFailures (query : Query) : List Call -> List Call
  | [] => []
  | call :: rest =>
      let report := call.run query
      match report.result with
      | .ok () => call.withoutFailures query :: withoutFailures report.query rest
      | .error _ => withoutFailures report.query rest

end

mutual

/-- A report without the reports of failed calls inside it. -/
def Report.withoutFailures : Report -> Report
  | ⟨result, inside, query⟩ => ⟨result, successes inside, query⟩

/-- The reports of the calls that succeeded, in their order. -/
def successes : List Report -> List Report
  | [] => []
  | report :: rest =>
      match report.result with
      | .ok () => report.withoutFailures :: successes rest
      | .error _ => successes rest

end

theorem Report.result_withoutFailures (report : Report) :
    report.withoutFailures.result = report.result := by
  cases report
  rw [Report.withoutFailures]

theorem Report.query_withoutFailures (report : Report) :
    report.withoutFailures.query = report.query := by
  cases report
  rw [Report.withoutFailures]

/-- The run of a successful script, when its failed calls are left out. -/
theorem runScript_withoutFailures_of_calls {calls : List Call}
    (each : forall call, call ∈ calls -> forall query : Query,
      (call.run query).result = .ok () ->
        (call.withoutFailures query).run query = (call.run query).withoutFailures)
    (onFailure : OnFailure) (query : Query)
    (succeeded : (runScript onFailure query calls).outcome.result = .ok ()) :
    runScript onFailure query (withoutFailures query calls) =
      ⟨successes (runScript onFailure query calls).reports,
        (runScript onFailure query calls).outcome⟩ := by
  induction calls generalizing query with
  | nil => simp [withoutFailures, runScript_nil, successes]
  | cons call rest ih =>
      have behind := ih fun next member => each next (List.mem_cons_of_mem _ member)
      cases result : (call.run query).result with
      | ok =>
          have first := each call List.mem_cons_self query result
          have sameQuery : ((call.withoutFailures query).run query).query =
              (call.run query).query := by
            rw [first, Report.query_withoutFailures]
          have firstSucceeds : ((call.withoutFailures query).run query).result = .ok () := by
            rw [first, Report.result_withoutFailures, result]
          rw [runScript_cons_of_ok onFailure rest result] at succeeded ⊢
          have shortened : withoutFailures query (call :: rest) =
              call.withoutFailures query :: withoutFailures (call.run query).query rest := by
            simp [withoutFailures, result]
          rw [shortened, runScript_cons_of_ok onFailure _ firstSucceeds, sameQuery,
            behind (call.run query).query succeeded, first]
          simp [Run.after, successes, result]
      | error error =>
          cases handling : call.onFailure onFailure with
          | stop =>
              rw [runScript_cons_of_error rest handling result] at succeeded
              cases succeeded
          | goOn =>
              have unchanged := call.query_of_failed query result
              rw [runScript_cons_of_goOn query rest handling, unchanged] at succeeded ⊢
              have shortened : withoutFailures query (call :: rest) =
                  withoutFailures query rest := by
                simp [withoutFailures, result, unchanged]
              rw [shortened, behind query succeeded]
              simp [Run.after, successes, result]

/-- A call that succeeds does the same without the failed calls inside it. -/
theorem Call.report_withoutFailures (call : Call) (query : Query)
    (succeeded : (call.run query).result = .ok ()) :
    (call.withoutFailures query).run query = (call.run query).withoutFailures := by
  induction call using Call.induction generalizing query with
  | simple call isSimple =>
      cases call with
      | either onFailure body => exact isSimple.elim
      | tolerate inner => exact isSimple.elim
      | _ =>
          simp [Call.withoutFailures, Call.run, Outcome.report, Report.withoutFailures, successes]
  | either onFailure body ih =>
      have bodySucceeds : (runScript onFailure query.openScope body).outcome.result = .ok () := by
        rw [Call.run] at succeeded
        unfold Query.settleScope at succeeded
        cases result : (runScript onFailure query.openScope body).outcome.result with
        | ok => rfl
        | error error => rw [result] at succeeded; cases succeeded
      have inside := runScript_withoutFailures_of_calls ih onFailure query.openScope bodySucceeds
      simp [Call.withoutFailures, Call.run, inside, Report.withoutFailures]
  | tolerate call ih =>
      rw [Call.run] at succeeded
      rw [Call.withoutFailures, Call.run, Call.run]
      exact ih query succeeded

/-- A script and the same script without its failed calls: every call that
remains has the same result, and leaves the same query, and so does every call
that is made later on. -/
theorem run_withoutFailures (query : Query) (calls : List Call) :
    query.run (withoutFailures query calls) =
        ⟨successes (query.run calls).reports, (query.run calls).outcome⟩ ∧
      forall further : List Call,
        (query.run (withoutFailures query calls ++ further)).reports =
            successes (query.run calls).reports ++
              (query.run (calls ++ further)).reports.drop calls.length ∧
          (query.run (withoutFailures query calls ++ further)).outcome =
            (query.run (calls ++ further)).outcome := by
  have shortened : query.run (withoutFailures query calls) =
      ⟨successes (query.run calls).reports, (query.run calls).outcome⟩ :=
    runScript_withoutFailures_of_calls (fun call _ => call.report_withoutFailures) .goOn query
      (result_runScript_goOn query calls)
  have sameQuery : query.after (withoutFailures query calls) = query.after calls := by
    unfold Query.after
    rw [shortened]
  refine ⟨shortened, fun further => ?_⟩
  rw [run_append, run_append, sameQuery, shortened]
  refine ⟨?_, rfl⟩
  rw [← length_reports_run query calls, List.drop_left]

end SelectBuilder
