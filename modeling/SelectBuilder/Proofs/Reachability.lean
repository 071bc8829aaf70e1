import SelectBuilder.Proofs.ScriptInduction

namespace SelectBuilder
namespace Query

/-!
# Reachable queries

A query comes from nothing but its table, and from calls.  Between the calls
of a body it is seen with its scope still open.  What every call keeps holds of
all queries that anybody can ever hold in his hands.  Where only calls of one kind
are made, it is enough that these keep it.
-/

/-- The queries that calls of one kind lead to.  A scope that is open is either the one
whose body is being run, or one of those around it. -/
inductive ReachableBy (admitted : Call -> Prop) : Query -> Prop where
  | start (base : String) (mode : RenderMode) (database : Option String) :
      ReachableBy admitted (start base mode database)
  | call {query : Query} {call : Call} (isAdmitted : admitted call) :
      ReachableBy admitted query -> ReachableBy admitted (call.run query).query
  | openScope {query : Query} : ReachableBy admitted query -> ReachableBy admitted query.openScope

/-- The queries that calls lead to. -/
def Reachable (query : Query) : Prop :=
  query.ReachableBy fun _ => True

namespace ReachableBy

variable {admitted : Call -> Prop} {query : Query}

theorem mono {others : Call -> Prop} (implies : forall call, admitted call -> others call)
    (reachable : query.ReachableBy admitted) : query.ReachableBy others := by
  induction reachable with
  | start base mode database => exact .start base mode database
  | @call query call isAdmitted _ ih => exact .call (implies call isAdmitted) ih
  | openScope _ ih => exact .openScope ih

/-- Between two calls, and behind the last one. -/
theorem runScript (onFailure : OnFailure) (reachable : query.ReachableBy admitted)
    {calls : List Call} (each : forall call, call ∈ calls -> admitted call) :
    (runScript onFailure query calls).outcome.query.ReachableBy admitted := by
  induction calls generalizing query with
  | nil => rw [runScript_nil]; exact reachable
  | cons call rest ih =>
      rcases List.forall_mem_cons.mp each with ⟨isAdmitted, behind⟩
      have next : (call.run query).query.ReachableBy admitted := .call isAdmitted reachable
      cases result : (call.run query).result with
      | ok => rw [runScript_cons_of_ok onFailure rest result]; exact ih next behind
      | error error =>
          cases handling : call.onFailure onFailure with
          | goOn => rw [runScript_cons_of_goOn query rest handling]; exact ih next behind
          | stop => rw [runScript_cons_of_error rest handling result]; exact next

/-- What holds at the start, and what no admitted call and no opened scope destroys,
holds of every query that is reachable by them. -/
theorem holds {property : Query -> Prop}
    (starts : forall base mode database, property (Query.start base mode database))
    (opened : forall query, property query -> property query.openScope)
    (leads : LeadsTo admitted fun before behind => property before -> property behind)
    (reachable : query.ReachableBy admitted) : property query := by
  induction reachable with
  | start base mode database => exact starts base mode database
  | @call query call isAdmitted _ ih => exact leads.call call isAdmitted query ih
  | @openScope query _ ih => exact opened query ih

end ReachableBy

theorem Reachable.runScript (onFailure : OnFailure) {query : Query} (reachable : query.Reachable)
    (calls : List Call) : (runScript onFailure query calls).outcome.query.Reachable :=
  ReachableBy.runScript onFailure reachable fun _ _ => trivial

end Query
end SelectBuilder
