import Gatehouse.Service.Profile

/-!
# Deleting an account everywhere

A deletion runs through stages in order: the relationship service forgets the account family by family,
then its invitations, and last the record itself goes. Every stage says which failures it tolerates, and
since the record goes last, a deletion that is given up can be started again.

* `Deletion.plan` lists the stages for an account, and `Stage.tolerance` their rule.
* `Service.deleteEverywhere` runs them.
-/

namespace Gatehouse

namespace Deletion

inductive Stage
  | leaveFamily (familyId : Int)
  | deleteInvites
  | deleteRecord
  deriving DecidableEq, Repr

/-- Which failures of a stage a deletion survives. -/
inductive Tolerance
  /-- None. -/
  | none
  /-- Those where the relationship service refuses the request. -/
  | rejection
  deriving DecidableEq, Repr

/-- The rule of a stage. -/
def Stage.tolerance : Stage → Tolerance
  | leaveFamily _ => .rejection
  | deleteInvites | deleteRecord => .none

/-- The stages for an account with some families, in order. -/
def plan (familyIds : List Int) : List Stage :=
  familyIds.map Stage.leaveFamily ++ [.deleteInvites, .deleteRecord]

/-- Whether a deletion goes on behind a failure. -/
def Tolerance.admits : Tolerance → Relations.Failure → Bool
  | none, _ => false
  | rejection, failure => !failure.isUnavailable

/-- What is asked of the relationship service in a stage, if anything. -/
def Stage.request? (userId : Int) : Stage → Option Relations.Call
  | leaveFamily familyId => some (.removeMember userId familyId)
  | deleteInvites => some (.deleteInvites userId)
  | deleteRecord => Option.none

def Stage.run (userId : Int) (stage : Stage) : Action Unit := do
  match stage.request? userId with
  | some request =>
    match ← Action.relations request with
    | .ok _ => pure ()
    | .error failure =>
      if stage.tolerance.admits failure then pure () else throw (.internal failure.message)
  | Option.none => Service.deleteRecord userId

/-- Runs stages in order, up to the first that fails. -/
def runAll (userId : Int) : List Stage → Action Unit
  | [] => pure ()
  | stage :: stages => do
    stage.run userId
    runAll userId stages

end Deletion

/-- Deletes an account here and its traces in the relationship service. -/
def Service.deleteEverywhere (id : Int) : Action Unit := do
  let account ← Service.getProfile id
  Deletion.runAll id (Deletion.plan account.familyIds)

end Gatehouse
