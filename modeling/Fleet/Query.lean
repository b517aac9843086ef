import Fleet.Deployment
import Fleet.Text.Lowercase
import Fleet.Text.Search

/-!
# `Fleet.Query`: finding deployments

A query filters deployments by text, creation time and status, puts them into one fixed
order, newest first and then by name, and cuts a page out of the result.
-/

set_option autoImplicit false

namespace Fleet

open Fleet.Time Fleet.Text

/-- A filter on the status of deployments. -/
inductive StatusFilter where
  | any
  | pending
  | inProgress
  | finished
deriving DecidableEq, Repr, Inhabited

namespace StatusFilter

def token : StatusFilter → String
  | .any => "any"
  | .pending => "pending"
  | .inProgress => "inprogress"
  | .finished => "finished"

def ofToken? (s : String) : Option StatusFilter :=
  [any, pending, inProgress, finished].find? (·.token = s)

/-- Whether the filter lets a status pass. -/
def accepts : StatusFilter → DeploymentStatus → Bool
  | .any, _ => true
  | .pending, s => s = .pending
  | .inProgress, s => s = .inProgress
  | .finished, s => s = .finished

end StatusFilter

def maxSearchLength : Nat := 1024

structure Query where
  /-- A text to be found in the name or the artifact name, letter case ignored. -/
  searchText : Option String := none
  status : StatusFilter := .any
  /-- The earliest time of creation. -/
  createdAfter : Option Instant := none
  /-- The latest time of creation. -/
  createdBefore : Option Instant := none
  skip : Nat := 0
  limit : Option Nat := none
deriving DecidableEq, Repr, Inhabited

/-- The order of results: later creation first, then by name. -/
def newestFirst (a b : Deployment) : Bool :=
  b.created.nanos < a.created.nanos || (a.created.nanos = b.created.nanos && a.id ≤ b.id)

namespace Query

/-- Checks the length of the search text and the order of the bounds. -/
def validate (q : Query) : Except ValidationError Unit := do
  optionalLength "search_text" q.searchText 0 maxSearchLength
  match q.createdAfter, q.createdBefore with
  | some after, some before => require (after.nanos ≤ before.nanos) .reversedWindow
  | _, _ => .ok ()

/-- Whether the text of the query, spaces around it aside, occurs in the name or the artifact
name of a deployment when all are lowered. -/
def matchesText (q : Query) (d : Deployment) : Bool :=
  match q.searchText.map trim with
  | none => true
  | some text =>
    text.isEmpty
      || occursIn (lower text).toList (lower d.plan.name).toList
      || occursIn (lower text).toList (lower d.artifactName).toList

def accepts (q : Query) (d : Deployment) : Bool :=
  q.matchesText d
    && q.createdAfter.all (fun after => after.nanos ≤ d.created.nanos)
    && q.createdBefore.all (fun before => d.created.nanos ≤ before.nanos)
    && q.status.accepts d.status

/-- The page of a list of deployments that a query asks for. -/
def apply (q : Query) (l : List Deployment) : List Deployment :=
  let found := ((l.filter q.accepts).mergeSort newestFirst).drop q.skip
  match q.limit with
  | none => found
  | some n => found.take n

end Query

end Fleet
