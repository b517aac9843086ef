import Fleet.Store.Error

/-!
# `Fleet.Model.Fault`: planned failures of collaborators

A plan is a list of faults. Each names a call of a collaborator, lets some calls pass and
then makes some fail. When a call is made the faults with its name are asked in order: one
that still lets calls pass counts this one and asks the next, one that has failures left
strikes.
-/

set_option autoImplicit false

namespace Fleet

/-- A planned failure. -/
structure Fault where
  /-- The name of the call that fails. -/
  target : String
  /-- How many calls still pass. -/
  after : Nat := 0
  /-- How many calls fail after that. -/
  times : Nat := 1
  /-- The kind of failure, for a call of the data store. -/
  kind : StoreErrorKind := .io
  /-- What the failure says. -/
  detail : String
deriving DecidableEq, Repr, Inhabited

/-- Faults in the order in which they are asked. -/
abbrev FaultPlan := List Fault

namespace FaultPlan

/-- The fault that strikes a call, if any, and the plan after the call. -/
def strike (target : String) : FaultPlan → Option Fault × FaultPlan
  | [] => (none, [])
  | f :: rest =>
    -- This fault lets the call pass, but one after it may still strike.
    if f.target = target ∧ 0 < f.after then
      let (struck, rest) := strike target rest
      (struck, { f with after := f.after - 1 } :: rest)
    else if f.target = target ∧ 0 < f.times then
      (some f, { f with times := f.times - 1 } :: rest)
    else
      let (struck, rest) := strike target rest
      (struck, f :: rest)

/-- Without planned faults no call fails. -/
@[simp] theorem strike_nil (target : String) : strike target [] = (none, []) := rfl

end FaultPlan

end Fleet
