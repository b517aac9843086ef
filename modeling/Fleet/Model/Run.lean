import Fleet.Model.Create
import Fleet.Model.Device

/-!
# `Fleet.Model.Run`: operations one after another

The operations are values of one type, each with the type of its answer, so that a run is a
list of scenes with operations. `World.perform` runs one operation in a scene, `World.run` a
whole list.
-/

set_option autoImplicit false

namespace Fleet

/-- An operation on deployments. -/
inductive ModelCall where
  | create (p : Plan)
  | get (id : DeploymentId)
  /-- The counters of a deployment, counted anew. -/
  | stats (id : DeploymentId)
  /-- Whether there is no unfinished deployment with a name. -/
  | isFinished (id : DeploymentId)
  | lookup (q : Query)
  | abort (id : DeploymentId)
  | decommission (device : DeviceId)
  /-- What a device has to do next. -/
  | poll (device : DeviceId) (installed : Installed)
  | report (id : DeploymentId) (device : DeviceId) (r : StatusReport)
  | records (id : DeploymentId)
  | hasRecord (id : DeploymentId) (device : DeviceId)
  | saveLog (log : DeploymentLog)
  | getLog (id : DeploymentId) (device : DeviceId)

namespace ModelCall

abbrev Answer : ModelCall → Type
  | .create _ => DeploymentId
  | .get _ => Option Deployment
  | .stats _ => Option Stats
  | .isFinished _ => Bool
  | .lookup _ => List Deployment
  | .abort _ => Unit
  | .decommission _ => Unit
  | .poll .. => Option Instructions
  | .report .. => Unit
  | .records _ => List DeviceRecord
  | .hasRecord .. => Bool
  | .saveLog _ => Unit
  | .getLog .. => Option DeploymentLog

def run {σ ω : Type} [DataStore σ] [LinkIssuer ω] : (c : ModelCall) → ModelM σ ω c.Answer
  | .create p => ModelM.create p
  | .get id => ModelM.getDeployment id
  | .stats id => ModelM.getStats id
  | .isFinished id => ModelM.isFinished id
  | .lookup q => ModelM.lookup q
  | .abort id => ModelM.abort id
  | .decommission device => ModelM.decommission device
  | .poll device installed => ModelM.poll device installed
  | .report id device r => ModelM.report id device r
  | .records id => ModelM.getRecords id
  | .hasRecord id device => ModelM.hasRecord id device
  | .saveLog log => ModelM.saveLog log
  | .getLog id device => ModelM.getLog id device

end ModelCall

namespace World

variable {σ ω : Type} [DataStore σ] [LinkIssuer ω]

/-- Runs an operation in a scene. -/
def perform (w : World σ ω) (scene : Scene) (c : ModelCall) :
    Except ModelError c.Answer × World σ ω :=
  c.run scene w

/-- The world after operations in their scenes. -/
def run (w : World σ ω) (steps : List (Scene × ModelCall)) : World σ ω :=
  steps.foldl (fun w step => (w.perform step.1 step.2).2) w

end World

end Fleet
