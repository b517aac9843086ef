import Fleet.Audit
import Mathlib.Data.List.Infix

/-!
# `Fleet.Proofs.Audit.Replay`: reading statuses off the trail

An event of a deployment says how the statuses of its devices change (`AuditEvent.replay`), so a
trail can be read from the statuses at the creation of the deployment on. `Tells` lists what the
events of one operation may say, given the statuses before it: nothing, that a device moves on,
perhaps as the last one, that the deployment is aborted, or that a device is lost.

`Recounts` is what a trail tells from the creation of a deployment to some moment: the replay
gives the statuses of that moment, every move starts from the status that the replay has
reached, there is one creation, nothing comes after the end, and the deployment is finished
exactly if the trail says so. That nothing comes after the end has a reason that the trail does
not show: all devices are at rest then, and whatever happens to a deployment happens to a device
with work to do. A trail that recounts goes on recounting (`Recounts.tells`).
-/

set_option autoImplicit false

namespace Fleet

namespace AuditKind

/-- Whether this is the end of a deployment. -/
def closes : AuditKind → Bool
  | .deploymentFinished | .deploymentAborted => true
  | _ => false

/-- Whether this finishes a deployment. The loss of a device does, even if other devices go
on. -/
def finishes : AuditKind → Bool
  | .deploymentFinished | .deploymentAborted | .deviceDecommissioned => true
  | _ => false

/-- What closes a deployment finishes it. The converse fails: the loss of a device finishes a
deployment whose other devices go on. -/
theorem finishes_of_closes {k : AuditKind} (h : k.closes = true) : k.finishes = true := by
  cases k <;> first | rfl | cases h

end AuditKind

namespace AuditEvent

/-- The statuses of the devices of a deployment after an event. -/
def replay (s : DeviceId → Option DeviceStatus) (e : AuditEvent) :
    DeviceId → Option DeviceStatus :=
  match e.kind with
  | .deploymentCreated | .deploymentFinished => s
  | .deviceStatusChanged => fun device =>
    if e.deviceId = some device then e.newStatus else s device
  | .deviceDecommissioned => fun device =>
    if e.deviceId = some device then some .decommissioned else s device
  | .deploymentAborted => fun device =>
    (s device).map fun status => if status.isActive then .aborted else status

/-- Whether an event is for a deployment of a tenant. -/
def isFor (t : TenantId) (id : DeploymentId) (e : AuditEvent) : Bool :=
  e.tenant.getD "" = t && e.deploymentId = id

/-- None of some events is for a deployment if all are for other ones. -/
theorem filter_isFor_eq_nil {t : TenantId} {id : DeploymentId} {events : List AuditEvent}
    (h : ∀ e ∈ events, e.deploymentId ≠ id) : events.filter (·.isFor t id) = [] := by
  refine List.filter_eq_nil_iff.2 fun e he hfor => ?_
  rw [isFor, Bool.and_eq_true, decide_eq_true_eq] at hfor
  exact h e he (of_decide_eq_true hfor.2)

section

variable {s : DeviceId → Option DeviceStatus} {e : AuditEvent} {own : DeviceId}

/-- A changed status replaces that of its own device. -/
theorem replay_of_changed (h : e.kind = .deviceStatusChanged) (hown : e.deviceId = some own)
    (device : DeviceId) : e.replay s device = if own = device then e.newStatus else s device := by
  simp only [replay, h, hown, Option.some.injEq]

/-- A device that is taken out of service has the status for that, and the others keep theirs. -/
theorem replay_of_decommissioned (h : e.kind = .deviceDecommissioned)
    (hown : e.deviceId = some own) (device : DeviceId) :
    e.replay s device = if own = device then some .decommissioned else s device := by
  simp only [replay, h, hown, Option.some.injEq]

/-- That a deployment is finished changes no status. -/
theorem replay_of_finished (h : e.kind = .deploymentFinished) : e.replay s = s := by
  rw [replay, h]

/-- An abort stops the active devices and leaves those at rest alone. -/
theorem replay_of_aborted (h : e.kind = .deploymentAborted) (device : DeviceId) :
    e.replay s device = (s device).map fun status =>
      if status.isActive then .aborted else status := by
  rw [replay, h]

/-- An abort leaves no device with work to do. -/
theorem isTerminal_replay_of_aborted (h : e.kind = .deploymentAborted) {device : DeviceId}
    {status : DeviceStatus} (hs : e.replay s device = some status) : status.isTerminal = true := by
  rw [replay_of_aborted h] at hs
  obtain ⟨old, -, rfl⟩ := Option.map_eq_some_iff.1 hs
  split
  · rfl
  · next hrest =>
    rw [DeviceStatus.isTerminal, Bool.eq_false_iff.2 hrest]
    rfl

end

end AuditEvent

/-- The statuses that some events lead to. -/
abbrev replayAll (start : DeviceId → Option DeviceStatus) (events : List AuditEvent) :
    DeviceId → Option DeviceStatus :=
  events.foldl AuditEvent.replay start

/-! ### The events of one operation -/

/-- What one operation may tell about a deployment with some statuses, finished or not: the events,
and whether the deployment is finished and the statuses of its devices after that. -/
inductive Tells (s : DeviceId → Option DeviceStatus) :
    Bool → List AuditEvent → Bool → (DeviceId → Option DeviceStatus) → Prop where
  /-- Nothing. -/
  | nothing {finished : Bool} : Tells s finished [] finished s
  /-- A device moves on. -/
  | moved {finished : Bool} {e : AuditEvent} {device : DeviceId} {old : DeviceStatus}
      (kind : e.kind = .deviceStatusChanged) (own : e.deviceId = some device)
      (told : e.oldStatus = some old) (held : s device = some old)
      (active : old.isActive = true) : Tells s finished [e] finished (e.replay s)
  /-- The last device moves on. -/
  | closed {e f : AuditEvent} {device : DeviceId} {old : DeviceStatus}
      (kind : e.kind = .deviceStatusChanged) (own : e.deviceId = some device)
      (told : e.oldStatus = some old) (held : s device = some old)
      (active : old.isActive = true) (kind' : f.kind = .deploymentFinished)
      (rest : ∀ device status, e.replay s device = some status → status.isTerminal = true) :
      Tells s false [e, f] true (e.replay s)
  /-- The deployment is aborted. -/
  | aborted {e : AuditEvent} (kind : e.kind = .deploymentAborted) :
      Tells s false [e] true (e.replay s)
  /-- A device is taken out of service. -/
  | lost {finished : Bool} {e : AuditEvent} {device : DeviceId} {old : DeviceStatus}
      (kind : e.kind = .deviceDecommissioned) (own : e.deviceId = some device)
      (held : s device = some old) (active : old.isActive = true) :
      Tells s finished [e] true (e.replay s)

/-! ### The trail of a deployment -/

/-- The events of a deployment from its creation on, whether it is finished and the statuses of its
devices after them. -/
structure Recounts (start : DeviceId → Option DeviceStatus) (events : List AuditEvent)
    (finished : Bool) (s : DeviceId → Option DeviceStatus) : Prop where
  /-- The creation comes first, and once. -/
  opening : ∃ e rest, events = e :: rest ∧ e.kind = .deploymentCreated ∧
    ∀ f ∈ rest, f.kind ≠ .deploymentCreated
  /-- The replay leads to the statuses. -/
  replayed : replayAll start events = s
  /-- A move starts from the status that the replay has reached. -/
  old : ∀ before e, before ++ [e] <+: events → e.kind = .deviceStatusChanged →
    ∃ device status, e.deviceId = some device ∧ e.oldStatus = some status ∧
      replayAll start before device = some status
  /-- Nothing comes after the end. -/
  last : ∀ before e, before ++ [e] <+: events → e.kind.closes = true → before ++ [e] = events
  /-- The deployment is finished exactly if the trail says so. -/
  finishes : finished = true ↔ ∃ e ∈ events, e.kind.finishes = true
  /-- At the end all devices are at rest. -/
  atRest : (∃ e ∈ events, e.kind.closes = true) →
    ∀ device status, s device = some status → status.isTerminal = true

namespace Recounts

variable {start s s' : DeviceId → Option DeviceStatus} {events new : List AuditEvent}
  {finished finished' : Bool} {e : AuditEvent} {device : DeviceId} {old : DeviceStatus}

/-- The trail of a deployment begins with its creation. -/
theorem created (kind : e.kind = .deploymentCreated) : Recounts start [e] false start := by
  have hkind {f : AuditEvent} (hf : f ∈ [e]) : f.kind = .deploymentCreated := by
    rw [List.mem_singleton.1 hf]
    exact kind
  have hlast {before : List AuditEvent} {f : AuditEvent} (h : before ++ [f] <+: [e]) :
      f.kind = .deploymentCreated :=
    hkind (h.subset (List.mem_append_right _ List.mem_cons_self))
  refine ⟨⟨e, [], rfl, kind, fun f hf => by cases hf⟩, ?_, fun before f hf hmoved => ?_,
    fun before f hf hclosed => ?_, ?_, fun ⟨f, hf, hclosed⟩ => ?_⟩
  · show e.replay start = start
    rw [AuditEvent.replay, kind]
  · rw [hlast hf] at hmoved
    cases hmoved
  · rw [hlast hf] at hclosed
    cases hclosed
  · refine ⟨fun h => (by cases h), fun ⟨f, hf, hfinished⟩ => ?_⟩
    rw [hkind hf] at hfinished
    cases hfinished
  · rw [hkind hf] at hclosed
    cases hclosed

/-- One more event, unless the end has come. -/
theorem concat (h : Recounts start events finished s) (kind : e.kind ≠ .deploymentCreated)
    (going : ¬ ∃ f ∈ events, f.kind.closes = true)
    (hold : e.kind = .deviceStatusChanged → ∃ device status, e.deviceId = some device ∧
      e.oldStatus = some status ∧ s device = some status)
    (hfinished : finished' = true ↔ finished = true ∨ e.kind.finishes = true)
    (hrest : e.kind.closes = true → ∀ device status, e.replay s device = some status →
      status.isTerminal = true) :
    Recounts start (events ++ [e]) finished' (e.replay s) where
  opening := by
    obtain ⟨first, rest, hevents, hcreated, honce⟩ := h.opening
    refine ⟨first, rest ++ [e], by rw [hevents]; rfl, hcreated, fun f hf => ?_⟩
    rcases List.mem_append.1 hf with hf | hf
    · exact honce f hf
    · rw [List.mem_singleton.1 hf]
      exact kind
  replayed := by
    have hreplayed := h.replayed
    rw [replayAll] at hreplayed ⊢
    rw [List.foldl_append, hreplayed]
    rfl
  old before f hf hmoved := by
    -- A moment of the history is the new event or lies before it.
    rcases List.prefix_concat_iff.1 hf with heq | hbefore
    · obtain ⟨rfl, hfe⟩ := List.append_inj' heq rfl
      cases hfe
      rw [h.replayed]
      exact hold hmoved
    · exact h.old before f hbefore hmoved
  last before f hf hclosed := by
    rcases List.prefix_concat_iff.1 hf with heq | hbefore
    · exact heq
    · exact absurd ⟨f, hbefore.subset (List.mem_append_right _ List.mem_cons_self), hclosed⟩ going
  finishes := by
    rw [hfinished, h.finishes]
    constructor
    · rintro (⟨f, hf, hfin⟩ | hfin)
      · exact ⟨f, List.mem_append_left _ hf, hfin⟩
      · exact ⟨e, List.mem_append_right _ List.mem_cons_self, hfin⟩
    · rintro ⟨f, hf, hfin⟩
      rcases List.mem_append.1 hf with hf | hf
      · exact .inl ⟨f, hf, hfin⟩
      · rw [List.mem_singleton.1 hf] at hfin
        exact .inr hfin
  atRest := by
    rintro ⟨f, hf, hclosed⟩
    rcases List.mem_append.1 hf with hf | hf
    · exact absurd ⟨f, hf, hclosed⟩ going
    · rw [List.mem_singleton.1 hf] at hclosed
      exact hrest hclosed

/-- At most one event is an end. -/
theorem countP_closes (h : Recounts start events finished s) :
    events.countP (·.kind.closes) ≤ 1 := by
  rcases List.eq_nil_or_concat' events with rfl | ⟨before, e, rfl⟩
  · exact Nat.zero_le 1
  have hnone : before.countP (·.kind.closes) = 0 := by
    refine List.countP_eq_zero.2 fun f hf hclosed => ?_
    obtain ⟨past, rest, rfl⟩ := List.append_of_mem hf
    -- Were this the end, the events after it would not be there.
    have hend := h.last past f ⟨rest ++ [e], by simp⟩ hclosed
    have hlength := congrArg List.length hend
    simp at hlength
  rw [List.countP_append, hnone, Nat.zero_add]
  exact List.countP_le_length

/-- A device with work to do shows that the end has not come. -/
theorem going (h : Recounts start events finished s) (held : s device = some old)
    (active : old.isActive = true) : ¬ ∃ f ∈ events, f.kind.closes = true := by
  intro hclosed
  have hrest := h.atRest hclosed device old held
  rw [DeviceStatus.isTerminal, active] at hrest
  cases hrest

/-- The event for a device that moves on. -/
theorem moved (h : Recounts start events finished s) (kind : e.kind = .deviceStatusChanged)
    (own : e.deviceId = some device) (told : e.oldStatus = some old) (held : s device = some old)
    (active : old.isActive = true) : Recounts start (events ++ [e]) finished (e.replay s) := by
  refine h.concat (by rw [kind]; decide) (h.going held active)
    (fun _ => ⟨device, old, own, told, held⟩) ?_ fun hclosed => ?_
  · rw [kind]
    exact ⟨.inl, fun hor => hor.resolve_right Bool.false_ne_true⟩
  · rw [kind] at hclosed
    cases hclosed

/-- The end, if all devices are at rest. -/
theorem ended (h : Recounts start events finished s) (kind : e.kind = .deploymentFinished)
    (going : ¬ ∃ f ∈ events, f.kind.closes = true)
    (rest : ∀ device status, s device = some status → status.isTerminal = true) :
    Recounts start (events ++ [e]) true s := by
  have hended : Recounts start (events ++ [e]) true (e.replay s) := by
    refine h.concat (by rw [kind]; decide) going (fun hm => by rw [kind] at hm; cases hm) ?_
      fun _ => ?_
    · rw [kind]
      exact ⟨fun _ => .inr rfl, fun _ => rfl⟩
    · rw [AuditEvent.replay_of_finished kind]
      exact rest
  rwa [AuditEvent.replay_of_finished kind] at hended

/-- A recounted trail goes on with what a step tells. -/
theorem tells (h : Recounts start events finished s) (step : Tells s finished new finished' s') :
    Recounts start (events ++ new) finished' s' := by
  cases step with
  | nothing =>
    rw [List.append_nil]
    exact h
  | moved kind own told held active => exact h.moved kind own told held active
  | @closed e last device old kind own told held active kind' rest =>
    have hmoved := h.moved kind own told held active
    -- The event for the last move is no end, and neither was there one before it.
    have hgoing : ¬ ∃ f ∈ events ++ [e], f.kind.closes = true := by
      rintro ⟨f, hf, hclosed⟩
      rcases List.mem_append.1 hf with hf | hf
      · exact h.going held active ⟨f, hf, hclosed⟩
      · rw [List.mem_singleton.1 hf, kind] at hclosed
        cases hclosed
    have hended := hmoved.ended kind' hgoing rest
    rw [List.append_assoc] at hended
    exact hended
  | aborted kind =>
    refine h.concat (by rw [kind]; decide) (fun ⟨f, hf, hclosed⟩ => ?_)
      (fun hm => by rw [kind] at hm; cases hm) (by rw [kind]; decide)
      fun _ _ _ => AuditEvent.isTerminal_replay_of_aborted kind
    -- A deployment that is not finished has not come to its end.
    have hfinished := h.finishes.2 ⟨f, hf, AuditKind.finishes_of_closes hclosed⟩
    cases hfinished
  | lost kind own held active =>
    refine h.concat (by rw [kind]; decide) (h.going held active)
      (fun hm => by rw [kind] at hm; cases hm) ?_ fun hclosed => ?_
    · rw [kind]
      exact ⟨fun _ => .inr rfl, fun _ => rfl⟩
    · rw [kind] at hclosed
      cases hclosed

end Recounts

end Fleet
