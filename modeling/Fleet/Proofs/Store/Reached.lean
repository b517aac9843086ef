import Fleet.Proofs.Store.Lasting
import Fleet.Proofs.Store.Oldest

/-!
# `Fleet.Proofs.Store.Reached`: stores that calls lead to

A data store of tables is asked by any calls for any tenants, whether they make sense together or
not: records of deployments that are not there, counters that count nothing. Whatever they are,
deployments and records stand under their own names afterwards (`keyed_after`).

That is enough to say which record a device finds first: `FirstActive` says so by what is found
under the names of its records, and the oldest of its active records is that one
(`oldest_activeOf_iff`). Records other than that one are left alone when it is put to rest, so the
device has one active record less then (`length_activeOf_withRecord`).
-/

set_option autoImplicit false

namespace Fleet

namespace Partition

variable {p p' : Partition} {device : DeviceId} {r r' : DeviceRecord}

/-! ### Every call keeps names -/

/-- A changed record that keeps its names stands where it stood. -/
theorem Keyed.updateRecord (hkeyed : p.Keyed) {id : DeploymentId} {f : DeviceRecord → DeviceRecord}
    (h : p.updateRecord id device f = .ok (r, p')) (hf : (f r).key = r.key) : p'.Keyed := by
  rw [Partition.updateRecord] at h
  cases hr : p.records.get? (id, device) with
  | none =>
    rw [hr] at h
    cases h
  | some s =>
    rw [hr] at h
    cases h
    exact hkeyed.withRecord (hf.trans (hkeyed.record hr))

/-- Every call that is answered leaves deployments and records under their own names. -/
theorem Keyed.run (hkeyed : p.Keyed) {c : StoreCall} {a : c.Answer} (h : p.run c = .ok (a, p')) :
    p'.Keyed := by
  cases c with
  | deleteDeployment id =>
    cases h
    refine ⟨fun hd => ?_, hkeyed.record⟩
    rw [Table.get?_erase] at hd
    split at hd
    · cases hd
    · exact hkeyed.deployment hd
  | updateStatus id device status substate finished =>
    obtain ⟨⟨r, q⟩, hq, he⟩ := map_eq_ok h
    cases he
    exact hkeyed.updateRecord hq rfl
  | assignArtifact id device deviceType artifact =>
    obtain ⟨⟨r, q⟩, hq, he⟩ := map_eq_ok h
    cases he
    exact hkeyed.updateRecord hq rfl
  | _ => exact (run_lasts (by trivial) h).keyed hkeyed

end Partition

namespace DataStore

/-- A store after calls, each for a tenant. -/
def after {σ : Type} [DataStore σ] (s : σ) (calls : List (TenantId × StoreCall)) : σ :=
  calls.foldl (fun s call => (run call.1 call.2 s).2) s

end DataStore

namespace MemoryStore

/-- Every store call keeps everything under its own name, in all parts. -/
theorem keyed_run {s : MemoryStore} (h : ∀ t, (s.partition t).Keyed) (tenant : TenantId)
    (c : StoreCall) (t : TenantId) : ((DataStore.run tenant c s).2.partition t).Keyed := by
  simp only [DataStore.run]
  cases hrun : (s.partition tenant).run c with
  | error e => exact h t
  | ok x =>
    by_cases ht : t = tenant
    · subst ht
      show ((s.withPartition t x.2).partition t).Keyed
      rw [partition_withPartition_self]
      exact (h t).run hrun
    · show ((s.withPartition tenant x.2).partition t).Keyed
      rw [partition_withPartition_of_ne s x.2 ht]
      exact h t

/-- In a store that calls lead to from an empty one all stand under their own names. -/
theorem keyed_after (calls : List (TenantId × StoreCall)) (t : TenantId) :
    ((DataStore.after ({} : MemoryStore) calls).partition t).Keyed := by
  have hall (s : MemoryStore) (h : ∀ t, (s.partition t).Keyed) :
      ((DataStore.after s calls).partition t).Keyed := by
    induction calls generalizing s with
    | nil => exact h t
    | cons call rest ih => exact ih _ fun t => keyed_run h call.1 call.2 t
  exact hall {} fun _ => .empty

end MemoryStore

namespace Partition

variable {p : Partition} {device : DeviceId} {r r' : DeviceRecord}

/-! ### The record that a device finds first -/

/-- The active record of a device that was created first, the name of the deployment deciding
between equal times, whatever the offsets the times are shown in. -/
structure FirstActive (p : Partition) (device : DeviceId) (r : DeviceRecord) : Prop where
  stored : p.records.get? (r.deploymentId, device) = some r
  own : r.deviceId = device
  active : r.status.isActive = true
  first : ∀ id s, p.records.get? (id, device) = some s → s.status.isActive = true →
    r.created.nanos < s.created.nanos ∨
      (r.created.nanos = s.created.nanos ∧ r.deploymentId ≤ id)

/-- The active records of a device are those that are found under its name and active. -/
theorem mem_activeOf (h : p.Keyed) :
    r ∈ p.activeOf device ↔
      p.records.get? (r.deploymentId, device) = some r ∧ r.status.isActive = true := by
  rw [activeOf, List.mem_filter, Bool.and_eq_true, decide_eq_true_eq, Table.mem_values_iff]
  constructor
  · rintro ⟨⟨k, hk⟩, rfl, hactive⟩
    have hkey : (r.deploymentId, r.deviceId) = k := h.record hk
    rw [hkey]
    exact ⟨hk, hactive⟩
  · rintro ⟨hget, hactive⟩
    exact ⟨⟨_, hget⟩, (Prod.mk.inj (h.record hget)).2, hactive⟩

/-- The oldest of the active records of a device is before all others of them, and no other one is
level with it. -/
theorem firstActive_of_oldest (h : p.Keyed) (hr : oldest (p.activeOf device) = some r) :
    p.FirstActive device r := by
  obtain ⟨hstored, hactive⟩ := (mem_activeOf h).1 (mem_of_oldest hr)
  refine ⟨hstored, (Prod.mk.inj (h.record hstored)).2, hactive, fun id s hs hsactive => ?_⟩
  have hsid : s.deploymentId = id := (Prod.mk.inj (h.record hs)).1
  have hmem : s ∈ p.activeOf device :=
    (mem_activeOf h).2 ⟨by rw [hsid]; exact hs, hsactive⟩
  rw [← hsid]
  exact createdBefore_eq_false_iff.1 (not_createdBefore_oldest hr s hmem)

/-- There is one record that comes first. -/
theorem FirstActive.unique (hr : p.FirstActive device r)
    (hr' : p.FirstActive device r') : r = r' := by
  have hbefore : createdBefore r' r = false :=
    createdBefore_eq_false_iff.2 (hr.first _ _ hr'.stored hr'.active)
  have hafter : createdBefore r r' = false :=
    createdBefore_eq_false_iff.2 (hr'.first _ _ hr.stored hr.active)
  have hstored := hr.stored
  rw [deploymentId_eq_of_createdBefore hafter hbefore, hr'.stored] at hstored
  exact (Option.some.inj hstored).symm

/-- The search for the oldest active record finds exactly the first one. -/
theorem oldest_activeOf_iff (h : p.Keyed) :
    oldest (p.activeOf device) = some r ↔ p.FirstActive device r := by
  refine ⟨firstActive_of_oldest h, fun hr => ?_⟩
  cases hold : oldest (p.activeOf device) with
  | none =>
    have hmem : r ∈ p.activeOf device := (mem_activeOf h).2 ⟨hr.stored, hr.active⟩
    rw [oldest_eq_none_iff.1 hold] at hmem
    cases hmem
  | some s => rw [(firstActive_of_oldest h hold).unique hr]

/-- The first record stays first while its names, its creation and its being active stay. -/
theorem FirstActive.withRecord (hr : p.FirstActive device r) (hkey : r'.key = r.key)
    (hcreated : r'.created = r.created) (hactive : r'.status.isActive = true) :
    (p.withRecord r.key r').FirstActive device r' := by
  obtain ⟨hid, hown⟩ := Prod.mk.inj hkey
  have hrkey : r.key = (r.deploymentId, device) := by rw [DeviceRecord.key, hr.own]
  refine ⟨?_, hown.trans hr.own, hactive, fun id s hs hsactive => ?_⟩
  · rw [get?_withRecord, hid, hrkey, if_pos rfl]
  · rw [hcreated, hid]
    rw [get?_withRecord, hrkey] at hs
    split at hs
    · next hk =>
      obtain ⟨rfl, -⟩ := Prod.mk.inj hk
      cases hs
      exact .inr ⟨congrArg _ hcreated.symm, String.le_refl _⟩
    · exact hr.first id s hs hsactive

/-- No record becomes active when one is put to rest. -/
theorem mem_activeOf_of_withRecord (h : p.Keyed) (hrest : r'.status.isActive = false)
    {s : DeviceRecord} (hs : s ∈ (p.withRecord r'.key r').activeOf device) :
    s ∈ p.activeOf device := by
  obtain ⟨hget, hactive⟩ := (mem_activeOf (h.withRecord rfl)).1 hs
  rw [get?_withRecord] at hget
  split at hget
  · cases hget
    rw [hrest] at hactive
    cases hactive
  · exact (mem_activeOf h).2 ⟨hget, hactive⟩

/-- A device has one active record less once one of them is put to rest. -/
theorem length_activeOf_withRecord (hr : p.FirstActive device r)
    (hrest : r'.status.isActive = false) :
    ((p.withRecord r.key r').activeOf device).length + 1 = (p.activeOf device).length := by
  have hstored : p.records.get? r.key = some r := by
    rw [DeviceRecord.key, hr.own]
    exact hr.stored
  obtain ⟨before, after, hvalues, hinsert⟩ := Table.values_insert_of_get? hstored
  rw [activeOf, activeOf, Partition.withRecord, hvalues, hinsert, List.filter_append,
    List.filter_append, List.filter_cons_of_neg (a := r') (by simp [hrest]),
    List.filter_cons_of_pos (a := r) (by simp [hr.own, hr.active]), List.length_append,
    List.length_append, List.length_cons]
  omega

end Partition

end Fleet
