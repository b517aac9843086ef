import Fleet.Proofs.Model.Runs
import Fleet.Proofs.Objects.Links

/-!
# `Fleet.Proofs.Model.Polls`: polling again, and polling to the end

A poll is about the first active record of the device. If it hands out instructions, the record
has an artifact for the present type of the device afterwards (`Serves.held`), and a device that
polls a record with such an artifact is served from it: the catalog is not asked and nothing is
written (`poll_held`). So the same poll gives the same instructions again, however the catalog has
changed. If a poll has nothing to hand out, the first record was put to rest, or it is without a
deployment, or there is none (`PollCourse.of_none`).

This is so in every store that calls lead to (`polls_serve_first`), also where the counters do not
fit the records. So a device that comes away with nothing often enough has nothing left to do
(`idle_of_unserved`).
-/

set_option autoImplicit false

namespace Fleet

namespace ModelM

variable {ω : Type} {scene : Scene} {p p' : Partition} {device : DeviceId}
  {installed : Installed} {r : DeviceRecord} {d : Deployment} {a : Artifact}

/-- What a record is to be like for a poll that is served from it. -/
structure Held (p : Partition) (device : DeviceId) (installed : Installed) (r : DeviceRecord)
    (d : Deployment) (a : Artifact) : Prop where
  /-- It comes first. -/
  first : p.FirstActive device r
  /-- It belongs to the deployment. -/
  stored : p.deployments.get? r.deploymentId = some d
  /-- The device does not run what it is to install. -/
  news : installed.runs d = false
  /-- The record has the artifact. -/
  has : r.artifact = some a
  /-- The device has not changed its type. -/
  same : typeChanged r installed = false

/-- A record that was given an artifact for the type of the device has it for that type. -/
theorem typeChanged_withArtifact {t : String} (type : installed.typeFor r = some t) :
    typeChanged (r.withArtifact t a) installed = false := by
  rw [Installed.typeFor] at type
  rw [typeChanged, DeviceRecord.withArtifact]
  cases hempty : installed.deviceType.isEmpty with
  | true => rfl
  | false =>
    rw [hempty, if_neg Bool.false_ne_true] at type
    rw [type]
    simp

/-- After a poll that has an artifact to hand out, the record holds it. -/
theorem Serves.held (hkeyed : p.Keyed) (h : Serves scene p device installed r d a p') :
    p'.Keyed ∧ ∃ r', r'.deploymentId = r.deploymentId ∧ Held p' device installed r' d a := by
  have hfirst := Partition.firstActive_of_oldest hkeyed h.oldest
  cases h.gives with
  | kept has same => exact ⟨hkeyed, r, rfl, hfirst, h.stored, h.news, has, same⟩
  | @renewed t lacks type found =>
    exact ⟨hkeyed.withRecord rfl, r.withArtifact t a, rfl,
      hfirst.withRecord rfl rfl hfirst.active, h.stored, h.news, rfl, typeChanged_withArtifact type⟩

/-- What a poll answers that has an artifact and was given a link to it, or none. -/
def handOut (d : Deployment) (a : Artifact) :
    Except ObjectError Link → Except ModelError (Option Instructions)
  | .ok l =>
    .ok (some
      { id := d.id
        artifact := { artifactName := a.name, source := l, deviceTypes := a.deviceTypes } })
  | .error e => .error (.storage "generating download link for the device" e)

/-- A poll on a record that holds an artifact asks for a link and for nothing else. -/
theorem poll_held [LinkIssuer ω] {w : World MemoryStore ω} (hfaults : w.faults.SparesStore)
    (hp : w.part scene.ctx.partition = p) (hkeyed : p.Keyed)
    (h : Held p device installed r d a) :
    (poll device installed : ModelM MemoryStore ω _) scene w
      = (handOut d a (scene.link a w.objects).1, w.withObjects (scene.link a w.objects).2) := by
  have holdest := (Partition.oldest_activeOf_iff hkeyed).2 h.first
  have hget := getDeployment_run hfaults hp r.deploymentId
  rw [h.stored] at hget
  have hnews : (!installed.artifactName.isEmpty && installed.artifactName == d.artifactName)
      = false := h.news
  have hinstruct := instruct_run scene w d.id a
  rw [poll, bind_ok (askStore_read _ hfaults hp rfl rfl), holdest]
  dsimp only
  rw [bind_ok hget]
  dsimp only
  -- The record has an artifact for this type of device, so none is looked up or assigned.
  rw [hnews, if_neg Bool.false_ne_true, artifactFor, h.has]
  dsimp only
  rw [h.same, if_neg Bool.false_ne_true, bind_ok (pure_run _)]
  dsimp only
  cases hlink : (scene.link a w.objects).1 with
  | ok l =>
    rw [hlink] at hinstruct
    rw [bind_ok hinstruct]
    rfl
  | error e =>
    rw [hlink] at hinstruct
    rw [bind_error hinstruct]
    rfl

/-- What a poll that has nothing to hand out has found. -/
theorem PollCourse.of_none [LinkIssuer ω] {w w' : World MemoryStore ω} (hkeyed : p.Keyed)
    (h : PollCourse scene w p device installed (.ok none, w')) :
    (p.activeOf device = [] ∧ w' = w) ∨
    ∃ r, p.FirstActive device r ∧
      ((p.deployments.get? r.deploymentId = none ∧ w' = w) ∨
      ∃ s, (s = .alreadyInstalled ∨ s = .noArtifact) ∧
        (w'.part scene.ctx.partition).records
          = p.records.insert r.key (r.movedTo s none scene.now)) := by
  cases h with
  | idle free => exact .inl ⟨oldest_eq_none_iff.1 free, rfl⟩
  | orphaned hr gone =>
    exact .inr ⟨_, Partition.firstActive_of_oldest hkeyed hr, .inl ⟨gone, rfl⟩⟩
  | @rested plan spares r d s st calls hr hd reason counted =>
    refine .inr ⟨r, Partition.firstActive_of_oldest hkeyed hr, .inr ⟨s, ?_, ?_⟩⟩
    · exact reason.imp And.left And.left
    · rw [World.part_turn]
      rfl

/-- Neither of the two statuses that a poll may give to a record is active. -/
theorem isActive_of_rest {s : DeviceStatus} (hs : s = .alreadyInstalled ∨ s = .noArtifact) :
    s.isActive = false := by
  rcases hs with rfl | rfl <;> rfl

/-- Each record that a device has to work on belongs to a deployment. -/
def AllThere (p : Partition) (device : DeviceId) : Prop :=
  ∀ r ∈ p.activeOf device, (p.deployments.get? r.deploymentId).isSome = true

/-- So a device with all of its deployments has one active record less, or had none. -/
theorem PollCourse.lowers [LinkIssuer ω] {w w' : World MemoryStore ω}
    (hp : w.part scene.ctx.partition = p) (hkeyed : p.Keyed)
    (h : PollCourse scene w p device installed (.ok none, w')) (hthere : AllThere p device) :
    ((w'.part scene.ctx.partition).activeOf device).length = (p.activeOf device).length - 1 := by
  rcases h.of_none hkeyed with ⟨hfree, rfl⟩ | ⟨r, hr, ⟨hgone, -⟩ | ⟨s, hs, hrecords⟩⟩
  · rw [hp, hfree]
    rfl
  · -- A first record without a deployment is one of those that have theirs.
    have hd := hthere r ((Partition.mem_activeOf hkeyed).2 ⟨hr.stored, hr.active⟩)
    rw [hgone] at hd
    cases hd
  · have hrest : (r.movedTo s none scene.now).status.isActive = false := isActive_of_rest hs
    have hactive : (w'.part scene.ctx.partition).activeOf device
        = (p.withRecord r.key (r.movedTo s none scene.now)).activeOf device := by
      rw [Partition.activeOf, hrecords]
      rfl
    rw [hactive, ← Partition.length_activeOf_withRecord hr hrest, Nat.add_sub_cancel]

/-- A poll that has nothing to hand out leaves names, and the deployments of the records that it
leaves to the device. -/
theorem PollCourse.keeps [LinkIssuer ω] {w w' : World MemoryStore ω}
    (hfaults : w.faults.SparesStore) (hp : w.part scene.ctx.partition = p) (hkeyed : p.Keyed)
    (h : PollCourse scene w p device installed (.ok none, w')) (hthere : AllThere p device) :
    w'.faults.SparesStore ∧ (w'.part scene.ctx.partition).Keyed ∧
      AllThere (w'.part scene.ctx.partition) device := by
  cases h with
  | idle free => exact ⟨hfaults, hp ▸ hkeyed, hp ▸ hthere⟩
  | orphaned hr gone => exact ⟨hfaults, hp ▸ hkeyed, hp ▸ hthere⟩
  | @rested plan spares r d s st calls hr hd reason counted =>
    have hkeyed' : (p.withRecord r.key (r.movedTo s none scene.now)).Keyed :=
      hkeyed.withRecord rfl
    rw [World.part_turn]
    refine ⟨spares, hkeyed'.withDeployment (Deployment.id_closeAt _ _), fun r' hr' => ?_⟩
    have hrest : (r.movedTo s none scene.now).status.isActive = false :=
      isActive_of_rest (reason.imp And.left And.left)
    -- What is active now was active before, and the only deployment that is written stays.
    have hbefore := hthere r' (Partition.mem_activeOf_of_withRecord hkeyed hrest hr')
    rw [Partition.get?_withDeployment]
    split
    · rfl
    · exact hbefore

/-- A poll that hands out instructions serves a record, and leaves it to be served again. -/
theorem PollCourse.of_some [LinkIssuer ω] {w w' : World MemoryStore ω} {i : Instructions}
    (h : PollCourse scene w p device installed (.ok (some i), w')) :
    ∃ r d a l, Serves scene p device installed r d a (w'.part scene.ctx.partition) ∧
      scene.link a w.objects = (.ok l, w'.objects) ∧ handOut d a (.ok l) = .ok (some i) ∧
      i.id = d.id ∧ w'.faults.SparesStore := by
  cases h with
  | @served plan spares r d a p' calls l serves link =>
    refine ⟨r, d, a, l, ?_, Prod.ext link rfl, rfl, rfl, spares⟩
    have hpart : (((w.withFaults plan).turn scene.ctx.partition p' calls []).withObjects
        (scene.link a w.objects).2).part scene.ctx.partition = p' :=
      World.part_turn (w.withFaults plan) scene.ctx.partition p' calls []
    rw [hpart]
    exact serves

/-- A poll that hands out instructions is about the first record. The same poll hands them out
again, and asks for a link only. -/
theorem PollCourse.again {w w' : World MemoryStore ObjectSite} {i : Instructions}
    (hkeyed : p.Keyed) (h : PollCourse scene w p device installed (.ok (some i), w')) :
    (∃ r, p.FirstActive device r ∧ r.deploymentId = i.id) ∧
    ∀ catalog inventory,
      let again := (poll device installed : ModelM MemoryStore ObjectSite _)
        { scene with catalog, inventory } w'
      again.2 = w'.withObjects again.2.objects ∧
      (∀ j, again.1 = .ok j → j = some i) ∧
      (w'.objects.network.RepliesAs w.objects.network → again.1 = .ok (some i)) := by
  obtain ⟨r, d, a, l, hserves, hlink, hi, hid, hfaults⟩ := h.of_some
  obtain ⟨hkeyed', r', -, hheld⟩ := hserves.held hkeyed
  refine ⟨⟨r, Partition.firstActive_of_oldest hkeyed hserves.oldest,
    (hkeyed.deployment hserves.stored).symm.trans hid.symm⟩, fun catalog inventory => ?_⟩
  -- What a link is made from is not in the catalog.
  have hpoll : (poll device installed : ModelM MemoryStore ObjectSite _)
      { scene with catalog, inventory } w'
        = (handOut d a (scene.link a w'.objects).1,
          w'.withObjects (scene.link a w'.objects).2) :=
    poll_held hfaults rfl hkeyed' hheld
  obtain ⟨honly, hsame⟩ := ObjectSite.download_again hlink
  rw [← Scene.link] at honly hsame
  dsimp only
  rw [hpoll]
  refine ⟨rfl, fun j hj => ?_, fun hreplies => ?_⟩
  · cases hnext : (scene.link a w'.objects).1 with
    | error e =>
      rw [hnext] at hj
      cases hj
    | ok l' =>
      rw [hnext, honly l' hnext, hi] at hj
      exact (Except.ok.inj hj).symm
  · rw [hsame hreplies]
    exact hi

end ModelM

namespace World

open ModelM (AllThere)

/-! ### Polls one after another -/

section Runs

variable {ω : Type} [LinkIssuer ω] {tenant : TenantId} {device : DeviceId} {k : Nat}
  {w w' : World MemoryStore ω}

/-- A number of polls of a device that had nothing to hand out, and the world after them. -/
inductive Unserved (tenant : TenantId) (device : DeviceId) (w : World MemoryStore ω) :
    Nat → World MemoryStore ω → Prop where
  /-- There was none yet. -/
  | start : Unserved tenant device w 0 w
  /-- There was one more. -/
  | poll {k : Nat} {w' : World MemoryStore ω} (before : Unserved tenant device w k w')
      {scene : Scene} (here : scene.ctx.partition = tenant) {installed : Installed}
      (nothing : (w'.perform scene (.poll device installed)).1 = .ok none) :
      Unserved tenant device w (k + 1) (w'.perform scene (.poll device installed)).2

/-- Each poll takes one record off the device, as long as there is one. -/
theorem Unserved.run (h : Unserved tenant device w k w') (hfaults : w.faults.SparesStore)
    (hkeyed : (w.part tenant).Keyed) (hthere : AllThere (w.part tenant) device) :
    w'.faults.SparesStore ∧ (w'.part tenant).Keyed ∧ AllThere (w'.part tenant) device ∧
      ((w'.part tenant).activeOf device).length
        = ((w.part tenant).activeOf device).length - k := by
  -- On the number of polls. Names and deployments are kept, so each poll takes the same course.
  induction h with
  | start => exact ⟨hfaults, hkeyed, hthere, rfl⟩
  | @poll k w' before scene here installed nothing ih =>
    obtain ⟨hfaults', hkeyed', hthere', hlength⟩ := ih
    subst here
    have hcourse : ModelM.PollCourse scene w' (w'.part scene.ctx.partition) device installed
        (.ok none, (w'.perform scene (.poll device installed)).2) := by
      rw [← nothing]
      exact ModelM.poll_course hfaults' rfl hkeyed' device installed
    obtain ⟨hfaults'', hkeyed'', hthere''⟩ := hcourse.keeps hfaults' rfl hkeyed' hthere'
    refine ⟨hfaults'', hkeyed'', hthere'', ?_⟩
    rw [hcourse.lowers rfl hkeyed' hthere', hlength, Nat.sub_sub]

/-- A device whose deployments are all there has nothing left to do after as many polls that had
nothing to hand out as it had active records. -/
theorem idle_of_unserved (h : Unserved tenant device w k w')
    {calls : List (TenantId × StoreCall)} (hstore : w.store = DataStore.after {} calls)
    (hfaults : w.faults.SparesStore) (hthere : AllThere (w.part tenant) device)
    (hk : ((w.part tenant).activeOf device).length ≤ k) :
    (w'.part tenant).activeOf device = [] := by
  have hkeyed : (w.part tenant).Keyed := by
    rw [part, hstore]
    exact MemoryStore.keyed_after calls tenant
  obtain ⟨-, -, -, hlength⟩ := h.run hfaults hkeyed hthere
  refine List.eq_nil_of_length_eq_zero ?_
  rw [hlength]
  exact Nat.sub_eq_zero_of_le hk

end Runs

/-! ### One poll and the next -/

/-- In every store that calls lead to, a poll that hands out instructions is about the first
active record of the device. The same poll at the same time then changes neither the store nor
the journal of writes, whatever the catalog and the inventory hold by now. It never gives other
instructions, and gives the same ones if the network replies as it did.

A poll that has nothing to hand out has found no active record, or a first one without a
deployment, or has put the first one to rest and left all others. So if all deployments of the
device are there, it has one active record less afterwards, or had none. -/
theorem polls_serve_first (w : World MemoryStore ObjectSite) (calls : List (TenantId × StoreCall))
    (hstore : w.store = DataStore.after {} calls) (hfaults : w.faults.SparesStore) (scene : Scene)
    (device : DeviceId) (installed : Installed) :
    let p := w.part scene.ctx.partition
    let polled := w.perform scene (.poll device installed)
    let p' := polled.2.part scene.ctx.partition
    (∀ i, polled.1 = .ok (some i) →
      (∃ r, p.FirstActive device r ∧ r.deploymentId = i.id) ∧
      ∀ catalog inventory,
        let again := polled.2.perform { scene with catalog, inventory } (.poll device installed)
        again.2 = polled.2.withObjects again.2.objects ∧
        (∀ j, again.1 = .ok j → j = some i) ∧
        (polled.2.objects.network.RepliesAs w.objects.network → again.1 = .ok (some i))) ∧
    (polled.1 = .ok none →
      (p.activeOf device = [] ∧ polled.2 = w) ∨
      ∃ r, p.FirstActive device r ∧
        ((p.deployments.get? r.deploymentId = none ∧ polled.2 = w) ∨
        ∃ s, (s = .alreadyInstalled ∨ s = .noArtifact) ∧
          p'.records = p.records.insert r.key (r.movedTo s none scene.now))) ∧
    (polled.1 = .ok none →
      (∀ r ∈ p.activeOf device, (p.deployments.get? r.deploymentId).isSome = true) →
      p.activeOf device = [] ∨ (p'.activeOf device).length + 1 = (p.activeOf device).length) := by
  intro p polled p'
  have hkeyed : p.Keyed := by
    show (w.part scene.ctx.partition).Keyed
    rw [part, hstore]
    exact MemoryStore.keyed_after calls _
  have hcourse : ModelM.PollCourse scene w p device installed polled :=
    ModelM.poll_course hfaults rfl hkeyed device installed
  -- The clauses ask about one answer each, so the answer becomes a variable.
  have hcourse {x : Except ModelError (Option Instructions)} (hx : polled.1 = x) :
      ModelM.PollCourse scene w p device installed (x, polled.2) := by
    rw [← hx]
    exact hcourse
  refine ⟨fun i hi => (hcourse hi).again hkeyed, fun hnone => (hcourse hnone).of_none hkeyed,
    fun hnone hthere => ?_⟩
  have hlowers := (hcourse hnone).lowers rfl hkeyed hthere
  rcases Nat.eq_zero_or_pos (p.activeOf device).length with hnil | hpos
  · exact .inl (List.eq_nil_of_length_eq_zero hnil)
  · refine .inr ?_
    rw [hlowers]
    exact Nat.sub_add_cancel hpos

/-- Calls that leave a device with two deployments, of which the later one counts nobody. -/
def reachingCalls : List (TenantId × StoreCall) :=
  [("", .insertDeployment
      { id := "update", plan := { name := "all", artifactName := "app" }, created := .ofUnix 0
        stats := .tally [.pending], deviceCount := 1, maxDevices := 1 }),
    ("", .insertDeployment
      { id := "another", plan := { name := "all", artifactName := "tool" }, created := .ofUnix 1 }),
    ("", .insertRecords
      [{ id := "second", deploymentId := "another", deviceId := "left", status := .pending
         created := .ofUnix 1 },
       { id := "first", deploymentId := "update", deviceId := "left", status := .pending
         created := .ofUnix 0 }])]

/-- A world in which nobody has polled yet. -/
def reachedWorld : World MemoryStore ObjectSite :=
  { store := DataStore.after {} reachingCalls, objects := { service := .memory {} } }

/-- A poll is served and served again from an empty catalog. Another poll finds its artifact
installed and leaves one active record of two. -/
theorem polls_serve_first_sample :
    (∃ i : Instructions,
      let polled := reachedWorld.perform sampleScene (.poll "left" { deviceType := "board" })
      polled.1 = .ok (some i) ∧ i.id = "update" ∧
      (polled.2.perform { sampleScene with catalog := ⟨[]⟩ }
        (.poll "left" { deviceType := "board" })).1 = .ok (some i)) ∧
    let polled := reachedWorld.perform sampleScene (.poll "left" { artifactName := "app" })
    polled.1 = .ok none ∧ ((polled.2.part "").activeOf "left").length = 1 := by
  have hserve := polls_serve_first reachedWorld reachingCalls rfl FaultPlan.sparesStore_nil
    sampleScene "left"
  constructor
  · obtain ⟨⟨r, hr, hid⟩, hagain⟩ := (hserve { deviceType := "board" }).1 _ rfl
    exact ⟨_, rfl, rfl, (hagain ⟨[]⟩ sampleScene.inventory).2.2 ⟨rfl, fun _ _ => rfl⟩⟩
  · have hlowers := (hserve { artifactName := "app" }).2.2 rfl (by decide)
    refine ⟨rfl, ?_⟩
    rcases hlowers with hfree | hless
    · cases hfree
    · exact Nat.succ.inj hless

end World

end Fleet
