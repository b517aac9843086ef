import Fleet.Proofs.Model.Runs

/-!
# `Fleet.Proofs.Model.Fitness`: devices are told to install what fits them

An artifact comes to a record in three ways: at the creation of the deployment, by the names
that the deployment froze then, and by its artifact name at a later poll. The first poll after
that hands it out unseen, as long as the device does not say that it is of another type.

`Partition.Fitting` is the invariant behind this. The names that a deployment froze are those
of artifacts of its own artifact name, known to its tenant, and every active record has an
artifact that fits the type it stores. It is kept by every change (`Fitting.change`) as long as
the catalog of the tenant only grows and never holds two artifacts with the same name to store
them under (`Growing`): then a frozen name leads to the artifact that it was frozen for.

`instructions_fit` is the main theorem: whatever a poll tells a device to install fits it.
-/

set_option autoImplicit false

namespace Fleet

/-! ### Catalogs -/

/-- An artifact was in a catalog that a tenant has seen. -/
def Known (steps : List Step) (t : TenantId) (a : Artifact) : Prop :=
  ∃ step ∈ steps, step.1.ctx.partition = t ∧ a ∈ step.1.catalog.artifacts

/-- Runs in which the catalog of a tenant only grows and holds each artifact name to store under
once. -/
structure Growing (steps : List Step) : Prop where
  /-- A tenant finds again what it has seen. -/
  grows : steps.Pairwise fun a b => a.1.ctx.partition = b.1.ctx.partition →
    ∀ x ∈ a.1.catalog.artifacts, x ∈ b.1.catalog.artifacts
  /-- No two artifacts of a catalog are stored under the same name. -/
  distinct : ∀ step ∈ steps, (step.1.catalog.artifacts.map (·.id)).Nodup

/-- An artifact that was known stays known. -/
theorem Known.append {steps : List Step} {t : TenantId} {a : Artifact} (h : Known steps t a)
    (step : Step) : Known (steps ++ [step]) t a := by
  obtain ⟨s, hs, ht, ha⟩ := h
  exact ⟨s, List.mem_append_left _ hs, ht, ha⟩

/-- The artifacts of the last catalog are known. -/
theorem Known.last {steps : List Step} {step : Step} {a : Artifact}
    (h : a ∈ step.1.catalog.artifacts) : Known (steps ++ [step]) step.1.ctx.partition a :=
  ⟨step, List.mem_append_right _ List.mem_cons_self, rfl, h⟩

namespace Growing

variable {steps : List Step} {step : Step}

/-- Catalogs that grow over a run have grown over each beginning of it. -/
theorem of_append {rest : List Step} (h : Growing (steps ++ rest)) : Growing steps where
  grows := (List.pairwise_append.1 h.grows).1
  distinct s hs := h.distinct s (List.mem_append_left _ hs)

/-- The last catalog of a run holds all that its tenant has seen. -/
theorem mem_last (h : Growing (steps ++ [step])) {a : Artifact}
    (ha : Known steps step.1.ctx.partition a) : a ∈ step.1.catalog.artifacts := by
  obtain ⟨s, hs, ht, ha⟩ := ha
  exact (List.pairwise_append.1 h.grows).2.2 s hs step List.mem_cons_self ht a ha

/-- The last catalog of a run has no two artifacts of the same name to store them under. -/
theorem distinct_last (h : Growing (steps ++ [step])) :
    (step.1.catalog.artifacts.map (·.id)).Nodup :=
  h.distinct step (List.mem_append_right _ List.mem_cons_self)

end Growing

namespace Catalog

variable {c : Catalog} {a : Artifact}

/-- An artifact that is found by name is in the catalog, has the name and fits the type. -/
theorem findByName_spec {name deviceType : String}
    (h : c.findByName name deviceType = some a) :
    a ∈ c.artifacts ∧ a.name = name ∧ a.fits deviceType = true := by
  have htest := List.find?_some h
  rw [Bool.and_eq_true, decide_eq_true_eq] at htest
  exact ⟨List.mem_of_find?_eq_some h, htest⟩

/-- An artifact that is found among given ones is in the catalog, is one of them and fits the
type. -/
theorem findByIds_spec {ids : List ArtifactId} {deviceType : String}
    (h : c.findByIds ids deviceType = some a) :
    a ∈ c.artifacts ∧ a.id ∈ ids ∧ a.fits deviceType = true := by
  have htest := List.find?_some h
  rw [Bool.and_eq_true, List.contains_iff_mem] at htest
  exact ⟨List.mem_of_find?_eq_some h, htest⟩

end Catalog

/-- A plan that keeps the rules names an artifact. -/
theorem Plan.artifactName_ne_empty {plan : Plan} (h : plan.validate = .ok ()) :
    plan.artifactName ≠ "" := by
  intro hempty
  have hrefused : requireLength "artifact_name" "" 1 maxNameLength
      = .error (.blank "artifact_name") := rfl
  rw [Plan.validate, hempty, hrefused] at h
  cases hname : requireLength "name" plan.name 1 maxNameLength with
  | error e =>
    rw [hname] at h
    cases h
  | ok u =>
    rw [hname] at h
    cases h

/-! ### The invariant -/

namespace Partition

/-- Every active record has an artifact that fits its device, and deployments have frozen names
of known artifacts of their own artifact name. -/
structure Fitting (p : Partition) (known : Artifact → Prop) : Prop where
  /-- A deployment installs something. -/
  named : ∀ {id d}, p.deployments.get? id = some d → d.artifactName ≠ ""
  /-- A frozen name is that of a known artifact of the deployment's artifact name. -/
  frozen : ∀ {id d}, p.deployments.get? id = some d → ∀ i ∈ d.artifacts,
    ∃ a, known a ∧ a.id = i ∧ a.name = d.artifactName
  /-- An active record has an artifact of the deployment's artifact name for its device. -/
  active : ∀ {k r d}, p.records.get? k = some r → r.status.isActive = true →
    p.deployments.get? k.1 = some d → ∃ a t, r.artifact = some a ∧
      a.name = d.artifactName ∧ r.deviceType = some t ∧ a.fits t = true

namespace Fitting

variable {p p' : Partition} {known known' : Artifact → Prop} {scene : Scene} {c : ModelCall}
  {events : List AuditEvent}

/-- An empty part fits. -/
theorem empty (known : Artifact → Prop) : Fitting {} known where
  named h := by cases h
  frozen h := by cases h
  active h := by cases h

/-- A part that fits the artifacts known at some time fits those known later. -/
theorem mono (h : p.Fitting known) (hknown : ∀ {a}, known a → known' a) : p.Fitting known' where
  named := h.named
  frozen hd i hi := by
    obtain ⟨a, ha, hid⟩ := h.frozen hd i hi
    exact ⟨a, hknown ha, hid⟩
  active := h.active

/-- What is found for a device of a deployment has the deployment's artifact name and fits. -/
theorem resolve (h : p.Fitting known) (hcatalog : ∀ {a}, known a → a ∈ scene.catalog.artifacts)
    (hdistinct : (scene.catalog.artifacts.map (·.id)).Nodup) {id : DeploymentId}
    {d : Deployment} (hd : p.deployments.get? id = some d) {t : String} {a : Artifact}
    (found : scene.resolve d t = some a) : a.name = d.artifactName ∧ a.fits t = true := by
  rw [Scene.resolve, Option.or_eq_some_iff] at found
  rcases found with found | ⟨-, found⟩
  · obtain ⟨ha, hid, hfits⟩ := Catalog.findByIds_spec found
    obtain ⟨b, hb, hbid, hname⟩ := h.frozen hd _ hid
    -- The name that was frozen leads to one artifact only.
    have hab : b = a := List.inj_on_of_nodup_map hdistinct (hcatalog hb) ha hbid
    rw [hab] at hname
    exact ⟨hname, hfits⟩
  · obtain ⟨-, hname, hfits⟩ := Catalog.findByName_spec found
    exact ⟨hname, hfits⟩

/-- A change leaves the artifact name of a deployment as it is. -/
theorem artifactName_change (hconsistent : p.Consistent) (hchange : scene.Change p c p' events)
    {id : DeploymentId} {d d' : Deployment} (hd : p.deployments.get? id = some d)
    (hd' : p'.deployments.get? id = some d') : d'.artifactName = d.artifactName := by
  rcases hchange.deployment hconsistent hd' with ⟨e, he, step⟩ | ⟨hnew, -⟩
  · rw [he] at hd
    cases hd
    rw [Deployment.artifactName, step.frozen.1, Deployment.artifactName]
  · rw [hnew] at hd
    cases hd

/-- An active record of a creation has an artifact for its device. -/
theorem active_recordFor {plan : Plan} {device : DeviceId} {id : RecordId}
    (active : (scene.recordFor (scene.draft plan) device id).status.isActive = true) :
    ∃ a t, (scene.recordFor (scene.draft plan) device id).artifact = some a ∧
      a.name = plan.artifactName ∧
      (scene.recordFor (scene.draft plan) device id).deviceType = some t ∧ a.fits t = true := by
  rcases scene.status_recordFor (scene.draft plan) device id with
    ⟨-, -, t, a, -, ha, hartifact, htype⟩ | ⟨hstatus, -⟩
  · obtain ⟨-, hname, hfits⟩ := Catalog.findByName_spec ha
    exact ⟨a, t, hartifact, hname, htype, hfits⟩
  · rw [hstatus] at active
    cases active

/-- An active record has an artifact for its device after a change, wherever the artifact comes
from. -/
theorem active_change (h : p.Fitting known) (hconsistent : p.Consistent)
    (hchange : scene.Change p c p' events) (hcatalog : ∀ {a}, known a → a ∈ scene.catalog.artifacts)
    (hdistinct : (scene.catalog.artifacts.map (·.id)).Nodup) {k : DeploymentId × DeviceId}
    {r' : DeviceRecord} {d' : Deployment} (hr' : p'.records.get? k = some r')
    (active' : r'.status.isActive = true) (hd' : p'.deployments.get? k.1 = some d') :
    ∃ a t, r'.artifact = some a ∧ a.name = d'.artifactName ∧ r'.deviceType = some t ∧
      a.fits t = true := by
  rcases hchange.activeRecord hr' active' with
    ⟨r, hr, active, hartifact, htype⟩ | ⟨hnew, plan, device, id, rfl, rfl⟩ |
    ⟨r, d, t, a, hr, hd, found, rfl⟩
  · -- The record goes on with the artifact it had.
    obtain ⟨d, hd⟩ := hconsistent.owned hr
    rw [hartifact, htype, artifactName_change hconsistent hchange hd hd']
    exact h.active hr active hd
  · -- The record of a creation stands under the deployment of the creation.
    have hk : k.1 = scene.newDeployment := by
      rw [← (hchange.evolves hconsistent).keyed.record hr', Scene.key_recordFor]
      rfl
    rw [hk] at hd'
    rcases hchange.deployment hconsistent hd' with ⟨d, hd, -⟩ | ⟨-, plan', hplan, -, rfl, -⟩
    · rw [hnew] at hd
      cases hd
    · cases hplan
      rw [Deployment.artifactName, Scene.plan_opened]
      exact active_recordFor active'
  · -- A poll has found the artifact for the record.
    obtain ⟨ha, hfits⟩ := h.resolve hcatalog hdistinct hd found
    have hname := artifactName_change hconsistent hchange hd hd'
    exact ⟨a, t, rfl, by rw [ha, hname], rfl, hfits⟩

/-- The part keeps fitting, with the catalog of the scene known. -/
theorem change (h : p.Fitting known) (hconsistent : p.Consistent)
    (hchange : scene.Change p c p' events) (hcatalog : ∀ {a}, known a → a ∈ scene.catalog.artifacts)
    (hdistinct : (scene.catalog.artifacts.map (·.id)).Nodup) :
    p'.Fitting (· ∈ scene.catalog.artifacts) where
  named hd' := by
    rcases hchange.deployment hconsistent hd' with ⟨d, hd, step⟩ | ⟨-, plan, -, -, rfl, valid⟩
    · rw [Deployment.artifactName, step.frozen.1]
      exact h.named hd
    · rw [Deployment.artifactName, Scene.plan_opened]
      exact Plan.artifactName_ne_empty valid
  frozen hd' i hi := by
    rcases hchange.deployment hconsistent hd' with ⟨d, hd, step⟩ | ⟨-, plan, -, -, rfl, -⟩
    · rw [step.frozen.2] at hi
      rw [Deployment.artifactName, step.frozen.1]
      obtain ⟨a, ha, hid⟩ := h.frozen hd i hi
      exact ⟨a, hcatalog ha, hid⟩
    · -- A creation freezes the names of all artifacts of its artifact name.
      rw [Scene.artifacts_opened] at hi
      obtain ⟨a, ha, rfl⟩ := List.mem_map.1 hi
      obtain ⟨hmem, hname⟩ := List.mem_filter.1 ha
      rw [Deployment.artifactName, Scene.plan_opened]
      exact ⟨a, hmem, rfl, of_decide_eq_true hname⟩
  active hr' active' hd' :=
    h.active_change hconsistent hchange hcatalog hdistinct hr' active' hd'

/-- What a poll serves fits the device, and the record holds it afterwards. -/
theorem serves (h : p.Fitting known) (hconsistent : p.Consistent)
    (hcatalog : ∀ {a}, known a → a ∈ scene.catalog.artifacts)
    (hdistinct : (scene.catalog.artifacts.map (·.id)).Nodup) {device : DeviceId}
    {installed : Installed} {r : DeviceRecord} {d : Deployment} {a : Artifact}
    (hserves : ModelM.Serves scene p device installed r d a p') :
    ∃ t, a.name = d.artifactName ∧ installed.typeFor r = some t ∧ a.fits t = true ∧
      p'.records.get? r.key = some (r.withArtifact t a) ∧ p'.deployments = p.deployments := by
  obtain ⟨hr, -, hactive⟩ := Partition.of_oldest hconsistent.keyed hserves.oldest
  cases hserves.gives with
  | kept has same =>
    obtain ⟨b, t, hartifact, hname, htype, hfits⟩ := h.active hr hactive hserves.stored
    have hba : b = a := Option.some.inj (hartifact.symm.trans has)
    rw [hba] at hname hfits
    -- The device does not say another type than its record does.
    have htypeFor : installed.typeFor r = some t := by
      rw [Installed.typeFor]
      split
      · exact htype
      · next hsays =>
        rw [ModelM.typeChanged, Bool.eq_false_iff.2 hsays, Bool.not_false, Bool.true_and,
          bne_eq_false_iff_eq] at same
        rw [← same, htype]
    have hsame : r.withArtifact t a = r := by
      rw [DeviceRecord.withArtifact, ← htype, ← has]
    exact ⟨t, hname, htypeFor, hfits, by rw [hsame]; exact hr, rfl⟩
  | renewed lacks type found =>
    obtain ⟨hname, hfits⟩ := h.resolve hcatalog hdistinct hserves.stored found
    exact ⟨_, hname, type, hfits, by rw [get?_withRecord, if_pos rfl], rfl⟩

end Fitting

end Partition

namespace World

variable {ω : Type} [LinkIssuer ω] {w : World MemoryStore ω}

/-- Every part that a run reaches from an empty store fits what its tenant has seen. -/
theorem fitting_run (hstore : w.store = {}) (hfaults : w.faults.SparesStore)
    (steps : List Step) (hadmissible : Admissible steps) (hgrowing : Growing steps)
    (t : TenantId) : ((w.run steps).part t).Fitting (Known steps t) := by
  induction steps using List.reverseRecOn with
  | nil =>
    have hempty : w.part t = {} := by rw [part, hstore]
    rw [run, List.foldl_nil, hempty]
    exact .empty _
  | append_singleton steps step ih =>
    have hsound := sound_run hstore hfaults steps hadmissible.of_append
    have hfitting := ih hadmissible.of_append hgrowing.of_append
    have heffect := perform_effect hsound.spares (hsound.consistent _) step.2
      (hsound.ready hadmissible).bounded
    obtain ⟨events, hchange, -⟩ := heffect.change
    rw [run_append_singleton]
    by_cases ht : t = step.1.ctx.partition
    · subst ht
      exact (hfitting.change (hsound.consistent _) hchange hgrowing.mem_last
        hgrowing.distinct_last).mono Known.last
    · rw [heffect.others t ht]
      exact hfitting.mono fun ha => ha.append step

/-! ### Instructions -/

/-- A device is told to install what fits it. -/
theorem poll_fits {scene : Scene} {known : Artifact → Prop} (hfaults : w.faults.SparesStore)
    (hconsistent : (w.part scene.ctx.partition).Consistent)
    (hfitting : (w.part scene.ctx.partition).Fitting known)
    (hcatalog : ∀ {a}, known a → a ∈ scene.catalog.artifacts)
    (hdistinct : (scene.catalog.artifacts.map (·.id)).Nodup) {device : DeviceId}
    {installed : Installed} {i : Instructions}
    (h : (w.perform scene (.poll device installed)).1 = .ok (some i)) :
    ∃ d r a type, (w.part scene.ctx.partition).deployments.get? i.id = some d ∧
      ((w.perform scene (.poll device installed)).2.part
        scene.ctx.partition).deployments.get? i.id = some d ∧
      (w.part scene.ctx.partition).records.get? (i.id, device) = some r ∧
      r.status.isActive = true ∧
      ((w.perform scene (.poll device installed)).2.part
        scene.ctx.partition).records.get? (i.id, device) = some (r.withArtifact type a) ∧
      i.artifact.artifactName = d.artifactName ∧
      i.artifact.artifactName ≠ installed.artifactName ∧
      installed.typeFor r = some type ∧ type ∈ i.artifact.deviceTypes ∧
      i.artifact.artifactName = a.name ∧ i.artifact.deviceTypes = a.deviceTypes ∧
      (scene.link a w.objects).1 = .ok i.artifact.source := by
  have houtcome := ModelM.poll_outcome hfaults rfl hconsistent device installed
  have hperform : w.perform scene (.poll device installed)
      = (ModelM.poll device installed : ModelM MemoryStore ω _) scene w := rfl
  rw [← hperform] at houtcome
  clear hperform
  generalize w.perform scene (.poll device installed) = x at h houtcome ⊢
  cases houtcome with
  | idle free => cases h
  | rested hspares hr hd reason => cases h
  | failed hspares he => cases h
  | unlinked hspares hserves hlink => cases h
  | @served plan hspares r d a p' calls l hserves hlink =>
    cases h
    obtain ⟨hr, hown, hactive⟩ := Partition.of_oldest hconsistent.keyed hserves.oldest
    have hid := hconsistent.keyed.deployment hserves.stored
    obtain ⟨t, hname, htype, hfits, hrecord, hdeployments⟩ :=
      hfitting.serves hconsistent hcatalog hdistinct hserves
    -- The deployment installs something, so its name is not the empty one of a device that does
    -- not say what it runs.
    have hnews : d.artifactName ≠ installed.artifactName := by
      intro he
      have hruns := hserves.news
      rw [Installed.runs, ← he, beq_self_eq_true, Bool.and_true, Bool.not_eq_false'] at hruns
      exact hfitting.named hserves.stored (by simpa using hruns)
    have hpart (o : ω) : (((w.withFaults plan).turn scene.ctx.partition p' calls
        []).withObjects o).part scene.ctx.partition = p' :=
      part_turn (w.withFaults plan) scene.ctx.partition p' calls []
    rw [hpart, hdeployments, hid]
    rw [DeviceRecord.key, hown] at hr hrecord
    exact ⟨d, r, a, t, hserves.stored, hserves.stored, hr, hactive, hrecord, hname,
      by rw [hname]; exact hnews, htype, List.contains_iff_mem.1 hfits, rfl, rfl, hlink⟩

/-- In every run from an empty store in which catalogs only grow, an active record has an
artifact for the type of device that it stores, and a poll that returns instructions tells an
active device to install an artifact of the deployment's artifact name that the device does not
run, that fits the type it reported or the one its record stores, and that its record holds
afterwards together with that type. -/
theorem instructions_fit (hstore : w.store = {}) (hfaults : w.faults.SparesStore)
    (steps : List Step) (hadmissible : Admissible steps) (hgrowing : Growing steps) :
    (∀ t k r, ((w.run steps).part t).records.get? k = some r → r.status.isActive = true →
      ∃ a type, r.artifact = some a ∧ r.deviceType = some type ∧ a.fits type = true) ∧
    ∀ before after scene device installed (i : Instructions),
      steps = before ++ (scene, .poll device installed) :: after →
      ((w.run before).perform scene (.poll device installed)).1 = .ok (some i) →
      let p := (w.run before).part scene.ctx.partition
      let p' := ((w.run before).perform scene (.poll device installed)).2.part
        scene.ctx.partition
      ∃ d r a type, p.deployments.get? i.id = some d ∧ p'.deployments.get? i.id = some d ∧
        p.records.get? (i.id, device) = some r ∧ r.status.isActive = true ∧
        p'.records.get? (i.id, device)
          = some { r with artifact := some a, deviceType := some type } ∧
        i.artifact.artifactName = d.artifactName ∧
        i.artifact.artifactName ≠ installed.artifactName ∧
        (if installed.deviceType = "" then r.deviceType = some type
          else installed.deviceType = type) ∧
        type ∈ i.artifact.deviceTypes ∧
        i.artifact.artifactName = a.name ∧ i.artifact.deviceTypes = a.deviceTypes ∧
        (LinkIssuer.download scene.now scene.ctx a.id
          (a.name ++ scene.filenameSuffix.getD "") scene.linkLifetime
          (w.run before).objects).1 = .ok i.artifact.source := by
  constructor
  · intro t k r hr hactive
    have hfitting := fitting_run hstore hfaults steps hadmissible hgrowing t
    obtain ⟨d, hd⟩ := ((sound_run hstore hfaults steps hadmissible).consistent t).owned hr
    obtain ⟨a, type, hartifact, -, htype, hfits⟩ := hfitting.active hr hactive hd
    exact ⟨a, type, hartifact, htype, hfits⟩
  · intro before after scene device installed i hsteps hanswer
    subst hsteps
    -- The catalog of the poll is the last of those up to it.
    rw [List.append_cons] at hadmissible hgrowing
    have hsound := sound_run hstore hfaults before hadmissible.of_append.of_append
    obtain ⟨d, r, a, type, hd, hd', hr, hactive, hr', hname, hnews, htype, hrest⟩ :=
      poll_fits hsound.spares (hsound.consistent _)
        (fitting_run hstore hfaults before hadmissible.of_append.of_append
          hgrowing.of_append.of_append _)
        hgrowing.of_append.mem_last hgrowing.of_append.distinct_last hanswer
    refine ⟨d, r, a, type, hd, hd', hr, hactive, hr', hname, hnews, ?_, hrest⟩
    -- A device that says nothing of its type has the one of its record.
    rw [Installed.typeFor] at htype
    split
    · next hempty =>
      rw [hempty] at htype
      exact htype
    · next hsays =>
      rw [if_neg (by simpa using hsays)] at htype
      exact Option.some.inj htype

/-- The sample run has one catalog all along. -/
theorem growing_sampleSteps : Growing sampleSteps where
  grows := by
    have hscene : ∀ step ∈ sampleSteps, step.1 = sampleScene := by simp [sampleSteps]
    refine List.Pairwise.imp_of_mem (fun ha hb _ _ x hx => ?_)
      (List.pairwise_of_forall fun _ _ => trivial)
    rw [hscene _ hb, ← hscene _ ha]
    exact hx
  distinct := by
    have hscene : ∀ step ∈ sampleSteps, step.1 = sampleScene := by simp [sampleSteps]
    intro step hstep
    rw [hscene step hstep]
    decide

/-- A device of the sample run is told to install what it has not installed and what fits it. -/
theorem instructions_fit_sample : ∃ i : Instructions,
    ((sampleWorld.run (sampleSteps.take 1)).perform sampleScene
      (.poll "left" { artifactName := "base", deviceType := "board" })).1 = .ok (some i) ∧
    i.artifact.artifactName ≠ "base" ∧ "board" ∈ i.artifact.deviceTypes := by
  obtain ⟨d, r, a, type, -, -, -, -, -, -, hnews, htype, hmem, -⟩ :=
    (instructions_fit (w := sampleWorld) rfl FaultPlan.sparesStore_nil sampleSteps
      admissible_sampleSteps growing_sampleSteps).2 (sampleSteps.take 1) (sampleSteps.drop 2)
      sampleScene "left" { artifactName := "base", deviceType := "board" } _ rfl rfl
  rw [if_neg (by decide)] at htype
  subst htype
  exact ⟨_, rfl, hnews, hmem⟩

end World

end Fleet
