import Fleet.Codec.Basic
import Fleet.Query

/-!
# `Fleet.Codec.Deployment`: plans, deployments, artifacts and queries as JSON

Every option is written, as `null` when it is absent, and may be missing when read.
-/

set_option autoImplicit false

namespace Fleet.Codec

open Fleet.Time Fleet.Json FieldReader

def encodeArtifact : Encoder Artifact := fun a => do
  let modified ← encodeOption encodeInstant a.modified
  return .obj
    [("id", .str a.id), ("name", .str a.name),
      ("device_types_compatible", .ofStrings a.deviceTypes), ("size", .ofOption .ofNat a.size),
      ("modified", modified)]

def decodeArtifact : Decoder Artifact := asRecord do
  let id ← required "id" asString
  let name ← required "name" asString
  let deviceTypes ← defaulted "device_types_compatible" (asList asString) []
  let size ← optional "size" asWord
  let modified ← optional "modified" decodeInstant
  return { id, name, deviceTypes, size, modified }

def encodePlan (p : Plan) : Json :=
  .obj
    [("name", .str p.name), ("artifact_name", .str p.artifactName),
      ("devices", .ofStrings p.devices), ("group", .ofOption .str p.group),
      ("retries", .ofNat p.retries), ("max_devices", .ofOption .ofNat p.maxDevices)]

def decodePlan : Decoder Plan := asRecord do
  let name ← required "name" asString
  let artifactName ← required "artifact_name" asString
  let devices ← defaulted "devices" (asList asString) []
  let group ← optional "group" asString
  let retries ← defaulted "retries" asHalfWord 0
  let maxDevices ← optional "max_devices" asWord
  return { name, artifactName, devices, group, retries, maxDevices }

def encodeDeployment : Encoder Deployment := fun d => do
  let created ← encodeInstant d.created
  let finished ← encodeOption encodeInstant d.finished
  return .obj
    [("id", .str d.id), ("constructor", encodePlan d.plan), ("stats", encodeStats d.stats),
      ("created", created), ("finished", finished),
      ("device_count", .ofNat d.deviceCount), ("max_devices", .ofNat d.maxDevices),
      ("artifacts", .ofStrings d.artifacts)]

def decodeDeployment : Decoder Deployment := asRecord do
  let id ← required "id" asString
  let plan ← required "constructor" decodePlan
  let stats ← required "stats" decodeStats
  let created ← required "created" decodeInstant
  let finished ← optional "finished" decodeInstant
  let deviceCount ← required "device_count" asWord
  let maxDevices ← required "max_devices" asWord
  let artifacts ← defaulted "artifacts" (asList asString) []
  return { id, plan, stats, created, finished, deviceCount, maxDevices, artifacts }

def encodeStatusFilter (f : StatusFilter) : Json := .str f.token

def decodeStatusFilter : Decoder StatusFilter := asToken StatusFilter.ofToken?

def encodeQuery : Encoder Query := fun q => do
  let createdAfter ← encodeOption encodeInstant q.createdAfter
  let createdBefore ← encodeOption encodeInstant q.createdBefore
  return .obj
    [("search_text", .ofOption .str q.searchText), ("status", encodeStatusFilter q.status),
      ("created_after", createdAfter), ("created_before", createdBefore),
      ("skip", .ofNat q.skip), ("limit", .ofOption .ofNat q.limit)]

def decodeQuery : Decoder Query := asRecord do
  let searchText ← optional "search_text" asString
  let status ← defaulted "status" decodeStatusFilter .any
  let createdAfter ← optional "created_after" decodeInstant
  let createdBefore ← optional "created_before" decodeInstant
  let skip ← defaulted "skip" asWord 0
  let limit ← optional "limit" asWord
  return { searchText, status, createdAfter, createdBefore, skip, limit }

end Fleet.Codec
