import Fleet.Codec.Deployment
import Fleet.Record

/-!
# `Fleet.Codec.Record`: records, reports, instructions, links and logs as JSON

The headers of a link are left out when there are none. Everything else is always written.
-/

set_option autoImplicit false

namespace Fleet.Codec

open Fleet.Time Fleet.Json FieldReader

def encodeRecord : Encoder DeviceRecord := fun r => do
  let artifact ← encodeOption encodeArtifact r.artifact
  let created ← encodeInstant r.created
  let finished ← encodeOption encodeInstant r.finished
  return .obj
    [("id", .str r.id), ("deployment_id", .str r.deploymentId), ("device_id", .str r.deviceId),
      ("artifact", artifact), ("device_type", .ofOption .str r.deviceType),
      ("status", encodeStatus r.status), ("substate", .ofOption .str r.substate),
      ("created", created), ("finished", finished), ("is_log_available", .bool r.isLogAvailable)]

def decodeRecord : Decoder DeviceRecord := asRecord do
  let id ← required "id" asString
  let deploymentId ← required "deployment_id" asString
  let deviceId ← required "device_id" asString
  let artifact ← optional "artifact" decodeArtifact
  let deviceType ← optional "device_type" asString
  let status ← required "status" decodeStatus
  let substate ← optional "substate" asString
  let created ← required "created" decodeInstant
  let finished ← optional "finished" decodeInstant
  let isLogAvailable ← defaulted "is_log_available" asBool false
  return { id, deploymentId, deviceId, artifact, deviceType, status, substate, created,
           finished, isLogAvailable }

def encodeReport (r : StatusReport) : Json :=
  .obj [("status", encodeStatus r.status), ("substate", .ofOption .str r.substate)]

def decodeReport : Decoder StatusReport := asRecord do
  let status ← required "status" decodeStatus
  let substate ← optional "substate" asString
  return { status, substate }

def encodeInstalled (i : Installed) : Json :=
  .obj [("artifact_name", .str i.artifactName), ("device_type", .str i.deviceType)]

def decodeInstalled : Decoder Installed := asRecord do
  let artifactName ← defaulted "artifact_name" asString ""
  let deviceType ← defaulted "device_type" asString ""
  return { artifactName, deviceType }

def encodeHeader (h : List (String × String)) : Json := .obj (h.map fun (n, v) => (n, .str v))

/-- Inserts a header by name: before all greater names, in place of an equal one. -/
def insertHeader (name value : String) : List (String × String) → List (String × String)
  | [] => [(name, value)]
  | (n, v) :: rest =>
    if name < n then (name, value) :: (n, v) :: rest
    else if name = n then (name, value) :: rest
    else (n, v) :: insertHeader name value rest

/-- Reads headers; the last value of a name counts. -/
def decodeHeader : Decoder (List (String × String)) := fun v =>
  (asMembers asString v).map fun members =>
    members.foldl (fun done (n, v) => insertHeader n v done) []

def encodeLink : Encoder Link := fun l => do
  let expire ← encodeInstant l.expire
  return .obj ([("uri", .str l.uri), ("method", .str l.method.token), ("expire", expire)]
    ++ if l.header.isEmpty then [] else [("header", encodeHeader l.header)])

def decodeLink : Decoder Link := asRecord do
  let uri ← required "uri" asString
  let method ← required "method" (asToken LinkMethod.ofToken?)
  let expire ← required "expire" decodeInstant
  let header ← defaulted "header" decodeHeader []
  return { uri, method, expire, header }

def encodeObjectInfo : Encoder ObjectInfo := fun i => do
  let lastModified ← encodeOption encodeInstant i.lastModified
  return .obj
    [("path", .str i.path), ("size", .ofOption .ofNat i.size), ("last_modified", lastModified)]

def decodeObjectInfo : Decoder ObjectInfo := asRecord do
  let path ← required "path" asString
  let size ← nullable "size" asWord
  let lastModified ← optional "last_modified" decodeInstant
  return { path, size, lastModified }

def encodeArtifactSource : Encoder ArtifactSource := fun a => do
  let source ← encodeLink a.source
  return .obj
    [("artifact_name", .str a.artifactName), ("source", source),
      ("device_types_compatible", .ofStrings a.deviceTypes)]

def decodeArtifactSource : Decoder ArtifactSource := asRecord do
  let artifactName ← required "artifact_name" asString
  let source ← required "source" decodeLink
  let deviceTypes ← required "device_types_compatible" (asList asString)
  return { artifactName, source, deviceTypes }

def encodeInstructions : Encoder Instructions := fun i => do
  let artifact ← encodeArtifactSource i.artifact
  return .obj [("id", .str i.id), ("artifact", artifact)]

def decodeInstructions : Decoder Instructions := asRecord do
  let id ← required "id" asString
  let artifact ← required "artifact" decodeArtifactSource
  return { id, artifact }

def encodeLogMessage : Encoder LogMessage := fun m => do
  let timestamp ← encodeInstant m.timestamp
  return .obj
    [("timestamp", timestamp), ("level", .str m.level), ("message", .str m.message)]

def decodeLogMessage : Decoder LogMessage := asRecord do
  let timestamp ← required "timestamp" decodeInstant
  let level ← required "level" asString
  let message ← required "message" asString
  return { timestamp, level, message }

def encodeLog : Encoder DeploymentLog := fun l => do
  let messages ← encodeList encodeLogMessage l.messages
  return .obj
    [("deployment_id", .str l.deploymentId), ("device_id", .str l.deviceId),
      ("messages", messages)]

def decodeLog : Decoder DeploymentLog := asRecord do
  let deploymentId ← required "deployment_id" asString
  let deviceId ← required "device_id" asString
  let messages ← required "messages" (asList decodeLogMessage)
  return { deploymentId, deviceId, messages }

end Fleet.Codec
