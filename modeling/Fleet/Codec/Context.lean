import Fleet.Context
import Fleet.Json.Decode

/-!
# `Fleet.Codec.Context`: callers and storage settings as JSON
-/

set_option autoImplicit false

namespace Fleet.Codec

open Fleet.Json FieldReader

def encodeIdentity (i : Identity) : Json :=
  .obj [("subject", .str i.subject), ("tenant", .ofOption .str i.tenant)]

def decodeIdentity : Decoder Identity := asRecord do
  let subject ← required "subject" asString
  let tenant ← optional "tenant" asString
  return { subject, tenant }

def encodeSettings (s : StorageSettings) : Json :=
  .obj
    [("type", .str s.kind.token), ("bucket", .str s.bucket), ("region", .ofOption .str s.region),
      ("key", .ofOption .str s.key), ("secret", .ofOption .str s.secret),
      ("token", .ofOption .str s.token), ("uri", .ofOption .str s.uri),
      ("external_uri", .ofOption .str s.externalUri),
      ("connection_string", .ofOption .str s.connectionString),
      ("force_path_style", .bool s.forcePathStyle), ("use_accelerate", .bool s.useAccelerate)]

def decodeSettings : Decoder StorageSettings := asRecord do
  let kind ← defaulted "type" (asToken StorageType.ofToken?) .s3
  let bucket ← required "bucket" asString
  let region ← optional "region" asString
  let key ← optional "key" asString
  let secret ← optional "secret" asString
  let token ← optional "token" asString
  let uri ← optional "uri" asString
  let externalUri ← optional "external_uri" asString
  let connectionString ← optional "connection_string" asString
  let forcePathStyle ← defaulted "force_path_style" asBool false
  let useAccelerate ← defaulted "use_accelerate" asBool false
  return { kind, bucket, region, key, secret, token, uri, externalUri, connectionString,
           forcePathStyle, useAccelerate }

end Fleet.Codec
