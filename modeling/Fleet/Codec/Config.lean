import Fleet.Config.Basic
import Fleet.Json.Decode

/-!
# `Fleet.Codec.Config`: the settings of the service as JSON

A document of settings is read through the same decoders, because its value is a JSON value.
-/

set_option autoImplicit false

namespace Fleet.Codec

open Fleet.Json FieldReader

def encodeStoreConfig (c : StoreConfig) : Json :=
  .obj
    [("path", .str c.path), ("busy_timeout_ms", .ofNat c.busyTimeout),
      ("journal_mode", .str c.journalMode.token), ("sync_mode", .str c.syncMode.token)]

def decodeStoreConfig : Decoder StoreConfig := asRecord do
  let path ← required "path" asString
  let busyTimeout ← defaulted "busy_timeout_ms" asWord 5000
  let journalMode ← defaulted "journal_mode" (asToken JournalMode.ofToken?) .wal
  let syncMode ← defaulted "sync_mode" (asToken SyncMode.ofToken?) .full
  return { path, busyTimeout, journalMode, syncMode }

def encodeDelivery (c : DeliveryConfig) : Json :=
  .obj
    [("download_link_expire_secs", .ofNat c.linkSeconds),
      ("filename_suffix", .ofOption .str c.filenameSuffix),
      ("content_type", .ofOption .str c.contentType)]

def decodeDelivery : Decoder DeliveryConfig := asRecord do
  let linkSeconds ← defaulted "download_link_expire_secs" asWord defaultLinkLifetime.seconds
  let filenameSuffix ← optional "filename_suffix" asString
  let contentType ← optional "content_type" asString
  return { linkSeconds, filenameSuffix, contentType }

def encodeBucket (c : BucketConfig) : Json :=
  .obj
    [("bucket", .str c.bucket), ("region", .ofOption .str c.region),
      ("uri", .ofOption .str c.uri), ("external_uri", .ofOption .str c.externalUri),
      ("key", .ofOption .str c.key), ("secret", .ofOption .str c.secret),
      ("token", .ofOption .str c.token), ("force_path_style", .bool c.forcePathStyle),
      ("use_accelerate", .bool c.useAccelerate), ("buffer_size", .ofNat c.bufferSize),
      ("create_bucket", .bool c.createBucket)]

def decodeBucket : Decoder BucketConfig := asRecord do
  let bucket ← required "bucket" asString
  let region ← optional "region" asString
  let uri ← optional "uri" asString
  let externalUri ← optional "external_uri" asString
  let key ← optional "key" asString
  let secret ← optional "secret" asString
  let token ← optional "token" asString
  let forcePathStyle ← defaulted "force_path_style" asBool false
  let useAccelerate ← defaulted "use_accelerate" asBool false
  let bufferSize ← defaulted "buffer_size" asWord S3.defaultPartSize
  let createBucket ← defaulted "create_bucket" asBool false
  return { bucket, region, uri, externalUri, key, secret, token, forcePathStyle, useAccelerate,
           bufferSize, createBucket }

def encodeContainer (c : ContainerConfig) : Json :=
  .obj
    [("container", .str c.container), ("connection_string", .ofOption .str c.connectionString),
      ("account_name", .ofOption .str c.accountName),
      ("account_key", .ofOption .str c.accountKey), ("uri", .ofOption .str c.uri),
      ("buffer_size", .ofNat c.bufferSize)]

def decodeContainer : Decoder ContainerConfig := asRecord do
  let container ← required "container" asString
  let connectionString ← optional "connection_string" asString
  let accountName ← optional "account_name" asString
  let accountKey ← optional "account_key" asString
  let uri ← optional "uri" asString
  let bufferSize ← defaulted "buffer_size" asWord Azure.defaultBlockSize
  return { container, connectionString, accountName, accountKey, uri, bufferSize }

def encodeStorage (c : StorageConfig) : Json :=
  .obj
    [("default", .str c.standard.token), ("proxy_uri", .ofOption .str c.gateway),
      ("s3", .ofOption encodeBucket c.s3), ("azure", .ofOption encodeContainer c.azure)]

def decodeStorage : Decoder StorageConfig := asRecord do
  let standard ← defaulted "default" (asToken StorageType.ofToken?) .s3
  let gateway ← optional "proxy_uri" asString
  let s3 ← optional "s3" decodeBucket
  let azure ← optional "azure" decodeContainer
  return { standard, gateway, s3, azure }

def encodeAudit (c : AuditConfig) : Json :=
  .obj [("sink", .str c.sink.token), ("path", .ofOption .str c.path)]

def decodeAudit : Decoder AuditConfig := asRecord do
  let sink ← defaulted "sink" (asToken AuditSinkKind.ofToken?) .none
  let path ← optional "path" asString
  return { sink, path }

def encodeConfig (c : Config) : Json :=
  .obj
    [("deployments", encodeDelivery c.delivery), ("storage", encodeStorage c.storage),
      ("store", encodeStoreConfig c.store), ("audit", encodeAudit c.audit)]

def decodeConfig : Decoder Config := asRecord do
  let delivery ← defaulted "deployments" decodeDelivery {}
  let storage ← required "storage" decodeStorage
  let store ← defaulted "store" decodeStoreConfig { path := defaultStorePath }
  let audit ← defaulted "audit" decodeAudit {}
  return { delivery, storage, store, audit }

end Fleet.Codec
