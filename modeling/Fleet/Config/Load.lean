import Fleet.Codec.Config
import Fleet.Config.Check
import Fleet.Toml.Parser

/-!
# `Fleet.Config.Load`: settings from a document, a file or the surroundings

The path of the file is the one asked for, or the one that the environment names, or a name in
the current directory. Paths and files are of bounded size, and what is read is checked.
-/

set_option autoImplicit false

namespace Fleet

/-- The name of the file unless another one is given. -/
def defaultConfigPath : String := "rollout.toml"

/-- The greatest size of a file of settings in bytes. -/
def maxConfigSize : Nat := 1048576

/-- What settings are loaded from. -/
structure ConfigSource where
  /-- The path that the environment names. -/
  environmentPath : Option String := none
  /-- The contents of the file at a path, or why there are none. -/
  read : String → Except String ByteArray

namespace Config

def ofToml (document : String) : Checked Config := do
  match (Toml.parse? document).bind Codec.decodeConfig with
  | none => throw (.parse "no settings")
  | some c =>
    c.check
    pure c

/-- The path of the file of settings. -/
def resolvePath (source : ConfigSource) (path : Option String) : Checked String :=
  match path, source.environmentPath with
  | some path, _ => .ok path
  | none, some path => do
    demand (!isOverlongPath path) "config path exceeds max length"
    pure path
  | none, none => .ok defaultConfigPath

/-- The settings in a file: the one at a path, or the one of the surroundings. -/
def load (source : ConfigSource) (path : Option String) : Checked Config := do
  let path ← resolvePath source path
  demand (!isOverlongPath path) "config path exceeds max length"
  demand (!hasOverlongComponent path) "config path component too long"
  let bytes ← (source.read path).mapError .io
  demand (bytes.size ≤ maxConfigSize) "config file exceeds size limit"
  match String.fromUTF8? bytes with
  | none => throw (.invalid "config file must be utf-8")
  | some document => ofToml document

def linkLifetime (c : Config) : Span := .ofSeconds c.delivery.linkSeconds

end Config

end Fleet
