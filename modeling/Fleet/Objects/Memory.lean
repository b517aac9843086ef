import Fleet.Context
import Fleet.Link
import Fleet.Objects.Payload
import Fleet.Table.Basic
import Fleet.Text.Digits

/-!
# `Fleet.Objects.Memory`: an object storage of a table

Objects are found by their keys, which begin with the tenant. Links are addresses of a scheme
of their own that name the key, the method and the time of expiry.
-/

set_option autoImplicit false

namespace Fleet

open Fleet.Time

structure StoredObject where
  body : ByteArray
  modified : Instant
deriving Inhabited

/-- An object storage of a table. -/
structure MemoryObjects where
  objects : Table String StoredObject := ∅
deriving Inhabited

namespace MemoryObjects

/-- Stores a payload under a path, unless reading it fails. -/
def put (s : MemoryObjects) (now : Instant) (ctx : Context) (path : String) (p : Payload) :
    Except ObjectError Unit × MemoryObjects :=
  match p.failure with
  | some detail => (.error (.io detail), s)
  | none => (.ok (), ⟨s.objects.insert (ctx.objectKey path) ⟨p.bytes, now⟩⟩)

def delete (s : MemoryObjects) (ctx : Context) (path : String) :
    Except ObjectError Unit × MemoryObjects :=
  if s.objects.contains (ctx.objectKey path) then
    (.ok (), ⟨s.objects.erase (ctx.objectKey path)⟩)
  else (.error .notFound, s)

def stat (s : MemoryObjects) (ctx : Context) (path : String) : Except ObjectError ObjectInfo :=
  let key := ctx.objectKey path
  match s.objects.get? key with
  | some o => .ok { path := key, size := some o.body.size, lastModified := some o.modified }
  | none => .error .notFound

/-- The contents of the object with a key. -/
def body (s : MemoryObjects) (key : String) : Except ObjectError ByteArray :=
  match s.objects.get? key with
  | some o => .ok o.body
  | none => .error .notFound

/-- A link for a path, which must not be empty. -/
def sign (now : Instant) (ctx : Context) (method : LinkMethod) (path : String)
    (filename : Option String) (lifetime : Span) : Except ObjectError Link :=
  if path.isEmpty then .error (.invalidPath "object path is empty")
  else
    let expire := linkBounds.expireAt now lifetime
    let uri := "memory://" ++ ctx.objectKey path ++ "?method=" ++ method.token ++ "&expires="
      ++ Text.intText expire.unixSeconds
      ++ (match filename with
        | some name => "&filename=" ++ name
        | none => "")
    .ok { uri, method, expire }

end MemoryObjects

end Fleet
