import Fleet.Time.Instant

/-!
# `Fleet.Link`: signed links, their lifetimes, and facts about objects

A link lets its holder make one kind of request on one object until it expires. Lifetimes
are kept between bounds and cut to whole seconds.
-/

set_option autoImplicit false

namespace Fleet

open Fleet.Time

/-- What a link allows. -/
inductive LinkMethod where
  | get
  | put
  | delete
deriving DecidableEq, Repr, Inhabited

namespace LinkMethod

def token : LinkMethod → String
  | .get => "GET"
  | .put => "PUT"
  | .delete => "DELETE"

def ofToken? (s : String) : Option LinkMethod := [get, put, delete].find? (·.token = s)

end LinkMethod

structure Link where
  uri : String
  method : LinkMethod
  expire : Instant
  /-- Headers that the request must carry, in ascending order of names. -/
  header : List (String × String) := []
deriving DecidableEq, Repr, Inhabited

/-- What a store tells about an object. -/
structure ObjectInfo where
  /-- The key of the object. -/
  path : String
  /-- The size in bytes, if known. -/
  size : Option Nat
  lastModified : Option Instant := none
deriving DecidableEq, Repr, Inhabited

/-! ### Lifetimes -/

structure Span where
  nanos : Nat
deriving DecidableEq, Repr, Inhabited

namespace Span

def ofSeconds (s : Nat) : Span := ⟨s * 1000000000⟩

/-- A span of seconds and nanoseconds, of which there may be a second or more. -/
def ofParts (s n : Nat) : Span := ⟨s * 1000000000 + n⟩

def seconds (d : Span) : Nat := d.nanos / 1000000000

end Span

/-- The shortest and the longest lifetime of a link. -/
structure LifetimeBounds where
  min : Span := .ofSeconds 60
  max : Span := .ofSeconds 604800
deriving DecidableEq, Repr

namespace LifetimeBounds

/-- The whole seconds of the lifetime within the bounds that is nearest to the requested one. -/
def clamp (b : LifetimeBounds) (requested : Span) : Span :=
  .ofSeconds (Span.seconds ⟨Nat.max b.min.nanos (Nat.min b.max.nanos requested.nanos)⟩)

/-- When a link made at `now` expires. -/
def expireAt (b : LifetimeBounds) (now : Instant) (requested : Span) : Instant :=
  now.addNanos (b.clamp requested).nanos

end LifetimeBounds

/-- The bounds for all links. -/
def linkBounds : LifetimeBounds := {}

/-- The lifetime of a download link unless another one is configured, one day. -/
def defaultLinkLifetime : Span := .ofSeconds 86400

end Fleet
