import Fleet.Hash.Mac
import Fleet.Link
import Fleet.S3.Target
import Fleet.Time.Stamp

/-!
# `Fleet.S3.SignedLink`: links that carry a signature

A link names who signed it, when, and for how long it can be used. The signature covers the
method, the path, the host and all pairs of the query in the order of their names; its key is
derived from the secret by way of the date, the region and the service.
-/

set_option autoImplicit false

namespace Fleet.S3

open Fleet.Hash Fleet.Text Fleet.Time Fleet.Url

/-- The name of the way of signing. -/
def algorithm : String := "AWS4-HMAC-SHA256"

/-- What the key of a signature is good for: a day, a region and a service. -/
def scopeParts (t : Target) (now : Instant) : List String :=
  [now.compactDate, t.region, "s3", "aws4_request"]

def scope (t : Target) (now : Instant) : String := "/".intercalate (scopeParts t now)

/-- The key of signatures within a scope. -/
def signingKey (t : Target) (now : Instant) : List UInt8 :=
  (scopeParts t now).foldl (fun key part => mac key (utf8Text part))
    (utf8Text ("AWS4" ++ t.credentials.secret))

/-- The written form of a pair. -/
def writePair (p : Pair) : Pair :=
  (percentText reservedSet p.1, percentText reservedSet p.2)

/-- The query that is written for pairs. -/
def writePairs (pairs : List Pair) : String :=
  "&".intercalate (pairs.map fun p => (writePair p).1 ++ "=" ++ (writePair p).2)

/-- Whether a pair comes before another or may stand beside it: the order of written names,
then of written values. -/
def writtenBefore (p q : Pair) : Bool :=
  let (p, q) := (writePair p, writePair q)
  p.1 < q.1 || (p.1 == q.1 && !(q.2 < p.2))

/-- The form of a request that is signed. -/
def canonicalRequest (method : String) (place : Place) (pairs : List Pair) : String :=
  "\n".intercalate
    [method, place.path, writePairs (pairs.mergeSort writtenBefore), "host:" ++ place.signedHost,
      "", "host", "UNSIGNED-PAYLOAD"]

/-- The text that is signed. -/
def textToSign (t : Target) (now : Instant) (request : String) : String :=
  "\n".intercalate
    [algorithm, now.compactText, scope t now, hexText (Sha256.digest (utf8Text request))]

def signature (t : Target) (now : Instant) (request : String) : String :=
  hexText (mac (signingKey t now) (utf8Text (textToSign t now request)))

/-- The pairs that say who signs, when and for how long. -/
def signingPairs (t : Target) (now : Instant) (lifetime : Span) : List Pair :=
  [ ("X-Amz-Algorithm", algorithm),
    ("X-Amz-Credential", t.credentials.key ++ "/" ++ scope t now),
    ("X-Amz-Date", now.compactText),
    ("X-Amz-Expires", Nat.repr lifetime.seconds),
    ("X-Amz-SignedHeaders", "host") ]

/-- The pair that carries the session token, if there is one. -/
def tokenPairs (t : Target) : List Pair :=
  match t.credentials.token with
  | some token => [("X-Amz-Security-Token", token)]
  | none => []

/-- The address of a signed request. -/
def signedUrl (t : Target) (now : Instant) (lifetime : Span) (method : LinkMethod) (place : Place)
    (pairs : List Pair) : String :=
  let front := pairs ++ signingPairs t now lifetime
  let mark := signature t now (canonicalRequest method.token place (front ++ tokenPairs t))
  place.text (writePairs (front ++ ("X-Amz-Signature", mark) :: tokenPairs t))

/-- A link for a key for as long as asked for, within the bounds of all links. -/
def objectLink (t : Target) (now : Instant) (op : ObjectOp) (method : LinkMethod) (key : String)
    (lifetime : Span) (pairs : List Pair) : Except ObjectError Link := do
  let place ← t.linkPlace op key
  let lifetime := linkBounds.clamp lifetime
  pure
    { uri := signedUrl t now lifetime method place pairs
      method
      expire := now.addNanos lifetime.nanos }

end Fleet.S3
