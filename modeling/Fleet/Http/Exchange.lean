/-!
# `Fleet.Http.Exchange`: requests and replies over a network

A `Network` is what lies between a client and the services: the replies that are yet to come
and the requests that were sent. A network may be down; then no request gets through.
-/

set_option autoImplicit false

namespace Fleet.Http

/-- Headers with their values, in the order in which they are written. -/
abbrev Headers := List (String × String)

/-- Whether the value of a header can be written: no character of it is a control but the tab. -/
def isWritableHeader (h : String × String) : Bool :=
  h.2.toList.all fun c => c = '\t' || (' ' ≤ c && c ≠ '\x7f')

structure Request where
  method : String
  url : String
  headers : Headers := []
  body : ByteArray := .empty
deriving Inhabited

structure Reply where
  status : Nat := 200
  headers : Headers := []
  body : ByteArray := .empty
deriving Inhabited

namespace Reply

/-- The value of the first header with a name, letter case ignored. -/
def header? (r : Reply) (name : String) : Option String :=
  (r.headers.find? fun h => h.1.map Char.toLower = name.map Char.toLower).map (·.2)

/-- Whether the service accepted the request. -/
def isSuccess (r : Reply) : Bool := 200 ≤ r.status && r.status < 300

/-- Whether the reply may name another address instead of answering the request. -/
def leadsOn (r : Reply) : Bool := 300 ≤ r.status && r.status < 400

/-- A reply of success is never one that leads elsewhere, since the statuses are apart. -/
theorem leadsOn_of_isSuccess {r : Reply} (h : r.isSuccess = true) : r.leadsOn = false := by
  have hbounds : 200 ≤ r.status ∧ r.status < 300 := by simpa [isSuccess] using h
  simp only [leadsOn, Bool.and_eq_false_iff, decide_eq_false_iff_not]
  omega

end Reply

/-- The way between a client and the services. A reply that is missing stands for a request
that does not get through. -/
structure Network where
  /-- The replies to the next requests. -/
  replies : List (Option Reply) := []
  /-- The reply to every request after those. -/
  later : Option Reply := some {}
  /-- The requests that reached a service, the latest first. -/
  sent : List Request := []
deriving Inhabited

namespace Network

/-- A network on which nothing is reached. -/
def down : Network := { later := none }

/-- The requests that reached a service, in order. -/
def requests (n : Network) : List Request := n.sent.reverse

/-- Sends a request and gives the reply, if there is one. -/
def exchange (n : Network) (r : Request) : Option Reply × Network :=
  let n' := { n with replies := n.replies.tail }
  match n.replies.head?.getD n.later with
  | some reply => (some reply, { n' with sent := r :: n.sent })
  | none => (none, n')

end Network

/-- A task that sends requests and may fail. -/
abbrev Exchanging (ε α : Type) := ExceptT ε (StateM Network) α

/-- Sends a request and gives the reply, if there is one. -/
def ask {ε : Type} (r : Request) : Exchanging ε (Option Reply) :=
  fun n => let (reply, n) := n.exchange r; (.ok reply, n)

end Fleet.Http
