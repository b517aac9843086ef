import Fleet.Http.Exchange
import Fleet.Url.Basic

/-!
# `Fleet.Http.Redirect`: replies that lead elsewhere

A reply may name another address instead of answering a request. A client that follows such
replies sends a request to that address, and so on up to a limit; what comes of the first request
is the last reply. `Redirects` is how a client does that, and `Redirects.web` how it is usual on
the web.
-/

set_option autoImplicit false

namespace Fleet.Http

/-- What a client does about a reply. -/
inductive Turn where
  /-- It takes the reply. -/
  | stay
  /-- It sends another request because of it. -/
  | follow (next : Request)
  /-- It gives up. -/
  | fail (reason : String)

/-- How a client follows replies that lead elsewhere. -/
structure Redirects where
  turn : Request → Reply → Turn
  /-- How many requests may follow one. -/
  limit : Nat
  /-- The reason to give up after a request that leads on at the limit. -/
  exhausted : Request → String
  /-- Only replies whose status says so lead elsewhere. -/
  stays : ∀ r reply, reply.leadsOn = false → turn r reply = .stay
  /-- A request that follows another says nothing in its headers that the other did not say, but
  for the place that it comes from. -/
  headers_of_follow : ∀ r reply next, turn r reply = .follow next →
    ∀ h ∈ next.headers, h ∈ r.headers ∨ h.1 = "referer"

/-- What comes of a request. -/
inductive Delivery where
  | reply (reply : Reply)
  /-- No reply came back. -/
  | silence
  /-- The client gave up. -/
  | failure (reason : String)

namespace Redirects

/-- Sends a request and the requests that follow it, so many at most. -/
def follow (c : Redirects) : Nat → Request → Network → Delivery × Network
  | hops, r, n =>
    match n.exchange r with
    | (none, n') => (.silence, n')
    | (some reply, n') =>
      match c.turn r reply, hops with
      | .stay, _ => (.reply reply, n')
      | .fail reason, _ => (.failure reason, n')
      | .follow _, 0 => (.failure (c.exhausted r), n')
      | .follow next, hops + 1 => follow c hops next n'

/-- Sends a request and follows the replies that lead elsewhere. -/
def deliver {ε : Type} (c : Redirects) (r : Request) : Exchanging ε Delivery :=
  fun n => let (outcome, n) := c.follow c.limit r n; (.ok outcome, n)

/-! ### The usual way -/

/-- The headers that say what a body is. -/
def bodyHeaders : List String :=
  ["content-type", "content-length", "content-encoding", "transfer-encoding"]

/-- The headers that are for one host alone. -/
def privateHeaders : List String :=
  ["authorization", "cookie", "cookie2", "proxy-authorization", "www-authenticate"]

/-- The request without some headers. -/
def without (names : List String) (r : Request) : Request :=
  { r with headers := r.headers.filter fun h => !names.contains h.1 }

/-- The request that follows a reply with a status, but for its address. Some replies want the same
request again, others want their address to be fetched. -/
def again? (r : Request) (status : Nat) : Option Request :=
  let fetch (method : String) : Request := { without bodyHeaders r with method, body := .empty }
  if status = 301 || status = 302 then some (if r.method = "POST" then fetch "GET" else r)
  else if status = 303 then some (fetch (if r.method = "HEAD" then "HEAD" else "GET"))
  else if status = 307 || status = 308 then some r
  else none

/-- The host and the port of an address. -/
def host? (url : Url) : Option (Url.Host × Option Nat) :=
  url.authority.map fun a => (a.host, a.port <|> Url.defaultPort url.scheme)

/-- The turn that is usual on the web. -/
def webTurn (r : Request) (reply : Reply) : Turn :=
  match Url.parse? r.url with
  | none => .stay
  | some url =>
    match again? r reply.status, (reply.header? "location").bind url.join? with
    | some again, some place =>
      if place.isWeb then
        let again := if host? place = host? url then again else without privateHeaders again
        .follow { again with url := { place with fragment := none }.text }
      else .fail ("builder error for url (" ++ place.text ++ ")")
    | _, _ => .stay

/-- Leaving out headers by name adds none: what is left was there before. -/
theorem mem_headers_of_without {names : List String} {r : Request} {h : String × String}
    (hh : h ∈ (without names r).headers) : h ∈ r.headers :=
  (List.mem_filter.1 hh).1

/-- The request that is sent again has no header that the first one did not have. What could be
written into the first can be written into it. -/
theorem mem_headers_of_again? {r again : Request} {status : Nat} {h : String × String}
    (hagain : again? r status = some again) (hh : h ∈ again.headers) : h ∈ r.headers := by
  unfold again? at hagain
  split at hagain
  · split at hagain <;> cases hagain
    · exact mem_headers_of_without hh
    · exact hh
  · split at hagain
    · cases hagain
      exact mem_headers_of_without hh
    · split at hagain <;> cases hagain
      exact hh

/-- A reply that leads elsewhere has a status that says so. -/
theorem again?_of_not_leadsOn (r : Request) {reply : Reply} (h : reply.leadsOn = false) :
    again? r reply.status = none := by
  have hother (status : Nat) (hge : 300 ≤ status) (hlt : status < 400) :
      reply.status ≠ status := by
    rintro rfl
    simp [Reply.leadsOn, hge, hlt] at h
  simp [again?, hother]

/-- A client of the web stays at a reply that does not lead elsewhere, whatever was asked. -/
theorem webTurn_of_not_leadsOn (r : Request) {reply : Reply} (h : reply.leadsOn = false) :
    webTurn r reply = .stay := by
  rw [webTurn, again?_of_not_leadsOn r h]
  cases Url.parse? r.url <;> rfl

/-- Wherever a client of the web is led, it takes along no header that it did not have. -/
theorem mem_headers_of_webTurn {r next : Request} {reply : Reply} {h : String × String}
    (hturn : webTurn r reply = .follow next) (hh : h ∈ next.headers) : h ∈ r.headers := by
  unfold webTurn at hturn
  split at hturn
  · cases hturn
  · split at hturn
    · next again place hagain _ =>
      split at hturn
      · cases hturn
        split at hh
        · exact mem_headers_of_again? hagain hh
        · exact mem_headers_of_again? hagain (mem_headers_of_without hh)
      · cases hturn
    · cases hturn

/-- The usual way, in which at most ten requests follow one. -/
def web : Redirects where
  turn := webTurn
  limit := 10
  exhausted r := "error following redirect for url (" ++ r.url ++ ")"
  stays r _ := webTurn_of_not_leadsOn r
  headers_of_follow _ _ _ hturn _ hh := .inl (mem_headers_of_webTurn hturn hh)

instance : Inhabited Redirects := ⟨web⟩

end Redirects

end Fleet.Http
