import Fleet.Http.Redirect
import Mathlib.Data.List.Induction

/-!
# `Fleet.Proofs.Http.Exchange`: requests one after another

A network answers by position: `Network.replyAt` is the reply to a coming request, whatever is
asked, and `Network.after` is the network after requests were sent. As long as each of them is
replied to, the requests that reached a service are exactly those (`requests_after`).

A task that sends requests is run step by step (`Exchanging.bind_ok` and its like). What holds of
every request that it may send is shown step by step, too, whatever the replies are
(`Exchanging.Sends`).

`Exchanging.relay` hands requests to such a task one after another until it fails. Uploads in
pieces come down to it. If none of them fails all are sent (`relay_of_delivered`); otherwise the
first that fails is the last that is sent (`relay_of_failed`).
-/

set_option autoImplicit false

namespace Fleet.Http

/-- A value that may be missing can be written into a header. -/
def IsWritable (value : Option String) : Prop :=
  ∀ v, value = some v → isWritableHeader ("", v) = true

/-- What is not configured needs no header, so it is no obstacle. -/
theorem isWritable_none : IsWritable none := nofun

/-- What a value must be like does not depend on the header that it is written into. -/
theorem isWritableHeader_of_isWritable {value : Option String} {v : String} (name : String)
    (h : IsWritable value) (hv : value = some v) : isWritableHeader (name, v) = true :=
  h v hv

namespace Network

variable {ε : Type} (n : Network) (r : Request) (rs rs' : List Request)

/-- The reply to the request at a position, the next one at zero. -/
def replyAt (i : Nat) : Option Reply := n.replies[i]?.getD n.later

/-- Another network replies as this one: by the same reply first and, where that leads elsewhere, by
the same replies throughout. -/
def RepliesAs (n' n : Network) : Prop :=
  n'.replyAt 0 = n.replyAt 0 ∧
    ((n.replyAt 0).any (·.leadsOn) = true → ∀ i, n'.replyAt i = n.replyAt i)

/-- Whether the reply at a position grants a request, as far as `accepts` can tell. -/
def grants (accepts : Request → Reply → Bool) (i : Nat) (r : Request) : Bool :=
  (n.replyAt i).any (accepts r)

/-- Whether the reply at a position is one of success. -/
def succeeds (i : Nat) : Bool := (n.replyAt i).any (·.isSuccess)

/-- The network after requests were sent, in order. -/
def after : Network := rs.foldl (fun n r => (n.exchange r).2) n

/-- No requests leave the network as it was. -/
@[simp] theorem after_nil : n.after [] = n := rfl

/-- Requests that are sent leave the network as sending the first and then the others does. -/
theorem after_cons : n.after (r :: rs) = (n.after [r]).after rs := rfl

/-- A network gets requests one after the other. -/
theorem after_append : n.after (rs ++ rs') = (n.after rs).after rs' :=
  List.foldl_append

/-- An exchange gives the next reply and leaves the network after one request. -/
theorem exchange_eq : n.exchange r = (n.replyAt 0, n.after [r]) := by
  refine Prod.ext ?_ rfl
  rw [exchange, replyAt, ← List.head?_eq_getElem?]
  cases n.replies.head?.getD n.later <;> rfl

/-- A request does not change what is replied once the replies run out. -/
theorem later_after_singleton : (n.after [r]).later = n.later := by
  show (n.exchange r).2.later = n.later
  rw [exchange]
  cases n.replies.head?.getD n.later <;> rfl

/-- A request uses up one reply, if one is left. -/
theorem replies_after_singleton : (n.after [r]).replies = n.replies.tail := by
  show (n.exchange r).2.replies = n.replies.tail
  rw [exchange]
  cases n.replies.head?.getD n.later <;> rfl

/-- A request takes one reply, whatever it asks. -/
@[simp] theorem replyAt_after_singleton (i : Nat) :
    (n.after [r]).replyAt i = n.replyAt (i + 1) := by
  rw [replyAt, replyAt, later_after_singleton, replies_after_singleton, List.getElem?_tail]

/-- Requests take as many replies as they are. -/
theorem replyAt_after (i : Nat) : (n.after rs).replyAt i = n.replyAt (rs.length + i) := by
  induction rs generalizing n with
  | nil => simp
  | cons r rs ih =>
    rw [after_cons, ih, replyAt_after_singleton, List.length_cons]
    congr 1
    omega

/-- After one request, the next reply is asked for a position further on. -/
@[simp] theorem grants_after_singleton (accepts : Request → Reply → Bool) (i : Nat)
    (r' : Request) : (n.after [r]).grants accepts i r' = n.grants accepts (i + 1) r' := by
  rw [grants, grants, replyAt_after_singleton]

/-- After some requests, replies are asked for as many positions further on. -/
theorem grants_after (accepts : Request → Reply → Bool) (i : Nat) (r' : Request) :
    (n.after rs).grants accepts i r' = n.grants accepts (rs.length + i) r' := by
  rw [grants, grants, replyAt_after]

variable {n r rs}

/-- What grants a request is a reply. -/
theorem exists_of_grants {accepts : Request → Reply → Bool} {i : Nat}
    (h : n.grants accepts i r = true) :
    ∃ reply, n.replyAt i = some reply ∧ accepts r reply = true := by
  rw [grants] at h
  cases hreply : n.replyAt i with
  | none => simp [hreply] at h
  | some reply => exact ⟨reply, rfl, by simpa [hreply] using h⟩

/-- A request that succeeds was replied to. -/
theorem exists_of_succeeds {i : Nat} (h : n.succeeds i = true) :
    ∃ reply, n.replyAt i = some reply ∧ reply.isSuccess = true := by
  have hgrants : n.grants (fun _ reply => reply.isSuccess) i default = true := h
  exact exists_of_grants hgrants

/-- A request that is granted was replied to. -/
theorem isSome_of_grants {accepts : Request → Reply → Bool} {i : Nat}
    (h : n.grants accepts i r = true) : (n.replyAt i).isSome = true := by
  obtain ⟨reply, hreply, -⟩ := exists_of_grants h
  rw [hreply]
  rfl

/-- A request that is replied to is one that has reached the service. -/
theorem requests_after_singleton (h : (n.replyAt 0).isSome = true) :
    (n.after [r]).requests = n.requests ++ [r] := by
  rw [replyAt, ← List.head?_eq_getElem?] at h
  obtain ⟨reply, hreply⟩ := Option.isSome_iff_exists.1 h
  show (n.exchange r).2.sent.reverse = n.sent.reverse ++ [r]
  rw [exchange, hreply]
  exact List.reverse_cons

/-- A request without a reply has not reached a service. -/
theorem requests_after_singleton_of_none (h : n.replyAt 0 = none) :
    (n.after [r]).requests = n.requests := by
  rw [replyAt, ← List.head?_eq_getElem?] at h
  show (n.exchange r).2.sent.reverse = n.sent.reverse
  rw [exchange, h]

/-- The requests that reach a service are among those that are sent. -/
theorem exists_requests_after (n : Network) (sent : List Request) :
    ∃ got, (n.after sent).requests = n.requests ++ got ∧ ∀ r ∈ got, r ∈ sent := by
  induction sent generalizing n with
  | nil => exact ⟨[], (List.append_nil _).symm, nofun⟩
  | cons r rest ih =>
    obtain ⟨got, hgot, hamong⟩ := ih (n.after [r])
    rw [after_cons, hgot]
    cases hreply : n.replyAt 0 with
    | none =>
      rw [requests_after_singleton_of_none hreply]
      exact ⟨got, rfl, fun r' hr' => List.mem_cons_of_mem _ (hamong r' hr')⟩
    | some reply =>
      rw [requests_after_singleton (by rw [hreply]; rfl), List.append_assoc]
      refine ⟨r :: got, rfl, fun r' hr' => ?_⟩
      rcases List.mem_cons.1 hr' with rfl | hr'
      · exact List.mem_cons_self
      · exact List.mem_cons_of_mem _ (hamong r' hr')

/-- Requests that are replied to have reached a service. -/
theorem requests_after (h : ∀ i < rs.length, (n.replyAt i).isSome = true) :
    (n.after rs).requests = n.requests ++ rs := by
  induction rs generalizing n with
  | nil => simp
  | cons r rs ih =>
    have hfirst := h 0 (by simp)
    have hrest : ∀ i < rs.length, ((n.after [r]).replyAt i).isSome = true := by
      intro i hi
      rw [replyAt_after_singleton]
      exact h (i + 1) (by simpa using hi)
    rw [after_cons, ih hrest, requests_after_singleton hfirst, List.append_assoc]
    rfl

/-- All of some requests are granted, each by the reply at its position. -/
def GrantsAll (n : Network) (accepts : Request → Reply → Bool) (rs : List Request) : Prop :=
  ∀ i r, rs[i]? = some r → n.grants accepts i r = true

variable {accepts : Request → Reply → Bool}

/-- Requests that are all granted have all reached the service, in order. -/
theorem GrantsAll.requests_after (h : n.GrantsAll accepts rs) :
    (n.after rs).requests = n.requests ++ rs :=
  Network.requests_after fun i hi => isSome_of_grants (h i rs[i] (List.getElem?_eq_getElem hi))

/-- If requests are all granted, those behind the first one are after the first one was sent. -/
theorem GrantsAll.tail (h : n.GrantsAll accepts (r :: rs)) :
    (n.after [r]).GrantsAll accepts rs := by
  intro i r' hr'
  rw [grants_after_singleton]
  exact h (i + 1) r' hr'

end Network

/-! ### Tasks step by step -/

namespace Exchanging

variable {ε α β : Type} {m : Exchanging ε α} {f : α → Exchanging ε β} {n n' : Network}

/-- A task goes on after a step that succeeds, from the network that the step leaves. -/
theorem bind_ok {a : α} (h : m n = (.ok a, n')) : (m >>= f) n = f a n' := by
  show ExceptT.bindCont f (m n).1 (m n).2 = _
  rw [h]
  rfl

/-- A step that fails ends the task. -/
theorem bind_error {e : ε} (h : m n = (.error e, n')) : (m >>= f) n = (.error e, n') := by
  show ExceptT.bindCont f (m n).1 (m n).2 = _
  rw [h]
  rfl

/-- A task that only answers sends nothing. -/
theorem pure_run (a : α) : (pure a : Exchanging ε α) n = (.ok a, n) := rfl

/-- A task that only fails sends nothing. -/
theorem throw_run (e : ε) : (throw e : Exchanging ε α) n = (.error e, n) := rfl

/-- What a task with a handler comes to. -/
theorem catch_run (m : Exchanging ε α) (handle : ε → Exchanging ε α) (n : Network) :
    (tryCatch m handle : Exchanging ε α) n = match m n with
      | (.ok a, n') => (.ok a, n')
      | (.error e, n') => handle e n' := by
  show (match (m n).1 with
    | .ok a => (pure (.ok a) : StateM Network (Except ε α))
    | .error e => handle e) (m n).2 = _
  cases m n with
  | mk x n' => cases x <;> rfl

/-- An answer that needs no request. -/
theorem lift_run (x : Except ε α) : (liftM x : Exchanging ε α) n = (x, n) := rfl

/-- To ask is to send one request and to take the next reply, or its absence. -/
theorem ask_run (r : Request) (n : Network) :
    (ask r : Exchanging ε _) n = (.ok (n.replyAt 0), n.after [r]) := by
  rw [ask, Network.exchange_eq]

/-! ### What a task may send -/

/-- Whatever comes of a task, all requests that it sends have a property. -/
def Sends (P : Request → Prop) (m : Exchanging ε α) : Prop :=
  ∀ n, ∃ sent, (m n).2 = n.after sent ∧ ∀ r ∈ sent, P r

variable {P : Request → Prop}

/-- An answer sends nothing, so what it sends has any property. -/
theorem sends_pure (a : α) : Sends P (pure a : Exchanging ε α) :=
  fun _ => ⟨[], rfl, nofun⟩

/-- A failure sends nothing, so what it sends has any property. -/
theorem sends_throw (e : ε) : Sends P (throw e : Exchanging ε α) :=
  fun _ => ⟨[], rfl, nofun⟩

/-- An outcome that needs no request sends nothing, so what it sends has any property. -/
theorem sends_lift (x : Except ε α) : Sends P (liftM x : Exchanging ε α) :=
  fun _ => ⟨[], rfl, nofun⟩

/-- A task of two steps sends what the steps send. -/
theorem Sends.bind (hm : Sends P m) (hf : ∀ a, Sends P (f a)) : Sends P (m >>= f) := by
  intro n
  obtain ⟨sent, hsent, hall⟩ := hm n
  cases hrun : m n with
  | mk x n' =>
    rw [hrun] at hsent
    subst hsent
    cases x with
    | error e => exact ⟨sent, by rw [bind_error hrun], hall⟩
    | ok a =>
      obtain ⟨sent', hsent', hall'⟩ := hf a (n.after sent)
      refine ⟨sent ++ sent', by rw [bind_ok hrun, hsent', Network.after_append], fun r hr => ?_⟩
      exact (List.mem_append.1 hr).elim (hall r) (hall' r)

/-- It does not matter for what a task sends whether its answer is used. -/
theorem Sends.discard (hm : Sends P m) : Sends P (discard m : Exchanging ε Unit) :=
  hm.bind fun _ => sends_pure ()

/-- A handler may send more. -/
theorem Sends.catch {handle : ε → Exchanging ε α} (hm : Sends P m)
    (hhandle : ∀ e, Sends P (handle e)) :
    Sends P (tryCatch m handle : Exchanging ε α) := by
  intro n
  obtain ⟨sent, hsent, hall⟩ := hm n
  rw [catch_run]
  cases hrun : m n with
  | mk x n' =>
    rw [hrun] at hsent
    subst hsent
    cases x with
    | ok a => exact ⟨sent, rfl, hall⟩
    | error e =>
      obtain ⟨sent', hsent', hall'⟩ := hhandle e (n.after sent)
      refine ⟨sent ++ sent', by rw [hsent', Network.after_append], fun r hr => ?_⟩
      exact (List.mem_append.1 hr).elim (hall r) (hall' r)

/-! ### Requests until one fails -/

/-- Hands requests to a task one after another. The first that fails ends this. -/
def relay (deliver : Request → Exchanging ε Unit) : List Request → Exchanging ε Unit
  | [] => pure ()
  | r :: rs => do
    deliver r
    relay deliver rs

variable {deliver : Request → Exchanging ε Unit} {r : Request} {rs : List Request}

/-- Requests that follow others are handed over if none of those failed. -/
theorem relay_append (rs rs' : List Request) (n : Network) :
    relay deliver (rs ++ rs') n = match relay deliver rs n with
      | (.ok (), n') => relay deliver rs' n'
      | (.error e, n') => (.error e, n') := by
  induction rs generalizing n with
  | nil => rfl
  | cons r rs ih =>
    rw [List.cons_append, relay, relay]
    cases hr : deliver r n with
    | mk x n' =>
      cases x with
      | ok u => rw [bind_ok hr, bind_ok hr, ih]
      | error e => rw [bind_error hr, bind_error hr]

/-- Handing over one request is delivering it. -/
theorem relay_singleton (n : Network) : relay deliver [r] n = deliver r n := by
  rw [relay]
  cases hr : deliver r n with
  | mk x n' =>
    cases x with
    | ok u => exact bind_ok hr
    | error e => exact bind_error hr

/-- Requests none of which fails are all handed over. What is known of the network after any first
few of them carries over from each to the next. -/
theorem relay_of_delivered {m : List Request → Network} (h : ∀ i r, rs[i]? = some r →
      deliver r (m (rs.take i)) = (.ok (), m (rs.take i ++ [r]))) :
    relay deliver rs (m []) = (.ok (), m rs) := by
  induction rs using List.reverseRecOn with
  | nil => rfl
  | append_singleton rs r ih =>
    have hfirst : relay deliver rs (m []) = (.ok (), m rs) := ih fun i r' hr' => by
      have hi : i < rs.length := (List.getElem?_eq_some_iff.1 hr').1
      have hstep := h i r' ((List.getElem?_append_left hi).trans hr')
      rwa [List.take_append_of_le_length (Nat.le_of_lt hi)] at hstep
    have hlast := h rs.length r List.getElem?_concat_length
    rw [List.take_left' rfl] at hlast
    rw [relay_append, hfirst]
    exact (relay_singleton _).trans hlast

/-- What comes after the first request that fails is never handed over. -/
theorem relay_of_failed {k : Nat} {m : Network} {e : ε} (hr : rs[k]? = some r)
    (hbefore : relay deliver (rs.take k) n = (.ok (), m))
    (hfails : deliver r m = (.error e, n')) : relay deliver rs n = (.error e, n') := by
  obtain ⟨hk, rfl⟩ := List.getElem?_eq_some_iff.1 hr
  have hsplit : rs = rs.take k ++ rs[k] :: rs.drop (k + 1) := by
    rw [← List.drop_eq_getElem_cons hk, List.take_append_drop]
  rw [hsplit, relay_append, hbefore]
  dsimp only
  rw [relay, bind_error hfails]

end Exchanging

/-! ### Replies that lead elsewhere -/

namespace Redirects

variable {ε : Type} (c : Redirects) {r : Request} {n : Network}

/-- What following a request comes to, by its first reply: it ends there, or it goes on to another
address while hops are left. -/
theorem follow_run (hops : Nat) (r : Request) (n : Network) :
    c.follow hops r n = match n.replyAt 0 with
      | none => (.silence, n.after [r])
      | some reply =>
        match c.turn r reply, hops with
        | .stay, _ => (.reply reply, n.after [r])
        | .fail reason, _ => (.failure reason, n.after [r])
        | .follow _, 0 => (.failure (c.exhausted r), n.after [r])
        | .follow next, hops + 1 => c.follow hops next (n.after [r]) := by
  rw [follow, Network.exchange_eq]
  cases n.replyAt 0 <;> rfl

/-- What comes of a request in the end. -/
def outcome (n : Network) (r : Request) : Delivery := (c.follow c.limit r n).1

/-- The network after requests were sent in order, each with those that follow it. -/
def run (n : Network) (rs : List Request) : Network :=
  rs.foldl (fun n r => (c.follow c.limit r n).2) n

/-- Whether a request comes to a reply of success. -/
def succeeds (n : Network) (r : Request) : Bool :=
  match c.outcome n r with
  | .reply reply => reply.isSuccess
  | _ => false

/-- All of some requests succeed, each after those in front of it. -/
def SucceedsAll (n : Network) (rs : List Request) : Prop :=
  ∀ i r, rs[i]? = some r → c.succeeds (c.run n (rs.take i)) r = true

variable {c} in
/-- Where all of some requests succeed, so do those in front. -/
theorem SucceedsAll.left {rs rs' : List Request} (h : c.SucceedsAll n (rs ++ rs')) :
    c.SucceedsAll n rs := by
  intro i r hr
  have hi : i < rs.length := (List.getElem?_eq_some_iff.1 hr).1
  have hsucceeds := h i r (by rw [List.getElem?_append_left hi]; exact hr)
  rwa [List.take_append_of_le_length (Nat.le_of_lt hi)] at hsucceeds

/-- Delivering a request gives the outcome at the end of its redirections, with all requests on the
way sent. -/
theorem deliver_run : (c.deliver r : Exchanging ε _) n = (.ok (c.outcome n r), c.run n [r]) :=
  rfl

/-- Requests are delivered one after the other, each with its redirections. -/
theorem run_append (n : Network) (rs rs' : List Request) :
    c.run n (rs ++ rs') = c.run (c.run n rs) rs' :=
  List.foldl_append

/-- A request whose reply leads nowhere is all that is sent. -/
theorem follow_of_stay {reply : Reply} (hops : Nat) (hreply : n.replyAt 0 = some reply)
    (hstay : c.turn r reply = .stay) : c.follow hops r n = (.reply reply, n.after [r]) := by
  rw [follow_run, hreply]
  dsimp only
  rw [hstay]

/-- Where a request leads depends on the replies alone, and not on what was sent before. -/
theorem follow_congr {n' : Network} (hops : Nat) (r : Request)
    (h : ∀ i, n'.replyAt i = n.replyAt i) : (c.follow hops r n').1 = (c.follow hops r n).1 := by
  induction hops generalizing r n n' with
  | zero =>
    rw [follow_run, follow_run, h 0]
    cases n.replyAt 0 with
    | none => rfl
    | some reply =>
      dsimp only
      cases c.turn r reply <;> rfl
  | succ hops ih =>
    rw [follow_run, follow_run, h 0]
    cases n.replyAt 0 with
    | none => rfl
    | some reply =>
      dsimp only
      cases c.turn r reply with
      | stay => rfl
      | fail reason => rfl
      | follow next =>
        -- After one request both networks have the same replies to come.
        refine ih next fun i => ?_
        rw [Network.replyAt_after_singleton, Network.replyAt_after_singleton, h]

/-- What comes of a request depends on the next reply only, unless that leads elsewhere. -/
theorem outcome_congr {n' : Network} (r : Request) (h : n'.RepliesAs n) :
    c.outcome n' r = c.outcome n r := by
  obtain ⟨hfirst, hrest⟩ := h
  cases hreply : n.replyAt 0 with
  | none =>
    rw [hreply] at hfirst
    rw [outcome, outcome, follow_run, follow_run, hfirst, hreply]
  | some reply =>
    rw [hreply] at hfirst hrest
    cases hleads : reply.leadsOn with
    | true => exact c.follow_congr _ r (hrest hleads)
    | false =>
      have hstay := c.stays r reply hleads
      rw [outcome, outcome, c.follow_of_stay _ hfirst hstay, c.follow_of_stay _ hreply hstay]

/-- Where no reply leads elsewhere only the requests themselves are sent. -/
theorem run_of_stay {rs : List Request} (h : ∀ i r reply, rs[i]? = some r →
      n.replyAt i = some reply → c.turn r reply = .stay) : c.run n rs = n.after rs := by
  induction rs generalizing n with
  | nil => rfl
  | cons r rs ih =>
    have hfirst : (c.follow c.limit r n).2 = n.after [r] := by
      cases hreply : n.replyAt 0 with
      | none => rw [follow_run, hreply]
      | some reply => rw [c.follow_of_stay _ hreply (h 0 r reply rfl hreply)]
    show c.run (c.follow c.limit r n).2 rs = (n.after [r]).after rs
    rw [hfirst]
    refine ih fun i r' reply hr' hreply => h (i + 1) r' reply hr' ?_
    rwa [Network.replyAt_after_singleton] at hreply

/-- Replies of success lead nowhere, so requests that are granted by such replies succeed and are
all that is sent. -/
theorem succeedsAll_of_grantsAll {rs : List Request}
    (h : n.GrantsAll (fun _ reply => reply.isSuccess) rs) :
    c.SucceedsAll n rs ∧ c.run n rs = n.after rs := by
  have hrun (i : Nat) : c.run n (rs.take i) = n.after (rs.take i) := by
    refine c.run_of_stay fun j r reply hr hreply => ?_
    have hj : j < i := by
      have hlength := (List.getElem?_eq_some_iff.1 hr).1
      exact Nat.lt_of_lt_of_le hlength (List.length_take_le i rs)
    rw [List.getElem?_take_of_lt hj] at hr
    -- A reply of success leads nowhere, so no request is added.
    refine c.stays r reply (Reply.leadsOn_of_isSuccess ?_)
    have hgrants := h j r hr
    rwa [Network.grants, hreply] at hgrants
  refine ⟨fun i r hr => ?_, by simpa using hrun rs.length⟩
  have hi : i < rs.length := (List.getElem?_eq_some_iff.1 hr).1
  obtain ⟨reply, hreply, hsuccess⟩ := Network.exists_of_grants (h i r hr)
  have hnext : (n.after (rs.take i)).replyAt 0 = some reply := by
    rw [Network.replyAt_after, List.length_take_of_le (Nat.le_of_lt hi)]
    exact hreply
  rw [hrun, succeeds, outcome, c.follow_of_stay _ hnext
    (c.stays r reply (Reply.leadsOn_of_isSuccess hsuccess))]
  exact hsuccess

/-- A property of headers that may be missing, or name the place that a request comes from, is kept
by the requests that follow. -/
theorem sends_deliver {P : String × String → Prop} (hreferer : ∀ h, h.1 = "referer" → P h)
    (hr : ∀ h ∈ r.headers, P h) :
    Exchanging.Sends (fun r => ∀ h ∈ r.headers, P h) (c.deliver r : Exchanging ε _) := by
  intro n
  show ∃ sent, (c.follow c.limit r n).2 = n.after sent ∧ _
  -- The induction is on how many requests may still follow.
  generalize c.limit = hops
  induction hops generalizing r n with
  | zero =>
    refine ⟨[r], ?_, by simpa using hr⟩
    rw [follow_run]
    cases n.replyAt 0 with
    | none => rfl
    | some reply =>
      dsimp only
      cases c.turn r reply <;> rfl
  | succ hops ih =>
    rw [follow_run]
    cases n.replyAt 0 with
    | none => exact ⟨[r], rfl, by simpa using hr⟩
    | some reply =>
      dsimp only
      cases hturn : c.turn r reply with
      | stay => exact ⟨[r], rfl, by simpa using hr⟩
      | fail reason => exact ⟨[r], rfl, by simpa using hr⟩
      | follow next =>
        have hnext : ∀ h ∈ next.headers, P h := fun h hh =>
          (c.headers_of_follow r reply next hturn h hh).elim (hr h) (hreferer h)
        obtain ⟨sent, hsent, hall⟩ := ih hnext (n.after [r])
        refine ⟨r :: sent, ?_, fun r' hr' => ?_⟩
        · exact hsent
        · rcases List.mem_cons.1 hr' with rfl | hr'
          · exact hr
          · exact hall r' hr'

end Redirects

end Fleet.Http
