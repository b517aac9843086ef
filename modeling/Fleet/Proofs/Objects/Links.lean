import Fleet.Objects.Service
import Fleet.Proofs.Azure.Upload

/-!
# `Fleet.Proofs.Objects.Links`: asking for a download link once more

A storage of a table and one in a bucket sign a download link on their own. A storage of blobs
first asks whether the blob is there, and refuses if it hears that it is not, but what it signs
does not depend on what it hears. `Prechecked` says this of a task: a check comes first, of the next
reply or of those that it leads to, then an answer that is the same on every network.

So whoever asks again for the same link at the same time gets the same link or an error, and
gets the link if the network replies as it did (`download_again`).
-/

set_option autoImplicit false

namespace Fleet

open Fleet.Http Fleet.Time

/-! ### Answers after a check -/

/-- What a task answers on a network: it may give up because of the replies, of which only the next
one counts unless that leads elsewhere, and otherwise answers the same on every network. -/
def Prechecked {α : Type} (task : Network → Except ObjectError α) : Prop :=
  ∃ (check : Network → Except ObjectError Unit) (answer : Except ObjectError α),
    (∀ n n', n'.RepliesAs n → check n' = check n) ∧
      ∀ n, task n = (check n).bind fun _ => answer

namespace Prechecked

variable {α β : Type} {task : Network → Except ObjectError α} {n n' : Network} {a b : α}

/-- An answer that needs no network is prechecked, as nothing is asked. -/
theorem const (answer : Except ObjectError α) : Prechecked fun _ => answer :=
  ⟨fun _ => .ok (), answer, fun _ _ _ => rfl, fun _ => rfl⟩

/-- What is made of the answer without the network is checked as well. -/
theorem bind (h : Prechecked task) (f : α → Except ObjectError β) :
    Prechecked fun n => (task n).bind f := by
  obtain ⟨check, answer, hcheck, htask⟩ := h
  refine ⟨check, answer.bind f, hcheck, fun n => ?_⟩
  dsimp only
  rw [htask]
  cases check n <;> rfl

/-- So is an answer with other words for its errors. -/
theorem mapError (h : Prechecked task) (f : ObjectError → ObjectError) :
    Prechecked fun n => (task n).mapError f := by
  obtain ⟨check, answer, hcheck, htask⟩ := h
  refine ⟨fun n => (check n).mapError f, answer.mapError f,
    fun n n' halike => congrArg (·.mapError f) (hcheck n n' halike), fun n => ?_⟩
  dsimp only
  rw [htask]
  cases check n <;> rfl

/-- Networks that reply alike are answered alike. -/
theorem congr (h : Prechecked task) (hreplies : n'.RepliesAs n) : task n' = task n := by
  obtain ⟨check, answer, hcheck, htask⟩ := h
  rw [htask, htask, hcheck n n' hreplies]

/-- Whatever networks reply, they are not given two different answers. -/
theorem unique (h : Prechecked task) (ha : task n = .ok a) (hb : task n' = .ok b) : b = a := by
  obtain ⟨check, answer, -, htask⟩ := h
  have hanswer {n : Network} {a : α} (ha : task n = .ok a) : answer = .ok a := by
    rw [htask] at ha
    cases hcheck : check n with
    | error e =>
      rw [hcheck] at ha
      cases ha
    | ok u =>
      rw [hcheck] at ha
      exact ha
  exact Except.ok.inj ((hanswer hb).symm.trans (hanswer ha))

end Prechecked

/-! ### Blobs -/

namespace Azure

variable {c : Redirects} {t : Target} {now : Instant} {key : String} {op : ObjectOp}

/-- Whether a blob is there depends on what comes of one request. -/
theorem prechecked_properties :
    Prechecked fun n => (properties c t now key op n).1.map fun _ => () := by
  cases hurl : requestUrl t now key .read with
  | error e =>
    have hrun (n : Network) : properties c t now key op n = (.error e, n) := by
      rw [properties, hurl]
      rfl
    simp only [hrun]
    exact .const _
  | ok url =>
    let head := request "HEAD" url
    have hwritable : head.headers.all isWritableHeader = true :=
      isWritable_request url "HEAD" [] .empty
    -- What the question is answered depends on the replies alone.
    refine ⟨fun n => (accepted op "failed to get blob properties" head (c.outcome n head)).map
        fun _ => (), .ok (), fun n n' hreplies => ?_, fun n => ?_⟩
    · dsimp only
      rw [c.outcome_congr head hreplies]
    have hsend := send_run c op "failed to get blob properties" hwritable n
    dsimp only
    rw [properties, hurl, Exchanging.bind_ok (Exchanging.lift_run (.ok url))]
    cases haccepted : accepted op "failed to get blob properties" head (c.outcome n head) with
    | error e =>
      rw [haccepted] at hsend
      rw [Exchanging.bind_error hsend]
      rfl
    | ok reply =>
      rw [haccepted] at hsend
      rw [Exchanging.bind_ok hsend]
      rfl

/-- How a failure to find out about a blob is reported to who asked for a link. -/
def unchecked : ObjectError → ObjectError
  | .backend _ _ detail => failure .getRequest "failed to check preconditions" detail
  | e => e

variable (path : String) (filename : Option String) (lifetime : Span)

/-- A blob is looked for first. The link does not depend on what is found. -/
theorem downloadLink_answer {s : Storage} {ctx : Context} (ht : s.target ctx .getRequest = .ok t)
    (n : Network) :
    (s.downloadLink now ctx path filename lifetime n).1
      = (((properties s.redirects t now (ctx.objectKey path) .getRequest n).1.map
          fun _ => ()).mapError unchecked).bind fun _ =>
        blobLink t now (ctx.objectKey path) .get lifetime
          (filename.map fun n => "attachment; filename=\"" ++ n ++ "\"") := by
  rw [Storage.downloadLink, ht, Exchanging.bind_ok (Exchanging.lift_run (.ok t))]
  cases hproperties : properties s.redirects t now (ctx.objectKey path) .getRequest n with
  | mk x n' =>
    cases x with
    | ok info =>
      have hdiscard : (discard (properties s.redirects t now (ctx.objectKey path) .getRequest) :
          Exchanging ObjectError Unit) n = (.ok (), n') := Exchanging.bind_ok hproperties
      refine congrArg Prod.fst (Exchanging.bind_ok (?_ : _ = (Except.ok (), n')))
      rw [Exchanging.catch_run, hdiscard]
    | error e =>
      have hdiscard : (discard (properties s.redirects t now (ctx.objectKey path) .getRequest) :
          Exchanging ObjectError Unit) n = (.error e, n') := Exchanging.bind_error hproperties
      refine congrArg Prod.fst (Exchanging.bind_error (?_ : _ = (Except.error (unchecked e), n')))
      rw [Exchanging.catch_run, hdiscard]
      cases e <;> rfl

/-- A container looks for the blob before it hands out a download link. The link itself is the same
whatever is replied. -/
theorem prechecked_downloadLink (s : Storage) (ctx : Context) :
    Prechecked fun n => (s.downloadLink now ctx path filename lifetime n).1 := by
  cases ht : s.target ctx .getRequest with
  | error e =>
    have hrun (n : Network) :
        s.downloadLink now ctx path filename lifetime n = (.error e, n) := by
      rw [Storage.downloadLink, ht]
      rfl
    simp only [hrun]
    exact .const _
  | ok t =>
    simp only [downloadLink_answer path filename lifetime ht]
    exact (prechecked_properties.mapError unchecked).bind _

end Azure

/-! ### Every storage -/

namespace Service

variable (s : Service) (now : Instant) (ctx : Context) (path : String)
  (filename : Option String) (lifetime : Span)

/-- No storage changes when it is asked for a download link. -/
theorem run_downloadLink_kept (n : Network) :
    (s.run now ctx (.downloadLink path filename lifetime) n).2.1 = s := by
  induction s with
  | memory objects => rfl
  | bucket storage => rfl
  | blobs storage => rfl
  | missing => rfl
  | switch standard s3 azure gateway ihs3 ihazure =>
    rw [run]
    cases kindFor standard ctx with
    | s3 =>
      dsimp only
      split
      · rfl
      · exact congrArg (fun s => switch standard s azure gateway) ihs3
    | azure =>
      dsimp only
      split
      · rfl
      · exact congrArg (fun s => switch standard s3 s gateway) ihazure

/-- Whether a service hands out a download link depends on what comes of one request at most, and
the link is the same whatever is replied. It is an induction on the service: a switch asks the
storage behind it. -/
theorem prechecked_downloadLink :
    Prechecked fun n => (s.run now ctx (.downloadLink path filename lifetime) n).1 := by
  induction s with
  | memory objects => exact .const _
  | bucket storage => exact .const _
  | blobs storage => exact Azure.prechecked_downloadLink path filename lifetime storage ctx
  | missing => exact .const _
  | switch standard s3 azure gateway ihs3 ihazure =>
    simp only [run]
    cases kindFor standard ctx with
    | s3 =>
      dsimp only
      cases s3.isMissing with
      | true => exact .const _
      | false => exact ihs3.bind _
    | azure =>
      dsimp only
      cases azure.isMissing with
      | true => exact .const _
      | false => exact ihazure.bind _

end Service

/-- A link that was given once is the only one that is given again, and it is given if the network
replies as it did. -/
theorem ObjectSite.download_again {o o' : ObjectSite} {now : Instant} {ctx : Context}
    {path filename : String} {lifetime : Span} {l : Link}
    (h : LinkIssuer.download now ctx path filename lifetime o = (.ok l, o')) :
    (∀ l', (LinkIssuer.download now ctx path filename lifetime o').1 = .ok l' → l' = l) ∧
    (o'.network.RepliesAs o.network →
      (LinkIssuer.download now ctx path filename lifetime o').1 = .ok l) := by
  let task := fun n : Network =>
    (o.service.run now ctx (.downloadLink path (some filename) lifetime) n).1
  have hchecked : Prechecked task :=
    o.service.prechecked_downloadLink now ctx path (some filename) lifetime
  obtain ⟨hfirst, hafter⟩ := Prod.mk.inj h
  have hservice : o'.service = o.service := by
    rw [← hafter]
    exact o.service.run_downloadLink_kept now ctx path (some filename) lifetime o.network
  have hfirst : task o.network = .ok l := hfirst
  -- The service is the one that was asked first, so only the network can make a difference.
  have hagain : (LinkIssuer.download now ctx path filename lifetime o').1 = task o'.network := by
    show (o'.service.run now ctx _ o'.network).1 = _
    rw [hservice]
  rw [hagain]
  refine ⟨fun l' hl' => hchecked.unique hfirst hl', fun hreplies => ?_⟩
  rw [hchecked.congr hreplies, hfirst]

end Fleet
