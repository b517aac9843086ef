import Fleet.Azure.Account
import Fleet.Proofs.Url.Path
import Mathlib.Control.Monad.Basic

/-!
# `Fleet.Proofs.Azure.Account`: the endpoints of accounts

An account is built from its name and key or from a connection string (`Account.Built`). Either
way its endpoint is an address of the web whose path ends in a slash, with nothing behind the path
(`Account.Built.endpoint`).
-/

set_option autoImplicit false

namespace Fleet.Azure

open Fleet.Hash Fleet.Text Fleet.Url

/-- An address that a service can be asked at: of the web, with a path that ends in a slash and
nothing behind it. -/
structure IsServiceAddress (a : Url) : Prop where
  web : a.isWeb = true
  path : a.path = .segments (a.segments.dropLast ++ [""])
  noQuery : a.query = none
  noFragment : a.fragment = none

namespace Account

variable {a : Account} {url : Url}

/-- An address of the web whose path ends with a slash is one for a service, once what follows the
path is dropped. -/
theorem isServiceAddress_of_path (hweb : url.isWeb = true) {front : List String}
    (h : url.path = .segments (front ++ [""])) : IsServiceAddress url.withoutQuery where
  web := hweb
  path := by
    rw [segments, withoutQuery, h]
    exact congrArg (fun list => Path.segments (list ++ [""])) List.dropLast_concat.symm
  noQuery := rfl
  noFragment := rfl

/-- Settling an address makes it one for a service: it gets a slash behind its path, if there is
none, and loses what follows the path. -/
theorem isServiceAddress_settle (hweb : url.isWeb = true) (h : url.HasWebPath) :
    IsServiceAddress (settle url) := by
  rw [settle]
  split
  · next hclosed =>
    obtain ⟨front, hfront⟩ := h.path_of_slash hclosed
    exact isServiceAddress_of_path hweb hfront
  · obtain ⟨segments, hpath, -, hsegments⟩ := h
    have hslash : ∀ s ∈ segments ++ [""], IsSegment s.toList := fun s hs =>
      (List.mem_append.1 hs).elim (hsegments s) fun hs => by
        rw [List.mem_singleton.1 hs]
        exact isSegment_nil
    have hclosed : (url.withPath (url.path.text ++ "/")).path = .segments (segments ++ [""]) := by
      rw [withPath, hpath, Path.text, isSpecial_of_isWeb hweb, ← segmentsText_concat]
      exact congrArg Path.segments (parsePath_segmentsText (by simp) hslash)
    exact isServiceAddress_of_path hweb hclosed

/-- Whether an account was made from its name and key, or from a connection string. -/
def Built (a : Account) : Prop :=
  (∃ name key uri, ofKey name key uri = .ok a) ∨ ∃ connection, ofConnection connection = .ok a

/-- What an account is that is made from a name, a key in text form and the address of an endpoint:
nothing is lost of them but blanks around the key, and the end of the path and the query of the
address. -/
structure IsOf (a : Account) (name key endpoint : String) : Prop where
  name : a.name = name
  key : Base64.decode? (trim key) = some a.key
  endpoint : ∃ url, Url.parse? endpoint = some url ∧ url.isWeb = true ∧ a.endpoint = settle url

/-- An account is made from what it is given only. In particular its endpoint was read as an address
of the web. -/
theorem isOf_of_build {name key endpoint : String} (h : build name key endpoint = .ok a) :
    a.IsOf name key endpoint := by
  have hblank : isBlankText name = false := Bool.eq_false_iff.2 fun hblank => by
    rw [build, hblank] at h
    cases h
  obtain ⟨bytes, hbytes⟩ : ∃ bytes, Base64.decode? (trim key) = some bytes :=
    Option.ne_none_iff_exists'.1 fun hbytes => by
      rw [build, hblank, hbytes] at h
      cases h
  have hempty : bytes.isEmpty = false := Bool.eq_false_iff.2 fun hempty => by
    simp only [build, hblank, hbytes, hempty] at h
    cases h
  obtain ⟨url, hurl⟩ : ∃ url, Url.parse? endpoint = some url :=
    Option.ne_none_iff_exists'.1 fun hurl => by
      simp only [build, hblank, hbytes, hempty, hurl] at h
      cases h
  have hweb : url.isWeb = true := Bool.eq_false_imp_eq_true.1 fun hweb => by
    simp only [build, hblank, hbytes, hempty, hurl, hweb] at h
    cases h
  simp only [build, hblank, hbytes, hempty, hurl, hweb] at h
  cases h
  exact ⟨rfl, hbytes, url, hurl, hweb, rfl⟩

/-- An account with a name and a key is at the given address, or in the public cloud. -/
theorem isOf_of_ofKey {name key : String} {uri : Option String} (h : ofKey name key uri = .ok a) :
    a.IsOf name key (uri.getD (standardEndpoint "https" name publicSuffix)) :=
  isOf_of_build h

/-- A connection string names the account and its key, and says where the account is. -/
theorem isOf_of_ofConnection {connection : String} (h : ofConnection connection = .ok a) :
    ∃ name key, Attribute.accountName.value? connection = some name ∧
      Attribute.accountKey.value? connection = some key ∧
      a.IsOf name key ((Attribute.blobEndpoint.value? connection).getD
        (standardEndpoint ((Attribute.protocol.value? connection).getD "https") name
          ((Attribute.endpointSuffix.value? connection).getD publicSuffix))) := by
  rw [ofConnection] at h
  cases hname : Attribute.accountName.value? connection with
  | none => rw [hname] at h; cases h
  | some name =>
    cases hkey : Attribute.accountKey.value? connection with
    | none => rw [hname, hkey] at h; cases h
    | some key =>
      rw [hname, hkey] at h
      exact ⟨name, key, rfl, rfl, isOf_of_build h⟩

/-- The endpoint of every account is the address of a service. -/
theorem Built.endpoint (h : a.Built) : IsServiceAddress a.endpoint := by
  obtain ⟨name, key, endpoint, hof⟩ : ∃ name key endpoint, a.IsOf name key endpoint := by
    rcases h with ⟨name, key, uri, h⟩ | ⟨connection, h⟩
    · exact ⟨name, key, _, isOf_of_ofKey h⟩
    · obtain ⟨name, key, -, -, hof⟩ := isOf_of_ofConnection h
      exact ⟨name, key, _, hof⟩
  obtain ⟨url, hurl, hweb, hendpoint⟩ := hof.endpoint
  rw [hendpoint]
  exact isServiceAddress_settle hweb (hasWebPath_of_parse hurl hweb)

/-- An account in the public cloud. -/
def sample : Account where
  name := "acct"
  key := utf8Text "foobar"
  endpoint :=
    { scheme := "https"
      authority := some { host := .name "acct.blob.core.windows.net" }
      path := .segments [""] }

/-- The sample account is one that a connection or a key gives. -/
theorem built_sample : sample.Built :=
  .inl ⟨"acct", "Zm9vYmFy", none, by decide +kernel⟩

end Account

end Fleet.Azure
