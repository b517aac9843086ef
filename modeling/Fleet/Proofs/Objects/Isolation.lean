import Fleet.Objects.Service
import Fleet.Proofs.Table.Lookup

/-!
# `Fleet.Proofs.Objects.Isolation`: which tenants have objects apart

The key of an object is the tenant, a slash and the path. Tenants and paths are texts of any
kind, slashes included, so a key can be read in several ways: the tenant "house" keeps its
object "annex/lamp" where the tenant "house/annex" keeps its object "lamp". That is the only way
for two tenants to meet. `TenantId.Below` says when one name lies below another, and
`objectKey_ne_iff` that two tenants have all their keys apart exactly when neither lies below the
other. Names without a slash are never below each other (`not_below_of_no_slash`).

What a tenant does to an object storage stays at the keys of that tenant
(`get?_after`), so tenants with keys apart do not see each other's objects
(`objects_apart_of_not_below`).
-/

set_option autoImplicit false

namespace Fleet

open Fleet.Text Fleet.Time

/-! ### Keys -/

/-- A tenant lies below another one if its name begins with the other name and a slash. -/
def TenantId.Below (upper lower : TenantId) : Prop :=
  upper.toList ++ ['/'] <+: lower.toList

instance (upper lower : TenantId) : Decidable (TenantId.Below upper lower) :=
  inferInstanceAs (Decidable (_ <+: _))

/-- A name without a slash lies below no other. -/
theorem TenantId.not_below_of_no_slash {upper lower : TenantId} (h : '/' ∉ lower.toList) :
    ¬ TenantId.Below upper lower := by
  rintro ⟨rest, hrest⟩
  apply h
  rw [← hrest]
  simp

/-- Two texts, each in front of a slash, begin the same text only if they are equal or one of
them goes on from the other with a slash. -/
theorem prefix_of_append_slash_eq {a b p q : List Char}
    (h : a ++ '/' :: p = b ++ '/' :: q) :
    a = b ∨ a ++ ['/'] <+: b ∨ b ++ ['/'] <+: a := by
  rcases List.append_eq_append_iff.1 h with ⟨mid, rfl, hmid⟩ | ⟨mid, rfl, hmid⟩
  · cases mid with
    | nil => exact .inl (List.append_nil a).symm
    | cons c mid =>
      obtain ⟨rfl, -⟩ := List.cons.inj hmid
      exact .inr (.inl ⟨mid, by simp⟩)
  · cases mid with
    | nil => exact .inl (List.append_nil b)
    | cons c mid =>
      obtain ⟨rfl, -⟩ := List.cons.inj hmid
      exact .inr (.inr ⟨mid, by simp⟩)

namespace Context

variable {ctx other : Context} {t u : TenantId}

/-- A tenant with a name that is not blank stands in front of the path, with a slash between. -/
theorem toList_objectKey (ht : ctx.tenant = some t) (hblank : isBlankText t = false)
    (path : String) : (ctx.objectKey path).toList = t.toList ++ '/' :: path.toList := by
  simp [objectKey, ht, hblank]

/-- A tenant below another one has an object where the other one has it, too. -/
theorem exists_objectKey_eq (ht : ctx.tenant = some t) (hu : other.tenant = some u)
    (hblank : isBlankText t = false) (hblank' : isBlankText u = false)
    (hbelow : TenantId.Below t u) :
    ∃ path path', ctx.objectKey path = other.objectKey path' := by
  obtain ⟨rest, hrest⟩ := hbelow
  refine ⟨String.ofList (rest ++ ['/']), "", String.toList_inj.1 ?_⟩
  rw [toList_objectKey ht hblank, toList_objectKey hu hblank', ← hrest]
  simp

/-- Two tenants have no key in common exactly when neither lies below the other. -/
theorem objectKey_ne_iff (ht : ctx.tenant = some t) (hu : other.tenant = some u)
    (hblank : isBlankText t = false) (hblank' : isBlankText u = false) (hne : t ≠ u) :
    (∀ path path', ctx.objectKey path ≠ other.objectKey path')
      ↔ ¬ TenantId.Below t u ∧ ¬ TenantId.Below u t := by
  constructor
  · intro hkeys
    constructor
    · intro hbelow
      obtain ⟨path, path', hkey⟩ := exists_objectKey_eq ht hu hblank hblank' hbelow
      exact hkeys path path' hkey
    · intro hbelow
      obtain ⟨path', path, hkey⟩ := exists_objectKey_eq hu ht hblank' hblank hbelow
      exact hkeys path path' hkey.symm
  · rintro ⟨hbelow, hbelow'⟩ path path' hkey
    have hlists := congrArg String.toList hkey
    rw [toList_objectKey ht hblank, toList_objectKey hu hblank'] at hlists
    rcases prefix_of_append_slash_eq hlists with heq | hprefix | hprefix
    · exact hne (String.toList_inj.1 heq)
    · exact hbelow hprefix
    · exact hbelow' hprefix

end Context

/-! ### Runs of requests -/

namespace MemoryObjects

/-- A request to the storage with who sends it and when. -/
structure Request where
  now : Instant
  ctx : Context
  call : ObjectCall

/-- The storage after requests, whatever they were answered. -/
def after (s : MemoryObjects) (requests : List Request) : MemoryObjects :=
  requests.foldl (fun s r => (s.run r.now r.ctx r.call).2) s

/-- A request leaves all keys but the one that it writes or deletes. -/
theorem get?_run (s : MemoryObjects) (now : Instant) (ctx : Context) (c : ObjectCall)
    {key : String} (hkey : ∀ path, ctx.objectKey path ≠ key) :
    (s.run now ctx c).2.objects.get? key = s.objects.get? key := by
  cases c with
  | put path payload =>
    show (s.put now ctx path payload).2.objects.get? key = _
    rw [put]
    split
    · rfl
    · simp [Table.get?_insert, hkey path]
  | delete path =>
    show (s.delete ctx path).2.objects.get? key = _
    rw [delete]
    split
    · simp [Table.get?_erase, hkey path]
    · rfl
  | healthCheck | stat | downloadLink | uploadLink | deletionLink => rfl

/-- Requests leave all keys that none of them can have. -/
theorem get?_after (s : MemoryObjects) (requests : List Request) {key : String}
    (hkey : ∀ r ∈ requests, ∀ path, r.ctx.objectKey path ≠ key) :
    (s.after requests).objects.get? key = s.objects.get? key := by
  induction requests generalizing s with
  | nil => rfl
  | cons r rest ih =>
    show ((s.run r.now r.ctx r.call).2.after rest).objects.get? key = _
    rw [ih _ fun r' hr' => hkey r' (List.mem_cons_of_mem _ hr'),
      get?_run s r.now r.ctx r.call (hkey r List.mem_cons_self)]

/-- Two tenants of different names have all their keys apart exactly when neither lies below the
other. Then nothing that one of them asks for, in any number of requests, changes what the other
sees of its objects: whether there is one at a path, its size, when it was stored, its contents. -/
theorem objects_apart_of_not_below (ctx other : Context) {t u : TenantId}
    (ht : ctx.tenant = some t) (hu : other.tenant = some u) (hblank : isBlankText t = false)
    (hblank' : isBlankText u = false) (hne : t ≠ u) :
    ((∀ path path', ctx.objectKey path ≠ other.objectKey path')
      ↔ ¬ TenantId.Below t u ∧ ¬ TenantId.Below u t) ∧
    (¬ TenantId.Below t u → ¬ TenantId.Below u t →
      ∀ (s : MemoryObjects) (requests : List Request),
        (∀ r ∈ requests, r.ctx.tenant = some t) → ∀ path,
          (s.after requests).stat other path = s.stat other path ∧
          (s.after requests).body (other.objectKey path) = s.body (other.objectKey path)) := by
  refine ⟨Context.objectKey_ne_iff ht hu hblank hblank' hne, ?_⟩
  intro hbelow hbelow' s requests hrequests path
  -- Every sender is of the first tenant, whatever else it brings along.
  have hkept : (s.after requests).objects.get? (other.objectKey path)
      = s.objects.get? (other.objectKey path) :=
    get?_after s requests fun r hr path' => (Context.objectKey_ne_iff (hrequests r hr) hu hblank
      hblank' hne).2 ⟨hbelow, hbelow'⟩ path' path
  constructor
  · simp only [stat, hkept]
  · simp only [body, hkept]

/-- A request of a tenant. -/
def memberOf (tenant : TenantId) : Context :=
  { identity := some { subject := "member", tenant := some tenant } }

/-- An object of a few bytes. -/
def sampleObject : StoredObject := ⟨"off".toUTF8, default⟩

/-- The second name begins with the first one, but not with a slash after it. -/
theorem objects_apart_of_not_below_sample :
    (memberOf "house").objectKey "hold/lamp" ≠ (memberOf "household").objectKey "lamp" ∧
    let s : MemoryObjects := ⟨Table.insert ∅ "household/lamp" sampleObject⟩
    let requests : List Request :=
      [⟨default, memberOf "house", .put "lamp" ⟨"on".toUTF8, none⟩⟩,
        ⟨default, memberOf "house", .put "hold/lamp" ⟨"on".toUTF8, none⟩⟩,
        ⟨default, memberOf "house", .delete "lamp"⟩]
    (s.after requests).body "household/lamp" = .ok "off".toUTF8 := by
  obtain ⟨hkeys, hkept⟩ := objects_apart_of_not_below (memberOf "house") (memberOf "household")
    rfl rfl (by decide) (by decide) (by decide)
  refine ⟨hkeys.2 (by decide) _ _, ?_⟩
  intro s requests
  have hsenders : ∀ r ∈ requests, r.ctx.tenant = some "house" := by
    simp [requests, memberOf, Context.tenant]
  exact (hkept (by decide) (by decide) s requests hsenders "lamp").2

/-- Tenants of different names can share keys, and then see what the other one stores: "house" puts
an object where "house/annex" looks for its own. -/
theorem nested_tenants_share_objects :
    (¬ ∀ (ctx other : Context) (t u : TenantId), ctx.tenant = some t → other.tenant = some u →
      isBlankText t = false → isBlankText u = false → t ≠ u →
      ∀ path path', ctx.objectKey path ≠ other.objectKey path') ∧
    let requests : List Request :=
      [⟨default, memberOf "house", .put "annex/lamp" ⟨"on".toUTF8, none⟩⟩]
    let annex := memberOf "house/annex"
    (({} : MemoryObjects).stat annex "lamp" = .error .notFound ∧
      (({} : MemoryObjects).after requests).stat annex "lamp"
        = .ok ⟨"house/annex/lamp", some 2, some default⟩) ∧
    (({} : MemoryObjects).body (annex.objectKey "lamp") = .error .notFound ∧
      (({} : MemoryObjects).after requests).body (annex.objectKey "lamp") = .ok "on".toUTF8) := by
  constructor
  · intro hkeys
    exact hkeys (memberOf "house") (memberOf "house/annex") "house" "house/annex" rfl rfl
      (by decide) (by decide) (by decide) "annex/lamp" "lamp" (by decide)
  · intro requests annex
    exact ⟨⟨rfl, rfl⟩, rfl, rfl⟩

end MemoryObjects

end Fleet
