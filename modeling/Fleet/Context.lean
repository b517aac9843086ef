import Fleet.Settings

/-!
# `Fleet.Context`: who asks

A request may carry an identity, which may belong to a tenant, and storage settings. Tenants
share one store and one object storage. Store contents are divided by `Context.partition`;
objects by the front part of their keys, which is the tenant's name as it stands.
-/

set_option autoImplicit false

namespace Fleet

open Fleet.Text

abbrev TenantId := String

/-- A caller. -/
structure Identity where
  subject : String
  tenant : Option TenantId := none
deriving DecidableEq, Repr, Inhabited

/-- What a request carries besides its arguments. -/
structure Context where
  identity : Option Identity := none
  /-- Storage for this request, in place of the default. -/
  settings : Option StorageSettings := none
deriving DecidableEq, Inhabited

namespace Context

def tenant (ctx : Context) : Option TenantId := ctx.identity.bind (·.tenant)

/-- The part of the store that the request works on. No tenant and the empty tenant share
one part. -/
def partition (ctx : Context) : TenantId := ctx.tenant.getD ""

/-- The key of an object, with the tenant in front unless there is none or it is blank. -/
def objectKey (ctx : Context) (path : String) : String :=
  match ctx.tenant with
  | some t => if isBlankText t then path else t ++ "/" ++ path
  | none => path

end Context

end Fleet
