/-
Module: Horarium.Context
Purpose: The tenant and the user on whose behalf something is done. Tenant names become parts of
  schema names, so only ASCII letters, digits and the underscore may stand in them.
Trusted boundary: human-reviewed definitions
Main exports: Context, Context.isTenantChar, Context.isTenantName, Context.ofTenant,
  Context.withUser, Context.withRequest
-/
import Horarium.Timer.Error
import Horarium.Uuid
import Horarium.Json.Reader

namespace Horarium

/-- For whom something is done: the tenant, and the user and request where they are known. -/
structure Context where
  tenant : String
  user : Option Uuid
  request : Option String
deriving DecidableEq, Inhabited

namespace Context

/-- The characters of tenant names. -/
def isTenantChar (c : Char) : Bool := c.isAlphanum || c = '_'

/-- Whether a text may name a tenant. -/
def isTenantName (name : String) : Bool := !name.isEmpty && name.toList.all isTenantChar

/-- The context of a tenant, without user and request. -/
def ofTenant (name : String) : Except InputError Context :=
  if isTenantName name then .ok ⟨name, none, none⟩ else .error (.tenant name)

/-- The same context with this user. -/
def withUser (ctx : Context) (user : Option Uuid) : Context := { ctx with user }

/-- The same context with this request. -/
def withRequest (ctx : Context) (request : String) : Context := { ctx with request := some request }

/-- The written form. -/
def toJson (ctx : Context) : Json :=
  .object [("tenant", .text ctx.tenant),
    ("user_id", Json.ofOption (fun u => .text u.toText) ctx.user),
    ("request_id", Json.ofOption .text ctx.request)]

/-- Reads the written form; the tenant name is taken as it is. -/
def reader : Json.Reader Context :=
  .record [
    Json.field "tenant" .required .text fun v ctx => { ctx with tenant := v },
    Json.field "user_id" .optional (.optional (.parsed Uuid.parse?))
      fun v ctx => { ctx with user := v },
    Json.field "request_id" .optional (.optional .text) fun v ctx => { ctx with request := v }]
    default

end Context

end Horarium
