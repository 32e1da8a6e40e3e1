import Skygear.Auth.Middleware

/-!
# The resolve endpoint's wiring (`wire_gen.go` of `pkg/auth/handler/session`)

`newResolveHandler` is generated by Wire. Its struct literal for `auth.Middleware` names five
fields — `IDPSessionResolver`, `AccessEvents`, `AuthInfoStore`, `TxContext`, `Time` — and so
leaves `AccessTokenSessionResolver` at its zero value, a nil interface. `resolveSession` loops
over both resolver fields. The two files are each fine alone; composed, every request whose
cookie does not decide resolution reaches a method call through the nil interface.

The providers the generated code calls (`session.ProvideSessionResolver`,
`redis2.ProvideEventStore`, `pq.ProvideStore`, `time.NewProvider`) are not under `src/`; what
they build is taken as arguments.
-/

set_option autoImplicit false

namespace Skygear
namespace Auth

/-- The middleware `newResolveHandler` assembles from what the providers built. -/
def newResolveHandler (resolver : SessionResolver)
    (recordAccess : AuthSession → AccessEvent → Option Error)
    (getAuth : String → Except Error AuthInfo) (now : Nat) : Middleware where
  IDPSessionResolver := some resolver
  AccessTokenSessionResolver := none
  recordAccess := recordAccess
  getAuth := getAuth
  now := now

/-- `provideResolveHandler`: the middleware's `Handle` around the `ResolveHandler`. -/
def provideResolveHandler (m : Middleware) (r : Request) : Run Call Unit := handle m r

/-- On every request where the cookie resolver's answer does not decide resolution — no
    session, or `ErrInvalidSession` — the assembled handler asks the cookie resolver, then
    calls `Resolve` through the nil `AccessTokenSessionResolver` and panics, and the next
    handler never runs. -/
theorem newResolveHandler_panics_unless_cookie_decides (resolver : SessionResolver)
    (recordAccess : AuthSession → AccessEvent → Option Error)
    (getAuth : String → Except Error AuthInfo) (now : Nat) (r : Request)
    (h : (resolver.resolve r).stops = false) :
    provideResolveHandler (newResolveHandler resolver recordAccess getAuth now) r =
      ⟨[.resolve 0], .error .nilDereference⟩ :=
  handle_of_panic (by
    rw [resolveSession, resolveSessionOver, newResolveHandler, resolveSessionFrom_continue h]
    simp [resolveSessionFrom])

/-- The request without credentials: the cookie resolver finds no session. -/
theorem newResolveHandler_panics_without_cookie :
    let resolver : SessionResolver := ⟨fun _ => ⟨none, none⟩⟩
    (resolver.resolve ⟨[], []⟩).stops = false ∧
    provideResolveHandler (newResolveHandler resolver (fun _ _ => none) (fun _ => .ok ⟨""⟩) 0)
      ⟨[], []⟩ = ⟨[.resolve 0], .error .nilDereference⟩ :=
  ⟨rfl, newResolveHandler_panics_unless_cookie_decides _ _ _ _ _ rfl⟩

end Auth
end Skygear
