import Skygear.Core.GoMap
import Skygear.Core.Db.Context

/-!
# The web app's login and identity settings handlers (`package webapp`)

`LoginHandler.ServeHTTP` and `SettingsIdentityHandler.ServeHTTP` share one shape: parse the
form (a failure is answered with a 500), then run, inside `db.WithTx`, a `do` that picks a
method of the handler's provider by the request's method and form, calls it, and writes the
response the provider hands back — `writeResponse(err)` — before returning `err`. The error
`WithTx` returns is dropped.

The provider's methods are Go code that runs on the transaction container and returns an error
or nil: they are `Db.Body`s, so that "every outcome of the provider call" is a quantifier over
bodies, and the driver is a `Db.Driver`. The response that `writeResponse(err)` writes is the
provider's; the model records which method's callback wrote it and for which error.

The result is about the order of the writes and the transaction: the response is written
inside the `do`, before `EndTx` commits, so what the handlers write does not depend on the
commit at all; and when `BeginTx` fails the `do` never runs and nothing is written.
-/

set_option autoImplicit false

namespace Skygear
namespace Auth
namespace WebApp

open Db

/-! ## 1. Data -/

/-- The parts of an `*http.Request` the handlers read: the method, the form `ParseForm` fills
    (`url.Values`), and the error `ParseForm` returns. -/
structure HTTPRequest where
  method : String
  form : GoMap (List String)
  parseForm : Option Error

/-- `url.Values.Get`: the first value of the key, or `""`. -/
def valuesGet (v : GoMap (List String)) (key : String) : String :=
  match v.get? key with
  | some (value :: _) => value
  | _ => ""

/-- A response the handlers write to their `http.ResponseWriter`. -/
inductive Response where
  /-- `http.Error(w, text, code)`. -/
  | httpError (text : String) (code : Nat)
  /-- `http.Error(w, err.Error(), code)`. -/
  | httpErrorOf (err : Error) (code : Nat)
  /-- `writeResponse(err)`: the response the callback returned by the provider's `method` writes
      for the method's error `err`. -/
  | provided (method : String) (err : Option Error)
  deriving DecidableEq, Repr

/-- `loginProvider`: each method's run on the transaction container, for the request. -/
structure LoginProvider where
  getEnterLoginIDForm : HTTPRequest → Body
  enterLoginID : HTTPRequest → Body
  chooseIdentityProvider : HTTPRequest → Body

/-- `LoginHandler`: its provider, and its OAuth provider, of which `ServeHTTP` only checks that
    it is set. -/
structure LoginHandler where
  provider : LoginProvider
  oauthProvider : Option Unit

/-- `settingsIdentityProvider`. -/
structure SettingsIdentityProvider where
  getSettingsIdentity : HTTPRequest → Body
  linkIdentityProvider : HTTPRequest → String → Body
  unlinkIdentityProvider : HTTPRequest → String → Body
  addOrChangeLoginID : HTTPRequest → Body

/-- `SettingsIdentityHandler`: its provider. -/
structure SettingsIdentityHandler where
  provider : SettingsIdentityProvider

/-! ## 2. `ServeHTTP` -/

variable (drv : Driver)

/-- `writeResponse, err := method(w, r); writeResponse(err); return err`, inside the `do`. -/
def callProvider (method : String) (body : Body) (s : DbState) :
    Except Panic ((Option Error × List Response) × DbState) :=
  match body.run drv s with
  | .error p => .error p
  | .ok (err, s') => .ok ((err, [.provided method err]), s')

/-- The `do` that `LoginHandler.ServeHTTP` passes to `db.WithTx`. -/
def LoginHandler.withinTx (h : LoginHandler) (r : HTTPRequest) (s : DbState) :
    Except Panic ((Option Error × List Response) × DbState) :=
  if r.method = "GET" then
    callProvider drv "GetEnterLoginIDForm" (h.provider.getEnterLoginIDForm r) s
  else if r.method = "POST" then
    if valuesGet r.form "x_idp_id" ≠ "" then
      match h.oauthProvider with
      | none => .ok ((some (.new "oauth provider not found"), [.httpError "Not found" 404]), s)
      | some _ =>
        callProvider drv "ChooseIdentityProvider" (h.provider.chooseIdentityProvider r) s
    else callProvider drv "EnterLoginID" (h.provider.enterLoginID r) s
  else .ok ((none, []), s)

/-- The `do` that `SettingsIdentityHandler.ServeHTTP` passes to `db.WithTx`. -/
def SettingsIdentityHandler.withinTx (h : SettingsIdentityHandler) (r : HTTPRequest)
    (s : DbState) : Except Panic ((Option Error × List Response) × DbState) :=
  if r.method = "GET" then
    callProvider drv "GetSettingsIdentity" (h.provider.getSettingsIdentity r) s
  else if r.method = "POST" then
    if valuesGet r.form "x_action" = "link" then
      callProvider drv "LinkIdentityProvider"
        (h.provider.linkIdentityProvider r (valuesGet r.form "x_idp_id")) s
    else if valuesGet r.form "x_action" = "unlink" then
      callProvider drv "UnlinkIdentityProvider"
        (h.provider.unlinkIdentityProvider r (valuesGet r.form "x_idp_id")) s
    else if valuesGet r.form "x_action" = "login_id" then
      callProvider drv "AddOrChangeLoginID" (h.provider.addOrChangeLoginID r) s
    else .ok ((none, []), s)
  else .ok ((none, []), s)

/-- The `ServeHTTP` both handlers share, for the handler's `do`: the responses written, and the
    container afterwards. -/
def serveHTTPWith (withinTx : DbState → Except Panic ((Option Error × List Response) × DbState))
    (r : HTTPRequest) (s : DbState) : Except Panic (List Response × DbState) :=
  match r.parseForm with
  | some err => .ok ([.httpErrorOf err 500], s)
  | none =>
    match withTxWriting drv withinTx s with
    | .error p => .error p
    | .ok (_, written, s') => .ok (written, s')

/-- `LoginHandler.ServeHTTP`. -/
def LoginHandler.serveHTTP (h : LoginHandler) (r : HTTPRequest) (s : DbState) :
    Except Panic (List Response × DbState) :=
  serveHTTPWith drv (h.withinTx drv r) r s

/-- `SettingsIdentityHandler.ServeHTTP`. -/
def SettingsIdentityHandler.serveHTTP (h : SettingsIdentityHandler) (r : HTTPRequest)
    (s : DbState) : Except Panic (List Response × DbState) :=
  serveHTTPWith drv (h.withinTx drv r) r s

/-! ## 3. What the handlers write -/

variable {drv}

/-- When `BeginTx` fails, the `do` does not run and the handler writes nothing. -/
theorem serveHTTPWith_of_begin_refused
    {withinTx : DbState → Except Panic ((Option Error × List Response) × DbState)}
    {r : HTTPRequest} {s s₁ : DbState} {e : Error} (hform : r.parseForm = none)
    (hb : beginTx drv s = .ok (some e, s₁)) : serveHTTPWith drv withinTx r s = .ok ([], s₁) := by
  simp only [serveHTTPWith, withTxWriting, hform, hb]

/-- When `BeginTx` succeeds, the handler writes what the `do` wrote, whatever `EndTx` then
    does. -/
theorem serveHTTPWith_of_begin
    (withinTx : DbState → Except Panic ((Option Error × List Response) × DbState))
    {r : HTTPRequest} {s s₁ : DbState} (hform : r.parseForm = none)
    (hb : beginTx drv s = .ok (none, s₁)) :
    (serveHTTPWith drv withinTx r s).map Prod.fst = (withinTx s₁).map (·.1.2) := by
  simp only [serveHTTPWith, withTxWriting, hform, hb]
  rcases withinTx s₁ with p | ⟨⟨err, written⟩, s₂⟩ <;> rfl

/-! ## 4. The transaction does not decide what is written -/

/-- What the two handlers write does not depend on how their transaction goes: when `BeginTx`
    fails they write nothing at all, and when it succeeds they write exactly what their `do`
    wrote — the provider's response among it — whatever the driver answers to the commit or
    the rollback that follows. -/
theorem serveHTTP_writes_independent_of_tx (drv : Driver) (login : LoginHandler)
    (settings : SettingsIdentityHandler) (r : HTTPRequest) (hform : r.parseForm = none)
    (s : DbState) :
    (∀ e s₁, beginTx drv s = .ok (some e, s₁) →
      login.serveHTTP drv r s = .ok ([], s₁) ∧ settings.serveHTTP drv r s = .ok ([], s₁)) ∧
    ∀ s₁, beginTx drv s = .ok (none, s₁) →
      (login.serveHTTP drv r s).map Prod.fst = (login.withinTx drv r s₁).map (·.1.2) ∧
      (settings.serveHTTP drv r s).map Prod.fst = (settings.withinTx drv r s₁).map (·.1.2) :=
  ⟨fun _ _ hb => ⟨serveHTTPWith_of_begin_refused hform hb, serveHTTPWith_of_begin_refused hform hb⟩,
    fun _ hb => ⟨serveHTTPWith_of_begin _ hform hb, serveHTTPWith_of_begin _ hform hb⟩⟩

/-- A driver that refuses the commit: both pages are served as a success, and the transaction
    they ran in was not committed. -/
theorem serveHTTP_reports_success_on_refused_commit :
    let drv : Driver := ⟨fun _ c => if c = .commit 1 then some (.new "commit failed") else none⟩
    let login : LoginHandler := ⟨⟨fun _ => .ret none, fun _ => .ret none, fun _ => .ret none⟩, none⟩
    let settings : SettingsIdentityHandler :=
      ⟨⟨fun _ => .ret none, fun _ _ => .ret none, fun _ _ => .ret none, fun _ => .ret none⟩⟩
    let r : HTTPRequest := ⟨"GET", GoMap.empty, none⟩
    let s : DbState := ⟨none, none, []⟩
    r.parseForm = none ∧
      (login.serveHTTP drv r s).map Prod.fst = .ok [.provided "GetEnterLoginIDForm" none] ∧
      (settings.serveHTTP drv r s).map Prod.fst = .ok [.provided "GetSettingsIdentity" none] ∧
      ∃ written s', login.serveHTTP drv r s = .ok (written, s') ∧ refusedEnd s' = some 1 := by
  intro drv login settings r s
  have hb : beginTx drv s = .ok (none, ⟨some 0, some 1, [(.open, none), (.begin, none)]⟩) := rfl
  obtain ⟨hlogin, hsettings⟩ := (serveHTTP_writes_independent_of_tx drv login settings r rfl s).2 _ hb
  exact ⟨rfl, hlogin.trans rfl, hsettings.trans rfl, _, _, rfl, rfl⟩

end WebApp
end Auth
end Skygear
