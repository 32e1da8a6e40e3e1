import Skygear.Core.Go

/-!
# The session resolution middleware (`pkg/auth/dependency/auth/session_middleware.go`)

`Middleware.Handle` wraps every request of the auth gear. It asks its resolvers, cookie first
and header second, for the request's session (`resolveSession`); on a session it loads the
owning user record and records the access (`resolve`); and it hands the request on to the next
handler carrying one of the three outcomes of spec §4.4 — authenticated, invalid, anonymous —
or panics.

The model keeps the code's shape: `resolveSessionOver` is the `for ... range` loop with its
`isInvalid` flag, over whatever slice of resolvers it is given, nil interface values included;
`resolveSession` is that loop over the two fields of `Middleware`; `resolve` and `handle` are
the two functions above it. Every call the code makes to a collaborator is a `Call` in the
run, so the properties about *which* collaborators run, and in which order, are statements
about `Run.calls`.

`db.ReadOnly` is not under `src/`; it is `readOnly` below, modelled from the spec.

The results are the resolution protocol of §4.4, over every list of resolvers and every
answer, and the middleware's contract, over every answer of the resolvers and the two stores.
-/

set_option autoImplicit false

namespace Skygear
namespace Auth

/-! ## 1. Data -/

/-- Connection metadata of one access (spec §3, `AccessEvent`). Only the fields the
    middleware moves around are kept. -/
structure AccessEvent where
  timestamp : Nat
  userAgent : String
  deriving DecidableEq, Repr

/-- The session as the middleware reads it: `AuthnAttrs().UserID` and
    `GetAccessInfo().LastAccess`. -/
structure AuthSession where
  id : String
  userID : String
  lastAccess : AccessEvent
  deriving DecidableEq, Repr

/-- The user record `AuthInfoStore.GetAuth` fills in. -/
structure AuthInfo where
  id : String
  deriving DecidableEq, Repr

/-- What `authn.WithAuthn` and `authn.WithInvalidAuthn` attach to a request's context.
    `authenticated` carries the session and the user record with the instant `ToUserInfo`
    renders it at. -/
inductive Authn where
  | invalid
  | authenticated (s : AuthSession) (u : AuthInfo) (now : Nat)
  deriving DecidableEq, Repr

/-- A request: the headers (cookie and bearer token among them) the resolvers read, and the
    authn values its context carries, the newest first. `context.WithValue` always makes a new
    context, so attaching a value never gives back the request it started from. -/
structure Request where
  header : List (String × String)
  context : List Authn
  deriving DecidableEq, Repr

/-- `r.WithContext(authn.With...(r.Context(), ...))`. -/
def Request.withAuthn (r : Request) (a : Authn) : Request :=
  { r with context := a :: r.context }

/-- What `Resolve(rw, r)` returns: Go's pair `(AuthSession, error)`, either half possibly nil. -/
structure Resolved where
  session : Option AuthSession
  err : Option Error
  deriving DecidableEq, Repr

/-- A `SessionResolver`: its answer for each request. -/
structure SessionResolver where
  resolve : Request → Resolved

/-- `ErrInvalidSession`, "provided session is invalid". -/
def ErrInvalidSession : Error := .sentinel "provided session is invalid"

/-- The collaborators of `Middleware` that `Handle` reaches, as the answers they give.
    A resolver field may hold a nil interface value. -/
structure Middleware where
  IDPSessionResolver : Option SessionResolver
  AccessTokenSessionResolver : Option SessionResolver
  /-- `AccessEvents.RecordAccess(session, event)`. -/
  recordAccess : AuthSession → AccessEvent → Option Error
  /-- `AuthInfoStore.GetAuth(userID, &user)`. -/
  getAuth : String → Except Error AuthInfo
  /-- `Time.NowUTC()`. -/
  now : Nat

/-- The calls `Handle` makes to its collaborators. -/
inductive Call where
  /-- `Resolve` on the resolver at this position of the loop. -/
  | resolve (i : Nat)
  | getAuth (userID : String)
  | recordAccess (s : AuthSession) (event : AccessEvent)
  /-- `next.ServeHTTP(rw, r)`. -/
  | serve (r : Request)
  deriving DecidableEq, Repr

namespace Call

def isResolve : Call → Bool
  | .resolve _ => true
  | _ => false

def isServe : Call → Bool
  | .serve _ => true
  | _ => false

def isRecordAccess : Call → Bool
  | .recordAccess _ _ => true
  | _ => false

end Call

@[simp] theorem Request.withAuthn_inj (r : Request) (a b : Authn) :
    r.withAuthn a = r.withAuthn b ↔ a = b := by
  simp [Request.withAuthn]

@[simp] theorem Request.withAuthn_ne (r : Request) (a : Authn) : r.withAuthn a ≠ r := by
  intro h
  simpa [Request.withAuthn] using congrArg (·.context.length) h

@[simp] theorem Request.ne_withAuthn (r : Request) (a : Authn) : r ≠ r.withAuthn a :=
  (Request.withAuthn_ne r a).symm

/-! ## 2. The code -/

/-- The loop of `resolveSession` from position `i` on, with its `isInvalid` flag. A nil
    resolver is a method call through a nil interface. -/
def resolveSessionFrom (r : Request) :
    Bool → Nat → List (Option SessionResolver) → Run Call Resolved
  | isInvalid, _, [] =>
    pure (if isInvalid then ⟨none, some ErrInvalidSession⟩ else ⟨none, none⟩)
  | _, _, none :: _ => Run.panic .nilDereference
  | isInvalid, i, some resolver :: rest => do
    Run.call (.resolve i)
    let ⟨session, err⟩ := resolver.resolve r
    if isErr err ErrInvalidSession then
      -- Continue to attempt resolving session, even if one of the resolver reported invalid.
      resolveSessionFrom r true (i + 1) rest
    else match err with
      | some e => pure ⟨none, some e⟩
      | none => match session with
        | some s => pure ⟨some s, none⟩
        | none => resolveSessionFrom r isInvalid (i + 1) rest

/-- `resolveSession`'s loop over a slice of resolvers. -/
def resolveSessionOver (r : Request) (resolvers : List (Option SessionResolver)) :
    Run Call Resolved :=
  resolveSessionFrom r false 0 resolvers

/-- `Middleware.resolveSession`: the IDP session in the cookie takes priority over the access
    token in the header. -/
def resolveSession (m : Middleware) (r : Request) : Run Call Resolved :=
  resolveSessionOver r [m.IDPSessionResolver, m.AccessTokenSessionResolver]

/-- Modelled from the spec: `db.ReadOnly` is not under `src/`. §5 and §6 describe it as the
    read-scoped transaction wrapper `WithReadOnlyTx(fn)` around resolution; it returns what
    its closure returns. -/
def readOnly {α : Type} (fn : Run Call α) : Run Call α := fn

/-- `Middleware.resolve`: the session, the user record, and the error of the closure run by
    `db.ReadOnly`. -/
def resolve (m : Middleware) (r : Request) :
    Run Call (Option AuthSession × Option AuthInfo × Option Error) :=
  readOnly do
    let ⟨session, err⟩ ← resolveSession m r
    match err, session with
    | some e, _ => pure (session, none, some e)
    -- No session credentials provided, return no error and no resolved session
    | none, none => pure (none, none, none)
    | none, some s => do
      Run.call (.getAuth s.userID)
      match m.getAuth s.userID with
      | .error e => pure (some s, none, some e)
      | .ok user => do
        Run.call (.recordAccess s s.lastAccess)
        pure (some s, some user, m.recordAccess s s.lastAccess)

/-- The handler `Middleware.Handle(next)` returns, on one request. -/
def handle (m : Middleware) (r : Request) : Run Call Unit := do
  let (s, u, err) ← resolve m r
  if isErr err ErrInvalidSession then
    Run.call (.serve (r.withAuthn .invalid))
  else match err, s, u with
    | some e, _, _ => Run.panic (.error e)
    -- s is nil: no session credentials provided
    | none, none, _ => Run.call (.serve r)
    | none, some _, none => Run.panic .nilDereference
    | none, some s, some u => Run.call (.serve (r.withAuthn (.authenticated s u m.now)))


/-! ## 3. The loop, step by step

`stops` says which answers end the loop: a session with no error, or an error other than
`ErrInvalidSession`. Every other answer — nothing, or `ErrInvalidSession` — lets it go on, and
the second only sets the flag. The two step lemmas are all the later proofs unfold. -/

namespace Resolved

/-- The answer ends the loop: a session with no error, or an error other than
    `ErrInvalidSession`. -/
def stops (a : Resolved) : Bool :=
  match a.err with
  | some e => !e.is ErrInvalidSession
  | none => a.session.isSome

/-- The answer reports `ErrInvalidSession`. -/
def reportsInvalid (a : Resolved) : Bool := isErr a.err ErrInvalidSession

/-- What the loop returns when this answer stops it. -/
def outcome (a : Resolved) : Resolved :=
  match a.err with
  | some e => ⟨none, some e⟩
  | none => ⟨a.session, none⟩

end Resolved

/-- What the loop returns when no resolver stops it. -/
def exhausted (isInvalid : Bool) : Resolved :=
  if isInvalid then ⟨none, some ErrInvalidSession⟩ else ⟨none, none⟩

/-- The calls to the resolvers at positions `i, i+1, …, i+n-1`. -/
def invoked (i n : Nat) : List Call := (List.range' i n).map Call.resolve

variable {r : Request} {flag : Bool} {i : Nat} {a : SessionResolver}
  {rest : List (Option SessionResolver)}

theorem resolveSessionFrom_stop (h : (a.resolve r).stops = true) :
    resolveSessionFrom r flag i (some a :: rest) = ⟨[.resolve i], .ok (a.resolve r).outcome⟩ := by
  rcases hr : a.resolve r with ⟨session, err⟩
  simp only [resolveSessionFrom, hr]
  rw [hr] at h
  cases err with
  | none => cases session <;> simp_all [Resolved.stops, Resolved.outcome]
  | some e => simp_all [Resolved.stops, Resolved.outcome]

theorem resolveSessionFrom_continue (h : (a.resolve r).stops = false) :
    resolveSessionFrom r flag i (some a :: rest) =
      ⟨.resolve i ::
          (resolveSessionFrom r (flag || (a.resolve r).reportsInvalid) (i + 1) rest).calls,
        (resolveSessionFrom r (flag || (a.resolve r).reportsInvalid) (i + 1) rest).result⟩ := by
  rcases hr : a.resolve r with ⟨session, err⟩
  simp only [resolveSessionFrom, hr]
  rw [hr] at h
  cases err with
  | none => cases session <;> simp_all [Resolved.stops, Resolved.reportsInvalid]
  | some e => simp_all [Resolved.stops, Resolved.reportsInvalid]


/-- The loop from position `i` with flag `flag`, over present resolvers: either some resolver
    stops it, and every one before it did not, or none does. -/
theorem resolveSessionFrom_spec (r : Request) :
    ∀ (rs : List SessionResolver) (flag : Bool) (i : Nat),
      (∃ pre a post, rs = pre ++ a :: post ∧ (∀ p ∈ pre, (p.resolve r).stops = false) ∧
          (a.resolve r).stops = true ∧
          resolveSessionFrom r flag i (rs.map some) =
            ⟨invoked i (pre.length + 1), .ok (a.resolve r).outcome⟩) ∨
      ((∀ p ∈ rs, (p.resolve r).stops = false) ∧
          resolveSessionFrom r flag i (rs.map some) =
            ⟨invoked i rs.length,
              .ok (exhausted (flag || rs.any fun p => (p.resolve r).reportsInvalid))⟩)
  | [], flag, i => .inr ⟨by simp, by simp [resolveSessionFrom, exhausted, invoked]⟩
  | a :: rest, flag, i => by
    cases hs : (a.resolve r).stops
    · rw [List.map_cons, resolveSessionFrom_continue hs]
      rcases resolveSessionFrom_spec r rest (flag || (a.resolve r).reportsInvalid) (i + 1) with
        ⟨pre, b, post, rfl, hpre, hb, hrun⟩ | ⟨hall, hrun⟩
      · refine .inl ⟨a :: pre, b, post, rfl, ?_, hb, ?_⟩
        · simpa [hs] using hpre
        · rw [hrun]; simp [invoked, List.range'_succ]
      · refine .inr ⟨?_, ?_⟩
        · simpa [hs] using hall
        · rw [hrun]; simp [invoked, List.range'_succ, Bool.or_assoc]
    · exact .inl ⟨[], a, rest, rfl, by simp, hs, by simp [resolveSessionFrom_stop hs, invoked]⟩

/-- The resolution protocol of §4.4, for every list of resolvers and every answer: the
    resolvers are asked in order; the first whose answer stops the loop decides — its session
    with a nil error, or its error — and no resolver after it is asked; when none stops it,
    the result is `ErrInvalidSession` if any of them reported it, and nothing otherwise. -/
theorem resolveSessionOver_protocol (r : Request) (rs : List SessionResolver) :
    (∃ pre a post, rs = pre ++ a :: post ∧ (∀ p ∈ pre, (p.resolve r).stops = false) ∧
        (a.resolve r).stops = true ∧
        resolveSessionOver r (rs.map some) =
          ⟨(List.range (pre.length + 1)).map Call.resolve, .ok (a.resolve r).outcome⟩) ∨
    ((∀ p ∈ rs, (p.resolve r).stops = false) ∧
        resolveSessionOver r (rs.map some) =
          ⟨(List.range rs.length).map Call.resolve,
            .ok (if rs.any (fun p => (p.resolve r).reportsInvalid) then
                ⟨none, some ErrInvalidSession⟩
              else ⟨none, none⟩)⟩) := by
  simpa [resolveSessionOver, invoked, exhausted, List.range_eq_range'] using
    resolveSessionFrom_spec r rs false 0



/-! ## 4. The shapes the loop ends in -/

/-- The ways the loop can end. -/
inductive Returned : Except Panic Resolved → Prop
  /-- A nil resolver was called. -/
  | nilResolver : Returned (.error .nilDereference)
  | session (s : AuthSession) : Returned (.ok ⟨some s, none⟩)
  | invalid : Returned (.ok ⟨none, some ErrInvalidSession⟩)
  /-- An error other than `ErrInvalidSession`, handed on as it came. -/
  | fatal (e : Error) (h : e.is ErrInvalidSession = false) : Returned (.ok ⟨none, some e⟩)
  | anonymous : Returned (.ok ⟨none, none⟩)

theorem returned_outcome {a : Resolved} (h : a.stops = true) : Returned (.ok a.outcome) := by
  rcases a with ⟨session, _ | e⟩
  · cases session <;> simp_all [Resolved.stops, Resolved.outcome, Returned.session]
  · simp only [Resolved.stops, Bool.not_eq_true'] at h
    exact .fatal e h

theorem returned_exhausted (flag : Bool) : Returned (.ok (exhausted flag)) := by
  cases flag
  · exact .anonymous
  · exact .invalid

/-- Whatever the resolvers, the loop calls nothing but resolvers and ends in one of the shapes
    of `Returned`. -/
theorem resolveSessionFrom_shape (r : Request) :
    ∀ (rs : List (Option SessionResolver)) (flag : Bool) (i : Nat),
      (∀ c ∈ (resolveSessionFrom r flag i rs).calls, c.isResolve = true) ∧
      Returned (resolveSessionFrom r flag i rs).result
  | [], flag, _ => ⟨by simp [resolveSessionFrom], returned_exhausted flag⟩
  | none :: _, _, _ => ⟨by simp [resolveSessionFrom], .nilResolver⟩
  | some a :: rest, flag, i => by
    cases hs : (a.resolve r).stops
    · rw [resolveSessionFrom_continue hs]
      obtain ⟨hc, hr⟩ :=
        resolveSessionFrom_shape r rest (flag || (a.resolve r).reportsInvalid) (i + 1)
      exact ⟨by simpa [Call.isResolve] using hc, hr⟩
    · rw [resolveSessionFrom_stop hs]
      exact ⟨by simp [Call.isResolve], returned_outcome hs⟩

theorem resolveSession_shape (m : Middleware) (r : Request) :
    (∀ c ∈ (resolveSession m r).calls, c.isResolve = true) ∧ Returned (resolveSession m r).result :=
  resolveSessionFrom_shape r _ false 0


/-! ## 5. `Handle`

One lemma per way `Handle` can go, given what resolution returned; the contract is then a case
analysis over `Returned`. -/

section Handle

variable {m : Middleware} {r : Request} {calls : List Call}

theorem handle_of_panic {p : Panic} (h : resolveSession m r = ⟨calls, .error p⟩) :
    handle m r = ⟨calls, .error p⟩ := by
  simp [handle, resolve, readOnly, h]

theorem handle_of_invalid (h : resolveSession m r = ⟨calls, .ok ⟨none, some ErrInvalidSession⟩⟩) :
    handle m r = ⟨calls ++ [.serve (r.withAuthn .invalid)], .ok ()⟩ := by
  simp [handle, resolve, readOnly, h]

theorem handle_of_fatal {e : Error} (h : resolveSession m r = ⟨calls, .ok ⟨none, some e⟩⟩)
    (he : e.is ErrInvalidSession = false) : handle m r = ⟨calls, .error (.error e)⟩ := by
  simp [handle, resolve, readOnly, h, he]

theorem handle_of_anonymous (h : resolveSession m r = ⟨calls, .ok ⟨none, none⟩⟩) :
    handle m r = ⟨calls ++ [.serve r], .ok ()⟩ := by
  simp [handle, resolve, readOnly, h]

variable {s : AuthSession} (h : resolveSession m r = ⟨calls, .ok ⟨some s, none⟩⟩)
include h

theorem handle_of_getAuth_error {e : Error} (hg : m.getAuth s.userID = .error e)
    (he : e.is ErrInvalidSession = false) :
    handle m r = ⟨calls ++ [.getAuth s.userID], .error (.error e)⟩ := by
  simp [handle, resolve, readOnly, h, hg, he]

theorem handle_of_recordAccess_error {u : AuthInfo} {e : Error} (hg : m.getAuth s.userID = .ok u)
    (hr : m.recordAccess s s.lastAccess = some e) (he : e.is ErrInvalidSession = false) :
    handle m r =
      ⟨calls ++ [.getAuth s.userID, .recordAccess s s.lastAccess], .error (.error e)⟩ := by
  simp [handle, resolve, readOnly, h, hg, hr, he]

theorem handle_of_authenticated {u : AuthInfo} (hg : m.getAuth s.userID = .ok u)
    (hr : m.recordAccess s s.lastAccess = none) :
    handle m r = ⟨calls ++ [.getAuth s.userID, .recordAccess s s.lastAccess,
      .serve (r.withAuthn (.authenticated s u m.now))], .ok ()⟩ := by
  simp [handle, resolve, readOnly, h, hg, hr]

end Handle


section Calls

variable {calls : List Call} (hc : ∀ c ∈ calls, c.isResolve = true)
include hc

theorem not_mem_of_resolves (c : Call) (h : c.isResolve = false) : c ∉ calls :=
  fun hm => by simp [hc c hm] at h

theorem countP_of_resolves {p : Call → Bool} (hp : ∀ c, c.isResolve = true → p c = false) :
    calls.countP p = 0 :=
  List.countP_eq_zero.mpr fun c hm => by simp [hp c (hc c hm)]

end Calls

/-- Resolution produced session `s`, the user store loaded `u` for its user ID, and the
    access was recorded. -/
def Authenticated (m : Middleware) (r : Request) (s : AuthSession) (u : AuthInfo) : Prop :=
  (resolveSession m r).result = .ok ⟨some s, none⟩ ∧ m.getAuth s.userID = .ok u ∧
    m.recordAccess s s.lastAccess = none

/-- The contract of `Handle` on one request: the tri-state outcome of §4.4 under the
    propagation policy of §7. The next handler runs exactly once — with the authenticated
    context iff the session was resolved, its user loaded and its access recorded; with the
    invalid marker iff resolution ended in `ErrInvalidSession`; with the request as it came iff
    there were no credentials — and never otherwise. `RecordAccess` runs at most once, and only
    for a resolved session whose user record was loaded before it. -/
def HandleContract (m : Middleware) (r : Request) : Prop :=
  let run := handle m r
  let res := (resolveSession m r).result
  (run.calls.countP Call.isServe = 1 ↔
      (∃ s u, Authenticated m r s u) ∨ res = .ok ⟨none, some ErrInvalidSession⟩ ∨
        res = .ok ⟨none, none⟩) ∧
  run.calls.countP Call.isServe ≤ 1 ∧
  (∀ s u, .serve (r.withAuthn (.authenticated s u m.now)) ∈ run.calls ↔ Authenticated m r s u) ∧
  (.serve (r.withAuthn .invalid) ∈ run.calls ↔ res = .ok ⟨none, some ErrInvalidSession⟩) ∧
  (.serve r ∈ run.calls ↔ res = .ok ⟨none, none⟩) ∧
  run.calls.countP Call.isRecordAccess ≤ 1 ∧
  (∀ s ev, .recordAccess s ev ∈ run.calls →
    ev = s.lastAccess ∧ res = .ok ⟨some s, none⟩ ∧ (∃ u, m.getAuth s.userID = .ok u) ∧
    ∃ pre post, run.calls = pre ++ .recordAccess s ev :: post ∧ .getAuth s.userID ∈ pre)

/-- `Handle` keeps its contract for every answer of the resolvers and of the two stores, as
    long as the stores' errors are not `ErrInvalidSession` (which `Handle` would read as an
    invalid credential). -/
theorem handle_contract (m : Middleware) (r : Request)
    (hauth : ∀ uid e, m.getAuth uid = .error e → e.is ErrInvalidSession = false)
    (hrec : ∀ s ev e, m.recordAccess s ev = some e → e.is ErrInvalidSession = false) :
    HandleContract m r := by
  simp only [HandleContract, Authenticated]
  obtain ⟨hc, hret⟩ := resolveSession_shape m r
  rcases hrs : resolveSession m r with ⟨calls, res⟩
  simp only [hrs] at hc hret ⊢
  have hs := not_mem_of_resolves hc
  have hserve : calls.countP Call.isServe = 0 :=
    countP_of_resolves hc fun c h => by cases c <;> first | rfl | cases h
  have hrecord : calls.countP Call.isRecordAccess = 0 :=
    countP_of_resolves hc fun c h => by cases c <;> first | rfl | cases h
  cases hret with
  | nilResolver => simp [handle_of_panic hrs, hserve, hrecord, hs, Call.isResolve]
  | invalid =>
    simp [handle_of_invalid hrs, hserve, hrecord, hs, Call.isResolve, Call.isServe,
      Call.isRecordAccess]
  | fatal e he =>
    have hne : e ≠ ErrInvalidSession := by rintro rfl; simp at he
    simp [handle_of_fatal hrs he, hserve, hrecord, hs, Call.isResolve, hne]
  | anonymous =>
    simp [handle_of_anonymous hrs, hserve, hrecord, hs, Call.isResolve, Call.isServe,
      Call.isRecordAccess]
  | session s =>
    rcases hg : m.getAuth s.userID with e | u
    · simp [handle_of_getAuth_error hrs hg (hauth _ _ hg), hserve, hrecord, hs, Call.isResolve,
        Call.isServe, Call.isRecordAccess, hg]
      rintro _ _ rfl
      simp [hg]
    have hpre : ∀ post, ∃ pre, (∃ post', calls ++ .getAuth s.userID :: .recordAccess s s.lastAccess
        :: post = pre ++ .recordAccess s s.lastAccess :: post') ∧ .getAuth s.userID ∈ pre :=
      fun post => ⟨calls ++ [.getAuth s.userID], ⟨post, by simp⟩, by simp⟩
    rcases hr : m.recordAccess s s.lastAccess with _ | e
    · simp [handle_of_authenticated hrs hg hr, hserve, hrecord, hs, Call.isResolve,
        Call.isServe, Call.isRecordAccess, hg, hr]
      refine ⟨fun s' u' => ⟨?_, ?_⟩, hpre _⟩
      · rintro ⟨rfl, rfl⟩
        simp [hg, hr]
      · rintro ⟨rfl, h, -⟩
        simp_all
    · simp [handle_of_recordAccess_error hrs hg hr (hrec _ _ _ hr), hserve, hrecord, hs,
        Call.isResolve, Call.isServe, Call.isRecordAccess, hg, hr]
      refine ⟨?_, hpre []⟩
      rintro _ _ rfl
      simp [hr]

/-- A middleware whose stores always answer, with two resolvers that find nothing. -/
theorem handle_contract_reliable_stores :
    let m : Middleware := ⟨some ⟨fun _ => ⟨none, none⟩⟩, some ⟨fun _ => ⟨none, none⟩⟩,
      fun _ _ => none, fun _ => .ok ⟨""⟩, 0⟩
    (∀ uid e, m.getAuth uid = .error e → e.is ErrInvalidSession = false) ∧
    (∀ s ev e, m.recordAccess s ev = some e → e.is ErrInvalidSession = false) ∧
    HandleContract m ⟨[], []⟩ :=
  have hauth : ∀ uid e, (Except.ok ⟨""⟩ : Except Error AuthInfo) = .error e →
      e.is ErrInvalidSession = false := by simp
  have hrec : ∀ (s : AuthSession) (ev : AccessEvent) e, (none : Option Error) = some e →
      e.is ErrInvalidSession = false := by simp
  ⟨hauth, hrec, handle_contract _ _ hauth hrec⟩

end Auth
end Skygear
