import Skygear.Core.Encoding.Reflect

/-!
# Creating password principals (`principal/password/provider.go`)

`CreatePrincipalsByLoginID` makes one principal per login ID: it normalises the value, computes
its unique key, and writes the principal through `createPrincipal` — an insert into `principal`,
the marshalled claims, an insert into `provider_password`, and, when password history is on, a
record in the history store. The first step that fails ends the loop with an error.

The collaborators are parameters: the normaliser of each login ID key and the claims it derives
(`ProviderImpl`), and the database with the history store (`Store`), which answers each write
from the writes before it, so that a statement over every `Store` covers every failure of every
write. The loop is `createLoop` over one `turn` per login ID.

The normaliser's branch passes the loop's named result `err` to `errors.HandledWithMessage`
where the other branches pass the step's own error; `err` is nil there on every turn of a run,
so what the call returns after a normaliser failure is `HandledWithMessage(nil, ...)`, whatever
the normaliser reported.
-/

set_option autoImplicit false

namespace Skygear
namespace Auth
namespace Password

open Encoding

/-! ## 1. Data -/

/-- `ErrLoginIDAlreadyUsed`, declared outside `src/`. -/
def ErrLoginIDAlreadyUsed : Error := .sentinel "ErrLoginIDAlreadyUsed"

/-- `LoginID`. -/
structure LoginID where
  key : String
  value : String
  deriving DecidableEq, Repr

/-- The fields of a `Principal` that `CreatePrincipalsByLoginID` sets. -/
structure Principal where
  id : String
  userID : String
  loginIDKey : String
  loginID : String
  originalLoginID : String
  uniqueKey : String
  realm : String
  hashedPassword : String
  claimsValue : GoMap Dyn
  deriving DecidableEq

/-- `ClaimsValue`'s type, `map[string]interface{}`: `createPrincipal` marshals the claims into the
    `claims` column with it, and `scan` unmarshals them from there. -/
def claimsCodec : Codec (GoMap Dyn) := Codec.map Codec.dyn "map[string]interface {}"

/-- A write `createPrincipal` sends. -/
inductive Write where
  /-- The insert into `principal`: `id`, `provider` (password) and `user_id`. -/
  | principal (id userID : String)
  /-- The insert into `provider_password`, with the claims as `json.Marshal` wrote them. -/
  | providerPassword (principal : Principal) (claimsValueBytes : Doc)
  /-- `passwordHistoryStore.CreatePasswordHistory(userID, hashedPassword, timeNow())`. -/
  | passwordHistory (userID hashedPassword : String)

/-- The writes sent so far, each with the store's answer. -/
abbrev Log := List (Write × Option Error)

/-- The database and the password history store: the error (or nil) each write answers, given
    the writes before it, and the ID `NewPrincipal` draws after them. -/
structure Store where
  answer : Log → Write → Option Error
  newID : Log → String

/-- The parts of `providerImpl` that `CreatePrincipalsByLoginID` uses. -/
structure ProviderImpl where
  /-- `loginIDNormalizerFactory.NewNormalizer(key).Normalize(value)`. -/
  normalize : String → String → Except Error String
  /-- `NewNormalizer(key).ComputeUniqueKey(normalized)`. -/
  computeUniqueKey : String → String → Except Error String
  /-- `principal.deriveClaims(p.loginIDChecker)`, from the login ID key and the normalised
      value. -/
  deriveClaims : String → String → GoMap Dyn
  passwordHistoryEnabled : Bool

/-- `isUniqueViolated`: a `*pq.Error` with code 23505 somewhere down the `Unwrap` chain. -/
def isUniqueViolated : Error → Bool
  | .pq code => code == "23505"
  | .wrap _ cause => isUniqueViolated cause
  | _ => false

/-! ## 2. The provider's methods -/

/-- How one turn of the loop of `CreatePrincipalsByLoginID` ends: `return` with the named
    result `err`, or on to the next login ID with the principal appended. -/
inductive Turn where
  | returned (err : Option Error) (log : Log)
  | next (principal : Principal) (err : Option Error) (log : Log)

variable (st : Store) (p : ProviderImpl)

/-- One write, answered by the store and recorded. -/
def exec (w : Write) (log : Log) : Option Error × Log :=
  let ans := st.answer log w
  (ans, log ++ [(w, ans)])

/-- `savePasswordHistory`. -/
def savePasswordHistory (principal : Principal) (log : Log) : Option Error × Log :=
  if p.passwordHistoryEnabled then
    match exec st (.passwordHistory principal.userID principal.hashedPassword) log with
    | (some err, log) => (some (.wrap "failed to create password history" err), log)
    | (none, log) => (none, log)
  else (none, log)

/-- `createPrincipal`. -/
def createPrincipal (principal : Principal) (log : Log) : Option Error × Log :=
  match exec st (.principal principal.id principal.userID) log with
  | (some err, log) => (some err, log)
  | (none, log) =>
    match claimsCodec.encode principal.claimsValue with
    | .error err => (some err, log)
    | .ok claimsValueBytes =>
      match exec st (.providerPassword principal claimsValueBytes) log with
      | (some err, log) => (some err, log)
      | (none, log) => savePasswordHistory st p principal log

variable (setPassword : String → String)
  (handledWithMessage : Option Error → String → Option Error)

/-- One turn of the loop of `CreatePrincipalsByLoginID`, for `loginID`, with `err` the named
    result as the turn finds it. `setPassword` is the hash `principal.setPassword` stores, and
    `handledWithMessage` is `errors.HandledWithMessage`, which may be given a nil error. -/
def turn (authInfoID password realm : String) (err : Option Error) (loginID : LoginID)
    (log : Log) : Turn :=
  let loginIDValue := loginID.value
  match p.normalize loginID.key loginID.value with
  | .error _ => .returned (handledWithMessage err "failed to normalized login id") log
  | .ok normalizedloginIDValue =>
    match p.computeUniqueKey loginID.key normalizedloginIDValue with
    | .error e =>
      .returned (handledWithMessage (some e) "failed to compute login id unique key") log
    | .ok uniqueKey =>
      let principal : Principal :=
        { id := st.newID log, userID := authInfoID, loginIDKey := loginID.key,
          loginID := normalizedloginIDValue, originalLoginID := loginIDValue,
          uniqueKey := uniqueKey, realm := realm, hashedPassword := setPassword password,
          claimsValue := p.deriveClaims loginID.key normalizedloginIDValue }
      match createPrincipal st p principal log with
      | (some err, log) =>
        .returned
          (if isUniqueViolated err then some ErrLoginIDAlreadyUsed
           else handledWithMessage (some err) "failed to create principal") log
      | (none, log) => .next principal none log

/-- The loop of `CreatePrincipalsByLoginID`, over the login IDs left, with the named results
    `principals` and `err`. -/
def createLoop (authInfoID password realm : String) :
    List LoginID → List Principal → Option Error → Log → (List Principal × Option Error) × Log
  | [], principals, err, log => ((principals, err), log)
  | loginID :: loginIDs, principals, err, log =>
    match turn st p setPassword handledWithMessage authInfoID password realm err loginID log with
    | .returned err log => ((principals, err), log)
    | .next principal err log =>
      createLoop authInfoID password realm loginIDs (principals ++ [principal]) err log

/-- `CreatePrincipalsByLoginID`: the principals and the error it returns, and the writes sent. -/
def createPrincipalsByLoginID (authInfoID password : String) (loginIDs : List LoginID)
    (realm : String) (log : Log) : (List Principal × Option Error) × Log :=
  createLoop st p setPassword handledWithMessage authInfoID password realm loginIDs [] none log

/-! ## 3. One turn -/

/-- A principal made for a login ID: the given user ID and realm, the login ID's key, its
    normalised value as `LoginID`, and its raw value as `OriginalLoginID`. -/
structure PrincipalFor (authInfoID realm : String) (loginID : LoginID) (principal : Principal) :
    Prop where
  userID : principal.userID = authInfoID
  realm : principal.realm = realm
  loginIDKey : principal.loginIDKey = loginID.key
  normalized : p.normalize loginID.key loginID.value = .ok principal.loginID
  originalLoginID : principal.originalLoginID = loginID.value

/-- The error a turn that finds `err` nil returns, by the step that failed for `loginID`: the
    normaliser (whatever its error), the unique key, or `createPrincipal` (a unique violation, or
    another error). -/
inductive StopsWith (loginID : LoginID) : Option Error → Prop
  | normalize {e : Error} : p.normalize loginID.key loginID.value = .error e →
      StopsWith loginID (handledWithMessage none "failed to normalized login id")
  | computeUniqueKey {v : String} {e : Error} : p.normalize loginID.key loginID.value = .ok v →
      p.computeUniqueKey loginID.key v = .error e →
      StopsWith loginID (handledWithMessage (some e) "failed to compute login id unique key")
  | createPrincipal {v u : String} {e : Error} {principal : Principal} {log log' : Log} :
      p.normalize loginID.key loginID.value = .ok v → p.computeUniqueKey loginID.key v = .ok u →
      createPrincipal st p principal log = (some e, log') →
      StopsWith loginID
        (if isUniqueViolated e then some ErrLoginIDAlreadyUsed
         else handledWithMessage (some e) "failed to create principal")

variable {st p setPassword handledWithMessage}

/-- A turn that goes on leaves `err` nil and appends a principal made for its login ID. -/
theorem turn_next {authInfoID password realm : String} {err : Option Error} {loginID : LoginID}
    {log : Log} {principal : Principal} {err' : Option Error} {log' : Log}
    (h : turn st p setPassword handledWithMessage authInfoID password realm err loginID log =
      .next principal err' log') :
    err' = none ∧ PrincipalFor p authInfoID realm loginID principal := by
  unfold turn at h
  split at h
  · cases h
  · next v hv =>
    split at h
    · cases h
    · dsimp only at h
      split at h
      · cases h
      · cases h; exact ⟨rfl, rfl, rfl, rfl, hv, rfl⟩

/-- A turn that finds `err` nil and returns, returns the error of the step that failed. -/
theorem turn_returned {authInfoID password realm : String} {loginID : LoginID} {log : Log}
    {err : Option Error} {log' : Log}
    (h : turn st p setPassword handledWithMessage authInfoID password realm none loginID log =
      .returned err log') :
    StopsWith st p handledWithMessage loginID err := by
  unfold turn at h
  split at h
  · next e he => cases h; exact .normalize he
  · next v hv =>
    split at h
    · next e he => cases h; exact .computeUniqueKey hv he
    · next u hu =>
      dsimp only at h
      split at h
      · next e log'' hc => cases h; exact .createPrincipal hv hu hc
      · cases h

/-! ## 4. A whole run -/

/-- Every run, from a nil `err`: the principals made for the first `k` login IDs, in order, and
    either all login IDs done with a nil error, or the error the `k`-th login ID stopped with. -/
theorem createLoop_outcome (authInfoID password realm : String) :
    ∀ (loginIDs : List LoginID) (acc : List Principal) (log : Log),
      let r := createLoop st p setPassword handledWithMessage authInfoID password realm loginIDs
        acc none log
      ∃ principals, r.1.1 = acc ++ principals ∧
        List.Forall₂ (PrincipalFor p authInfoID realm) (loginIDs.take principals.length)
          principals ∧
        (principals.length = loginIDs.length ∧ r.1.2 = none ∨
          ∃ h : principals.length < loginIDs.length,
            StopsWith st p handledWithMessage loginIDs[principals.length] r.1.2)
  | [], acc, _ => ⟨[], by simp [createLoop]⟩
  | loginID :: loginIDs, acc, log => by
    simp only [createLoop]
    cases ht : turn st p setPassword handledWithMessage authInfoID password realm none loginID log
      with
    | returned err log' =>
      exact ⟨[], by simp, by simp, .inr ⟨by simp, turn_returned ht⟩⟩
    | next principal err log' =>
      obtain ⟨rfl, hfor⟩ := turn_next ht
      obtain ⟨principals, hr, hall, hend⟩ :=
        createLoop_outcome authInfoID password realm loginIDs (acc ++ [principal]) log'
      refine ⟨principal :: principals, by simp [hr], ?_, ?_⟩
      · simpa using List.Forall₂.cons hfor hall
      · simpa using hend

/-- What `CreatePrincipalsByLoginID` returns. -/
theorem createPrincipalsByLoginID_outcome (authInfoID password : String)
    (loginIDs : List LoginID) (realm : String) (log : Log) :
    let r := createPrincipalsByLoginID st p setPassword handledWithMessage authInfoID password
      loginIDs realm log
    List.Forall₂ (PrincipalFor p authInfoID realm) (loginIDs.take r.1.1.length) r.1.1 ∧
      (r.1.1.length = loginIDs.length ∧ r.1.2 = none ∨
        ∃ h : r.1.1.length < loginIDs.length,
          StopsWith st p handledWithMessage loginIDs[r.1.1.length] r.1.2) := by
  obtain ⟨principals, hr, hall, hend⟩ := @createLoop_outcome st p setPassword handledWithMessage
    authInfoID password realm loginIDs [] log
  simp only [List.nil_append] at hr
  simp only [createPrincipalsByLoginID, hr]
  exact ⟨hall, hend⟩

/-- After the returned principals, a login ID whose normaliser fails makes the call return
    `HandledWithMessage(nil, ...)`: the loop's nil `err` is wrapped, not the normaliser's
    error. -/
theorem createPrincipalsByLoginID_normalize_failure (authInfoID password : String)
    (loginIDs : List LoginID) (realm : String) (log : Log) (e : Error) :
    let r := createPrincipalsByLoginID st p setPassword handledWithMessage authInfoID password
      loginIDs realm log
    ∀ h : r.1.1.length < loginIDs.length,
      p.normalize loginIDs[r.1.1.length].key loginIDs[r.1.1.length].value = .error e →
        r.1.2 = handledWithMessage none "failed to normalized login id" := by
  intro r h he
  obtain ⟨-, hend⟩ := @createPrincipalsByLoginID_outcome st p setPassword handledWithMessage
    authInfoID password loginIDs realm log
  rcases hend with ⟨hlen, -⟩ | ⟨_, hstop⟩
  · exact absurd hlen (Nat.ne_of_lt h)
  · generalize r.1.2 = err at hstop ⊢
    cases hstop with
    | normalize => rfl
    | computeUniqueKey hv => rw [hv] at he; cases he
    | createPrincipal hv => rw [hv] at he; cases he

/-- With a `HandledWithMessage` that keeps a nil error nil, a login ID the normaliser rejects
    makes the call report success with no principal. -/
theorem createPrincipalsByLoginID_normalize_failure_reports_success :
    let st : Store := ⟨fun _ _ => none, fun _ => "principal-id"⟩
    let p : ProviderImpl :=
      ⟨fun _ _ => .error (.new "invalid login ID"), fun _ v => .ok v, fun _ _ => GoMap.empty, false⟩
    let handledWithMessage : Option Error → String → Option Error := fun err _ => err
    let loginIDs : List LoginID := [⟨"email", "not an email"⟩]
    let r :=
      createPrincipalsByLoginID st p id handledWithMessage "user" "secret" loginIDs "default" []
    r.1.1.length < loginIDs.length ∧ r.1.2 = none := by
  intro st p handledWithMessage loginIDs r
  have h : r.1.1.length < loginIDs.length := by decide
  exact ⟨h, createPrincipalsByLoginID_normalize_failure "user" "secret" loginIDs "default" []
    (.new "invalid login ID") h rfl⟩

end Password
end Auth
end Skygear
