import Skygear.Auth.Password.Tables
import Skygear.Core.Encoding.Reflect

/-!
# Reading password principals back (`principal/password/provider.go`)

The provider's lookups select from the join of `principal` and `provider_password`
(`selectBuilder`) and `scan` each row: the columns into a `Principal`, and `pp.claims` through
`json.Unmarshal` into its claims. `getPrincipals` selects by login ID key, normalised login ID
and, when one is given, realm; `GetPrincipalsByLoginID` and `GetPrincipalByLoginIDWithRealm`
loop over the configured login ID keys, normalise the login ID for each key the caller asked for
(every key, for the key `""`), and gather what `getPrincipals` finds; `GetPrincipalsByUserID`
and `GetPrincipalByID` select by user ID and by principal ID.

The database is an `Executor`: the rows it answers to a query after the log, or its error.
What it ought to answer is `select`, the rows of the tables that the query's `WHERE` keeps; an
executor that answers so, in any order, is `Honest`. That is a hypothesis of the statements
that need it, not part of the model. `QueryRowWith` reads the first row, and `sql.ErrNoRows`
when there is none, as `database/sql` does; a failure while the rows are read is a shorter
list, since the loops never check `rows.Err()`.

The results: over an honest database, every principal `CreatePrincipalsByLoginID` returns is
read back, every field of it, by `GetPrincipalsByLoginID` with its key and the login ID it was
made from, and by `GetPrincipalsByUserID` with its user ID; and when the database enforces the
tables' keys, `GetPrincipalByLoginIDWithRealm` and `GetPrincipalByID` return that principal
alone.
-/

set_option autoImplicit false

namespace Skygear
namespace Auth
namespace Password

open Encoding

/-! ## 1. Queries and the database -/

/-- `principal.ErrNotFound`, declared outside `src/`. -/
def ErrNotFound : Error := .sentinel "principal.ErrNotFound"

/-- `principal.ErrMultipleResultsFound`, declared outside `src/`. -/
def ErrMultipleResultsFound : Error := .sentinel "principal.ErrMultipleResultsFound"

/-- The `WHERE` of a `selectBuilder` query. -/
inductive Query where
  /-- `pp.login_id = ? AND pp.login_id_key = ?`, and `pp.realm = ?` when a realm is given. -/
  | loginID (loginIDKey loginID : String) (realm : Option String)
  /-- `p.user_id = ?`. -/
  | userID (userID : String)
  /-- `p.id = ?`. -/
  | id (principalID : String)

/-- Whether a row satisfies the query's `WHERE`. -/
def Query.holds : Query → Row → Bool
  | .loginID key value realm, row =>
    row.loginID == value && row.loginIDKey == key && realm.all (· == row.realm)
  | .userID user, row => row.userID == user
  | .id principalID, row => row.id == principalID

/-- The rows a query selects from the tables after `log`. -/
def select (log : Log) (q : Query) : List Row :=
  (joinRows log).filter q.holds

/-- `sqlExecutor`: the rows `QueryWith` yields for a query after the writes `log`, or its
    error. -/
structure Executor where
  query : Log → Query → Except Error (List Row)

/-- An executor that answers every query after `log` with the rows the query selects, in any
    order. -/
def Executor.Honest (ex : Executor) (log : Log) : Prop :=
  ∀ q, ∃ rows, ex.query log q = .ok rows ∧ rows.Perm (select log q)

/-- The executor that answers with the rows of the tables, in the order of the join. -/
def Executor.ofTables : Executor := ⟨fun log q => .ok (select log q)⟩

theorem Executor.ofTables_honest (log : Log) : Executor.ofTables.Honest log :=
  fun _ => ⟨_, rfl, .refl _⟩

/-! ## 2. The lookups -/

/-- `scan`: the columns into a new `Principal`, then `pp.claims` into its `ClaimsValue`, which is
    nil in a new `Principal`. -/
def scan (row : Row) : Except Error Principal :=
  match claimsCodec.decode json row.claims GoMap.nil with
  | .error err => .error err
  | .ok claimsValue =>
    .ok ⟨row.id, row.userID, row.loginIDKey, row.loginID, row.originalLoginID, row.uniqueKey,
      row.realm, row.password, claimsValue⟩

/-- The `rows.Next()` loop of `getPrincipals` and `GetPrincipalsByUserID`: the principals
    scanned so far, and the first error of `scan`. -/
def scanRows : List Row → List Principal → List Principal × Option Error
  | [], principals => (principals, none)
  | row :: rows, principals =>
    match scan row with
    | .error err => (principals, some err)
    | .ok principal => scanRows rows (principals ++ [principal])

variable (ex : Executor) (p : ProviderImpl)
  (handledWithMessage : Option Error → String → Option Error)

/-- `getPrincipals`. -/
def getPrincipals (loginIDKey loginID : String) (realm : Option String) (log : Log) :
    List Principal × Option Error :=
  match ex.query log (.loginID loginIDKey loginID realm) with
  | .error err => ([], some err)
  | .ok rows => scanRows rows []

/-- `GetPrincipalsByUserID`: the principals scanned before an error are returned with it. -/
def getPrincipalsByUserID (userID : String) (log : Log) : List Principal × Option Error :=
  match ex.query log (.userID userID) with
  | .error err => ([], handledWithMessage (some err) "failed to get principal by user ID")
  | .ok rows =>
    match scanRows rows [] with
    | (principals, some err) =>
      (principals, handledWithMessage (some err) "failed to get principal by user ID")
    | (principals, none) => (principals, none)

/-- `ListPrincipalsByUserID`. -/
def listPrincipalsByUserID (userID : String) (log : Log) : Except Error (List Principal) :=
  match getPrincipalsByUserID ex handledWithMessage userID log with
  | (_, some err) => .error err
  | (principals, none) => .ok principals

/-- The loop of `GetPrincipalsByLoginID` over the configured login ID keys left, with `result`
    the principals found so far; an error returns no principal. -/
def getPrincipalsByLoginIDLoop (loginIDKey loginID : String) (log : Log) :
    List String → List Principal → List Principal × Option Error
  | [], result => (result, none)
  | key :: keys, result =>
    if loginIDKey = "" ∨ key = loginIDKey then
      match p.normalize key loginID with
      | .error e => ([], handledWithMessage (some e) "failed to normalized login id")
      | .ok normalizedloginID =>
        match getPrincipals ex key normalizedloginID none log with
        | (_, some e) => ([], handledWithMessage (some e) "failed to get principal by login ID")
        | (ps, none) => getPrincipalsByLoginIDLoop loginIDKey loginID log keys (result ++ ps)
    else getPrincipalsByLoginIDLoop loginIDKey loginID log keys result

/-- `GetPrincipalsByLoginID`, over the keys of `loginIDsKeys` in order. -/
def getPrincipalsByLoginID (loginIDsKeys : List String) (loginIDKey loginID : String)
    (log : Log) : List Principal × Option Error :=
  getPrincipalsByLoginIDLoop ex p handledWithMessage loginIDKey loginID log loginIDsKeys []

variable (validateOne : LoginID → Option Error)

/-- The loop of `GetPrincipalByLoginIDWithRealm` over the configured login ID keys left, with
    `principals` found so far, and what follows it: the error, and the principal written to
    `*pp`. A login ID `validateOne` rejects for a key is skipped (`continue`). -/
def getPrincipalByLoginIDWithRealmLoop (loginIDKey loginID realm : String) (log : Log) :
    List String → List Principal → Option Error × Option Principal
  | [], principals =>
    match principals with
    | [] => (some ErrNotFound, none)
    | [principal] => (none, some principal)
    | _ => (some ErrMultipleResultsFound, none)
  | key :: keys, principals =>
    if loginIDKey = "" ∨ key = loginIDKey then
      match validateOne ⟨key, loginID⟩ with
      | some _ => getPrincipalByLoginIDWithRealmLoop loginIDKey loginID realm log keys principals
      | none =>
        match p.normalize key loginID with
        | .error e => (handledWithMessage (some e) "failed to normalized login id", none)
        | .ok normalizedloginID =>
          match getPrincipals ex key normalizedloginID (some realm) log with
          | (_, some e) =>
            (handledWithMessage (some e) "failed to get principal by login ID & realm", none)
          | (ps, none) =>
            getPrincipalByLoginIDWithRealmLoop loginIDKey loginID realm log keys
              (principals ++ ps)
    else getPrincipalByLoginIDWithRealmLoop loginIDKey loginID realm log keys principals

/-- `GetPrincipalByLoginIDWithRealm`, over the keys of `loginIDsKeys` in order. -/
def getPrincipalByLoginIDWithRealm (loginIDsKeys : List String) (loginIDKey loginID realm : String)
    (log : Log) : Option Error × Option Principal :=
  getPrincipalByLoginIDWithRealmLoop ex p handledWithMessage validateOne loginIDKey loginID realm
    log loginIDsKeys []

/-- `GetPrincipalByID`: `QueryRowWith` and `scan` of the first row; no row is `sql.ErrNoRows`,
    which becomes `principal.ErrNotFound`. -/
def getPrincipalByID (principalID : String) (log : Log) : Option Principal × Option Error :=
  match ex.query log (.id principalID) with
  | .error err => (none, handledWithMessage (some err) "failed to get principal by ID")
  | .ok [] => (none, some ErrNotFound)
  | .ok (row :: _) =>
    match scan row with
    | .error err => (none, handledWithMessage (some err) "failed to get principal by ID")
    | .ok principal => (some principal, none)

/-! ## 3. Scanning what `createPrincipal` wrote -/

/-- Claims whose values JSON can hold. -/
def ClaimsJson (claims : GoMap Dyn) : Prop :=
  ∀ k v, claims.get? k = some v → v.isJson = true

/-- Marshalled claims decode back, when JSON can hold them. -/
theorem decode_claims {claims : GoMap Dyn} (hjson : ClaimsJson claims) {d : Doc}
    (hd : claimsCodec.encode claims = .ok d) :
    claimsCodec.decode json d GoMap.nil = .ok claims := by
  obtain ⟨d', he, hdec⟩ := @Codec.map_roundTrips Dyn Codec.dyn "map[string]interface {}" claims
    GoMap.nil (fun k h => by simp at h) fun k v h => Codec.dyn_roundTrips (hjson k v h) _
  obtain rfl := Except.ok.inj (he.symm.trans hd)
  exact hdec

/-- Marshalled claims decode, whatever they hold: `null`, or an object. -/
theorem decode_claims_ok {claims : GoMap Dyn} {d : Doc} (hd : claimsCodec.encode claims = .ok d) :
    ∃ m, claimsCodec.decode json d GoMap.nil = .ok m := by
  simp only [claimsCodec, Codec.map] at hd ⊢
  split_ifs at hd
  · cases hd
    exact ⟨_, rfl⟩
  · cases he : Codec.dyn.encodeEntries claims.entries with
    | error e => simp [he] at hd
    | ok ms =>
      obtain rfl : Doc.map ms = d := by simpa [he] using hd
      exact Codec.dyn_decodeEntries_ok json ms _

/-- A row of a `provider_password` row that holds marshalled claims scans. -/
theorem scan_rowOf_ok (userID : String) {principal : Principal} {claims : Doc}
    (hd : (Write.providerPassword principal claims).Marshalled) :
    ∃ principal', scan (Row.of userID principal claims) = .ok principal' := by
  obtain ⟨m, hm⟩ := decode_claims_ok hd
  exact ⟨{ principal with userID, claimsValue := m }, by simp [scan, Row.of, hm]⟩

/-- The row of a principal scans back to it, every field, when JSON can hold its claims. -/
theorem scan_rowOf {principal : Principal} {claims : Doc}
    (hjson : ClaimsJson principal.claimsValue)
    (hd : (Write.providerPassword principal claims).Marshalled) :
    scan (Row.of principal.userID principal claims) = .ok principal := by
  simp only [scan, Row.of, decode_claims hjson hd]

theorem scan_of_mem_joinRows {log : Log} (hm : Marshalled log) {row : Row}
    (h : row ∈ joinRows log) : ∃ principal, scan row = .ok principal := by
  obtain ⟨userID, principal, claims, -, hpp, rfl⟩ := mem_joinRows.mp h
  exact scan_rowOf_ok userID (hm _ _ hpp)

/-- The principals scanned from rows that all scan. -/
def scanAll (rows : List Row) : List Principal :=
  rows.filterMap fun row => (scan row).toOption

theorem mem_scanAll {rows : List Row} {principal : Principal} :
    principal ∈ scanAll rows ↔ ∃ row ∈ rows, scan row = .ok principal := by
  simp only [scanAll, List.mem_filterMap]
  refine exists_congr fun row => and_congr_right fun _ => ?_
  cases scan row <;> simp [Except.toOption]

theorem scanRows_of_ok {rows : List Row} (h : ∀ row ∈ rows, ∃ principal, scan row = .ok principal)
    (acc : List Principal) : scanRows rows acc = (acc ++ scanAll rows, none) := by
  induction rows generalizing acc with
  | nil => simp [scanRows, scanAll]
  | cons row rows ih =>
    obtain ⟨principal, hrow⟩ := h row (.head _)
    simp [scanRows, scanAll, hrow, Except.toOption,
      ih (fun r hr => h r (.tail _ hr)) (acc ++ [principal])]

/-! ## 4. The lookups over an honest database -/

variable {ex p handledWithMessage validateOne}

/-- Over an honest database and marshalled claims, a query's rows all scan. -/
theorem scanRows_select {log : Log} (hm : Marshalled log) {q : Query} {rows : List Row}
    (hrows : rows.Perm (select log q)) : scanRows rows [] = (scanAll rows, none) := by
  refine scanRows_of_ok (fun row hrow => scan_of_mem_joinRows hm ?_) []
  exact List.mem_of_mem_filter (hrows.subset hrow)

theorem getPrincipals_of_honest {log : Log} (hex : ex.Honest log) (hm : Marshalled log)
    (loginIDKey loginID : String) (realm : Option String) :
    ∃ rows, rows.Perm (select log (.loginID loginIDKey loginID realm)) ∧
      getPrincipals ex loginIDKey loginID realm log = (scanAll rows, none) := by
  obtain ⟨rows, hq, hrows⟩ := hex (.loginID loginIDKey loginID realm)
  exact ⟨rows, hrows, by simp only [getPrincipals, hq, scanRows_select hm hrows]⟩

theorem getPrincipalsByUserID_of_honest {log : Log} (hex : ex.Honest log) (hm : Marshalled log)
    (userID : String) :
    ∃ rows, rows.Perm (select log (.userID userID)) ∧
      getPrincipalsByUserID ex handledWithMessage userID log = (scanAll rows, none) := by
  obtain ⟨rows, hq, hrows⟩ := hex (.userID userID)
  exact ⟨rows, hrows, by simp only [getPrincipalsByUserID, hq, scanRows_select hm hrows]⟩

/-- With a key other than `""`, the loop of `GetPrincipalsByLoginID` visits the configured
    entries of that key only. -/
theorem getPrincipalsByLoginIDLoop_filter {loginIDKey : String} (hkey : loginIDKey ≠ "")
    (loginID : String) (log : Log) :
    ∀ keys result, getPrincipalsByLoginIDLoop ex p handledWithMessage loginIDKey loginID log keys
      result = getPrincipalsByLoginIDLoop ex p handledWithMessage loginIDKey loginID log
        (keys.filter (· = loginIDKey)) result
  | [], _ => rfl
  | key :: keys, result => by
    by_cases hk : key = loginIDKey
    · subst hk
      simp only [getPrincipalsByLoginIDLoop, or_true, if_true, List.filter_cons_of_pos,
        decide_True]
      split
      · rfl
      · split
        · rfl
        · exact getPrincipalsByLoginIDLoop_filter hkey loginID log keys _
    · simp only [getPrincipalsByLoginIDLoop, hkey, hk, or_self, if_false,
        List.filter_cons_of_neg, decide_eq_true_eq, not_false_eq_true]
      exact getPrincipalsByLoginIDLoop_filter hkey loginID log keys result

/-- Each entry of the key finds what `getPrincipals` finds for it. -/
theorem getPrincipalsByLoginIDLoop_replicate {loginIDKey loginID normalized : String} {log : Log}
    {ps : List Principal} (hn : p.normalize loginIDKey loginID = .ok normalized)
    (hget : getPrincipals ex loginIDKey normalized none log = (ps, none)) :
    ∀ n result, getPrincipalsByLoginIDLoop ex p handledWithMessage loginIDKey loginID log
      (List.replicate n loginIDKey) result = (result ++ (List.replicate n ps).flatten, none)
  | 0, _ => by simp [getPrincipalsByLoginIDLoop]
  | n + 1, result => by
    simp only [List.replicate_succ, getPrincipalsByLoginIDLoop, or_true, if_true, hn, hget,
      List.flatten_cons, ← List.append_assoc]
    exact getPrincipalsByLoginIDLoop_replicate hn hget n _

/-- The same two facts for `GetPrincipalByLoginIDWithRealm`'s loop. -/
theorem getPrincipalByLoginIDWithRealmLoop_filter {loginIDKey : String} (hkey : loginIDKey ≠ "")
    (loginID realm : String) (log : Log) :
    ∀ keys principals, getPrincipalByLoginIDWithRealmLoop ex p handledWithMessage validateOne
      loginIDKey loginID realm log keys principals =
        getPrincipalByLoginIDWithRealmLoop ex p handledWithMessage validateOne loginIDKey loginID
          realm log (keys.filter (· = loginIDKey)) principals
  | [], _ => rfl
  | key :: keys, principals => by
    by_cases hk : key = loginIDKey
    · subst hk
      simp only [getPrincipalByLoginIDWithRealmLoop, or_true, if_true, List.filter_cons_of_pos,
        decide_True]
      split
      · exact getPrincipalByLoginIDWithRealmLoop_filter hkey loginID realm log keys _
      · split
        · rfl
        · split
          · rfl
          · exact getPrincipalByLoginIDWithRealmLoop_filter hkey loginID realm log keys _
    · simp only [getPrincipalByLoginIDWithRealmLoop, hkey, hk, or_self, if_false,
        List.filter_cons_of_neg, decide_eq_true_eq, not_false_eq_true]
      exact getPrincipalByLoginIDWithRealmLoop_filter hkey loginID realm log keys principals

/-! ## 5. Tables with unique keys -/

/-- A `flatMap` over a list with distinct keys, whose function gives nothing away from the key
    of a member `x`, is its value at `x`. -/
theorem flatMap_eq_of_nodup {α β κ : Type} (f : α → κ) (g : α → List β) {l : List α}
    (hl : (l.map f).Nodup) {x : α} (hx : x ∈ l) (hg : ∀ y ∈ l, f y ≠ f x → g y = []) :
    l.flatMap g = g x := by
  induction l with
  | nil => cases hx
  | cons y l ih =>
    rw [List.map_cons, List.nodup_cons] at hl
    rw [List.flatMap_cons]
    rcases List.mem_cons.mp hx with rfl | hx
    · rw [List.flatMap_eq_nil_iff.mpr fun z hz =>
        hg z (.tail _ hz) fun h => hl.1 (h ▸ List.mem_map_of_mem f hz), List.append_nil]
    · rw [hg y (.head _) fun h => hl.1 (h ▸ List.mem_map_of_mem f hx), List.nil_append,
        ih hl.2 hx fun z hz => hg z (.tail _ hz)]

/-- Over `principal` rows with distinct IDs, a query that keeps the rows of the
    `provider_password` rows sharing a key `f` with a stored principal, a key no two
    `provider_password` rows share, selects that principal's row alone. -/
theorem select_eq_singleton {log : Log} (hu : ((principalTable log).map Prod.fst).Nodup)
    {κ : Type} (f : Principal → κ) (hf : ((providerPasswordTable log).map fun e => f e.1).Nodup)
    {q : Query} {principal : Principal} {userID : String} {claims : Doc}
    (hq : ∀ u pr d, q.holds (Row.of u pr d) = true ↔ f pr = f principal)
    (hp : (principal.id, userID) ∈ principalTable log)
    (hpp : (principal, claims) ∈ providerPasswordTable log) :
    select log q = [Row.of userID principal claims] := by
  simp only [select, joinRows, List.filter_flatMap]
  rw [flatMap_eq_of_nodup (fun e => f e.1) _ hf hpp fun e _ hne => ?outer,
    flatMap_eq_of_nodup Prod.fst _ hu hp fun row _ hne => ?inner]
  · simp [(hq userID principal claims).mpr rfl]
  case inner => simp [hne]
  case outer =>
    refine List.flatMap_eq_nil_iff.mpr fun row _ => ?_
    split_ifs
    · simpa using fun h => hne ((hq _ _ _).mp h)
    · rfl

theorem select_loginID_of_unique {log : Log} (hu : Unique log) {principal : Principal}
    {userID : String} {claims : Doc} (hp : (principal.id, userID) ∈ principalTable log)
    (hpp : (principal, claims) ∈ providerPasswordTable log) :
    select log (.loginID principal.loginIDKey principal.loginID (some principal.realm)) =
      [Row.of userID principal claims] :=
  select_eq_singleton hu.principalID loginIDOf hu.loginID
    (fun _ _ _ => by
      simp only [Query.holds, Row.of, loginIDOf, Bool.and_eq_true, beq_iff_eq, Option.all_some,
        Prod.mk.injEq]
      exact ⟨fun ⟨⟨h₁, h₂⟩, h₃⟩ => ⟨h₂, h₁, h₃.symm⟩, fun ⟨h₁, h₂, h₃⟩ => ⟨⟨h₂, h₁⟩, h₃.symm⟩⟩)
    hp hpp

theorem select_id_of_unique {log : Log} (hu : Unique log) {principal : Principal}
    {userID : String} {claims : Doc} (hp : (principal.id, userID) ∈ principalTable log)
    (hpp : (principal, claims) ∈ providerPasswordTable log) :
    select log (.id principal.id) = [Row.of userID principal claims] :=
  select_eq_singleton hu.principalID Principal.id hu.providerPasswordID
    (fun _ _ _ => by simp [Query.holds, Row.of]) hp hpp

/-! ## 6. What a run is read back as -/

/-- A stored principal is among what every query its row satisfies finds, when JSON can hold its
    claims. -/
theorem Stored.mem_scanAll_of_select {log : Log} {principal : Principal} (h : Stored log principal)
    (hjson : ClaimsJson principal.claimsValue) {q : Query} {rows : List Row}
    (hrows : rows.Perm (select log q)) (hq : ∀ d, q.holds (Row.of principal.userID principal d)) :
    principal ∈ scanAll rows := by
  obtain ⟨claims, hpp, hd⟩ := h.providerPasswordRow
  have hrow : Row.of principal.userID principal claims ∈ select log q :=
    List.mem_filter.mpr ⟨mem_joinRows.mpr ⟨_, _, _, h.principalRow, hpp, rfl⟩, hq claims⟩
  exact mem_scanAll.mpr ⟨_, hrows.mem_iff.mpr hrow, scan_rowOf hjson hd⟩

/-- A principal made for a login ID normalises, from its key and original login ID, to its
    login ID. -/
theorem PrincipalFor.normalize_eq {authInfoID realm : String} {loginID : LoginID}
    {principal : Principal} (h : PrincipalFor p authInfoID realm loginID principal) :
    p.normalize principal.loginIDKey principal.originalLoginID = .ok principal.loginID := by
  rw [h.loginIDKey, h.originalLoginID]
  exact h.normalized

/-- Claims of one string value, as `deriveClaims` makes them for a login ID, are JSON. -/
theorem claimsJson_singleton_string (key value : String) :
    ClaimsJson (GoMap.empty.insert key (.string value)) := by
  intro k v h
  simp only [GoMap.get?_insert, GoMap.get?_empty] at h
  split_ifs at h
  cases h
  rfl

/-- Over an honest database, every principal `CreatePrincipalsByLoginID` returns is read back,
    every field of it, by `GetPrincipalsByLoginID` with its key — configured, and not `""` — and
    the login ID it was made from, and by `GetPrincipalsByUserID` with the run's user ID; neither
    returns an error. The claims come back when JSON can hold what `deriveClaims` makes. -/
theorem createPrincipalsByLoginID_read_back (st : Store) (p : ProviderImpl)
    (setPassword : String → String) (handledWithMessage : Option Error → String → Option Error)
    (ex : Executor) (loginIDsKeys : List String) (authInfoID password : String)
    (loginIDs : List LoginID) (realm : String) (log : Log) (hm : Marshalled log)
    (hjson : ∀ key value, ClaimsJson (p.deriveClaims key value))
    (hex : ex.Honest (createPrincipalsByLoginID st p setPassword handledWithMessage authInfoID
      password loginIDs realm log).2) :
    let r := createPrincipalsByLoginID st p setPassword handledWithMessage authInfoID password
      loginIDs realm log
    ∀ principal ∈ r.1.1,
      (principal.loginIDKey ≠ "" → principal.loginIDKey ∈ loginIDsKeys →
        let found := getPrincipalsByLoginID ex p handledWithMessage loginIDsKeys
          principal.loginIDKey principal.originalLoginID r.2
        principal ∈ found.1 ∧ found.2 = none) ∧
      let found := getPrincipalsByUserID ex handledWithMessage authInfoID r.2
      principal ∈ found.1 ∧ found.2 = none := by
  intro r principal hprincipal
  have hc := createPrincipalsByLoginID_created authInfoID password loginIDs realm log principal
    hprincipal
  have hm' : Marshalled r.2 :=
    (@createPrincipalsByLoginID_sends st p setPassword handledWithMessage authInfoID password
      loginIDs realm log).marshalled hm
  have hpjson : ClaimsJson principal.claimsValue := hc.claims ▸ hjson _ _
  obtain ⟨loginID, -, hfor⟩ := hc.loginID
  refine ⟨fun hkey hmem => ?_, ?_⟩
  · obtain ⟨rows, hrows, hget⟩ := getPrincipals_of_honest hex hm' principal.loginIDKey
      principal.loginID none
    simp only [getPrincipalsByLoginID]
    rw [getPrincipalsByLoginIDLoop_filter hkey, List.filter_eq,
      getPrincipalsByLoginIDLoop_replicate hfor.normalize_eq hget]
    refine ⟨?_, rfl⟩
    simp only [List.nil_append, List.mem_flatten, List.mem_replicate]
    exact ⟨_, ⟨(List.count_pos_iff.mpr hmem).ne', rfl⟩,
      hc.stored.mem_scanAll_of_select hpjson hrows fun _ => by simp [Query.holds, Row.of]⟩
  · obtain ⟨rows, hrows, hget⟩ := getPrincipalsByUserID_of_honest hex hm' authInfoID
    show principal ∈ (getPrincipalsByUserID ex handledWithMessage authInfoID r.2).1 ∧ _
    rw [hget]
    exact ⟨hc.stored.mem_scanAll_of_select hpjson hrows fun _ => by
      simp [Query.holds, Row.of, hfor.userID], rfl⟩

/-- An e-mail login ID created from empty tables is read back by both lookups. -/
theorem createPrincipalsByLoginID_read_back_email :
    let st := Store.enforcing fun _ => "principal-id"
    let p : ProviderImpl :=
      ⟨fun _ v => .ok v, fun _ v => .ok v, fun key v => GoMap.empty.insert key (.string v), false⟩
    let r := createPrincipalsByLoginID st p id (fun err _ => err) "user" "secret"
      [⟨"email", "a@example.com"⟩] "default" []
    r.1.1.length = 1 ∧
      ∀ principal ∈ r.1.1,
        (principal.loginIDKey ≠ "" → principal.loginIDKey ∈ ["email"] →
          let found := getPrincipalsByLoginID Executor.ofTables p (fun err _ => err) ["email"]
            principal.loginIDKey principal.originalLoginID r.2
          principal ∈ found.1 ∧ found.2 = none) ∧
        let found := getPrincipalsByUserID Executor.ofTables (fun err _ => err) "user" r.2
        principal ∈ found.1 ∧ found.2 = none := by
  intro st p r
  exact ⟨by decide, createPrincipalsByLoginID_read_back st p id (fun err _ => err) Executor.ofTables
    ["email"] "user" "secret" [⟨"email", "a@example.com"⟩] "default" []
    (fun _ _ h => absurd h (List.not_mem_nil _)) claimsJson_singleton_string
    (Executor.ofTables_honest _)⟩

/-- When the database enforces the tables' keys, every principal `CreatePrincipalsByLoginID`
    returns is what `GetPrincipalByID` returns for its ID, and what
    `GetPrincipalByLoginIDWithRealm` returns, alone, for its key — configured once, and not
    `""` — the login ID it was made from and the run's realm, when `validateOne` accepts that
    login ID. -/
theorem createPrincipalsByLoginID_unique_lookup (st : Store) (p : ProviderImpl)
    (setPassword : String → String) (handledWithMessage : Option Error → String → Option Error)
    (ex : Executor) (validateOne : LoginID → Option Error) (loginIDsKeys : List String)
    (authInfoID password : String) (loginIDs : List LoginID) (realm : String) (log : Log)
    (hst : st.Enforces) (hu : Unique log)
    (hjson : ∀ key value, ClaimsJson (p.deriveClaims key value))
    (hex : ex.Honest (createPrincipalsByLoginID st p setPassword handledWithMessage authInfoID
      password loginIDs realm log).2) :
    let r := createPrincipalsByLoginID st p setPassword handledWithMessage authInfoID password
      loginIDs realm log
    ∀ principal ∈ r.1.1,
      getPrincipalByID ex handledWithMessage principal.id r.2 = (some principal, none) ∧
      (principal.loginIDKey ≠ "" → loginIDsKeys.count principal.loginIDKey = 1 →
        validateOne ⟨principal.loginIDKey, principal.originalLoginID⟩ = none →
        getPrincipalByLoginIDWithRealm ex p handledWithMessage validateOne loginIDsKeys
          principal.loginIDKey principal.originalLoginID realm r.2 = (none, some principal)) := by
  intro r principal hprincipal
  have hc := createPrincipalsByLoginID_created authInfoID password loginIDs realm log principal
    hprincipal
  have hsends := @createPrincipalsByLoginID_sends st p setPassword handledWithMessage authInfoID
    password loginIDs realm log
  have hu' : Unique r.2 := hsends.unique hst hu
  have hpjson : ClaimsJson principal.claimsValue := hc.claims ▸ hjson _ _
  obtain ⟨loginID, -, hfor⟩ := hc.loginID
  obtain ⟨claims, hpp, hd⟩ := hc.stored.providerPasswordRow
  have hscan := scan_rowOf hpjson hd
  refine ⟨?_, fun hkey hcount hvalid => ?_⟩
  · obtain ⟨rows, hq, hrows⟩ := hex (.id principal.id)
    rw [select_id_of_unique hu' hc.stored.principalRow hpp, List.perm_singleton] at hrows
    simp only [getPrincipalByID, hq, hrows, hscan]
  · obtain ⟨rows, hq, hrows⟩ :=
      hex (.loginID principal.loginIDKey principal.loginID (some principal.realm))
    rw [select_loginID_of_unique hu' hc.stored.principalRow hpp, List.perm_singleton] at hrows
    have hget : getPrincipals ex principal.loginIDKey principal.loginID (some realm) r.2 =
        ([principal], none) := by
      simp only [getPrincipals, ← hfor.realm, hq, hrows, scanRows, hscan, List.nil_append]
    simp only [getPrincipalByLoginIDWithRealm]
    rw [getPrincipalByLoginIDWithRealmLoop_filter hkey, List.filter_eq, hcount]
    simp only [List.replicate_one, getPrincipalByLoginIDWithRealmLoop, or_true, if_true, hvalid,
      hfor.normalize_eq, hget, List.nil_append]

/-- An e-mail login ID created from empty tables over the enforcing store is found alone, by its
    ID and by its login ID. -/
theorem createPrincipalsByLoginID_unique_lookup_email :
    let st := Store.enforcing fun _ => "principal-id"
    let p : ProviderImpl :=
      ⟨fun _ v => .ok v, fun _ v => .ok v, fun key v => GoMap.empty.insert key (.string v), false⟩
    let r := createPrincipalsByLoginID st p id (fun err _ => err) "user" "secret"
      [⟨"email", "a@example.com"⟩] "default" []
    r.1.1.length = 1 ∧
      ∀ principal ∈ r.1.1,
        getPrincipalByID Executor.ofTables (fun err _ => err) principal.id r.2 =
          (some principal, none) ∧
        (principal.loginIDKey ≠ "" → ["email", "username"].count principal.loginIDKey = 1 →
          (fun _ => none : LoginID → Option Error)
            ⟨principal.loginIDKey, principal.originalLoginID⟩ = none →
          getPrincipalByLoginIDWithRealm Executor.ofTables p (fun err _ => err) (fun _ => none)
            ["email", "username"] principal.loginIDKey principal.originalLoginID "default" r.2 =
            (none, some principal)) := by
  intro st p r
  exact ⟨by decide, createPrincipalsByLoginID_unique_lookup st p id (fun err _ => err)
    Executor.ofTables (fun _ => none) ["email", "username"] "user" "secret"
    [⟨"email", "a@example.com"⟩] "default" [] (Store.enforcing_enforces _) ⟨.nil, .nil, .nil⟩
    claimsJson_singleton_string (Executor.ofTables_honest _)⟩

/-- A login ID that `validateOne` rejects for every configured key the call considers, or a key
    that is not configured, is reported as `principal.ErrNotFound`, whatever the database
    holds. -/
theorem getPrincipalByLoginIDWithRealm_of_rejected (ex : Executor) (p : ProviderImpl)
    (handledWithMessage : Option Error → String → Option Error)
    (validateOne : LoginID → Option Error) (loginIDsKeys : List String)
    (loginIDKey loginID realm : String) (log : Log)
    (h : ∀ key ∈ loginIDsKeys, loginIDKey = "" ∨ key = loginIDKey →
      validateOne ⟨key, loginID⟩ ≠ none) :
    getPrincipalByLoginIDWithRealm ex p handledWithMessage validateOne loginIDsKeys loginIDKey
      loginID realm log = (some ErrNotFound, none) := by
  suffices ∀ keys : List String, (∀ key ∈ keys, loginIDKey = "" ∨ key = loginIDKey →
      validateOne ⟨key, loginID⟩ ≠ none) →
      getPrincipalByLoginIDWithRealmLoop ex p handledWithMessage validateOne loginIDKey loginID
        realm log keys [] = (some ErrNotFound, none) from this loginIDsKeys h
  intro keys hkeys
  induction keys with
  | nil => rfl
  | cons key keys ih =>
    have ih := ih fun k hk => hkeys k (.tail _ hk)
    by_cases hc : loginIDKey = "" ∨ key = loginIDKey
    · obtain ⟨e, he⟩ := Option.ne_none_iff_exists'.mp (hkeys key (.head _) hc)
      simp only [getPrincipalByLoginIDWithRealmLoop, hc, if_true, he, ih]
    · simp only [getPrincipalByLoginIDWithRealmLoop, hc, if_false, ih]

/-- A login ID the e-mail key's check rejects is not found, for the e-mail key. -/
theorem getPrincipalByLoginIDWithRealm_of_rejected_email :
    let p : ProviderImpl := ⟨fun _ v => .ok v, fun _ v => .ok v, fun _ _ => GoMap.empty, false⟩
    let validateOne : LoginID → Option Error := fun loginID =>
      if loginID.key = "email" then some (.new "invalid login ID") else none
    (∀ key ∈ ["email", "username"], "email" = "" ∨ key = "email" →
      validateOne ⟨key, "not an email"⟩ ≠ none) ∧
    getPrincipalByLoginIDWithRealm Executor.ofTables p (fun err _ => err) validateOne
      ["email", "username"] "email" "not an email" "default" [] = (some ErrNotFound, none) := by
  intro p validateOne
  have h : ∀ key ∈ ["email", "username"], "email" = "" ∨ key = "email" →
      validateOne ⟨key, "not an email"⟩ ≠ none := by decide
  exact ⟨h, getPrincipalByLoginIDWithRealm_of_rejected Executor.ofTables p (fun err _ => err)
    validateOne ["email", "username"] "email" "not an email" "default" [] h⟩

end Password
end Auth
end Skygear
