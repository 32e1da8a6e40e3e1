import Skygear.Auth.Password.MapProvider

/-!
# The map-based password provider's lookups (`principal/password/provider.go`)

The older `providerImpl` reads its two tables apart: `GetPrincipalByLoginID` reads the
`provider_password` row of a login ID and then the `principal` row of its ID,
`GetPrincipalsByUserID` reads the user's `principal` rows and then the `provider_password` row
of each, and `GetPrincipalsByEmail` reads the `provider_password` rows of an e-mail and then the
`principal` row of each. A missing row (`sql.ErrNoRows`) in either step is
`skydb.ErrUserNotFound`.

The tables are what the store accepted of the writes `CreatePrincipal` sent (`MapProvider`),
and the database is an `Executor` answering the four `SELECT`s; one that answers them with the
rows of the tables, in any order, is `Honest`, a hypothesis of the statements that need it.
The rows have the columns each `SELECT` lists, which are the destinations its `Scan` is given.

`CreatePrincipal` does not undo its `principal` row when the `provider_password` insert is
refused. Such a row is an `Orphan`, and one orphan of a user makes `GetPrincipalsByUserID` of
that user fail with `ErrUserNotFound`, whatever other principals the user has.
-/

set_option autoImplicit false

namespace Skygear
namespace Auth
namespace Password
namespace MapProvider

/-! ## 1. Tables -/

/-- `skydb.ErrUserNotFound`, declared outside `src/`. -/
def ErrUserNotFound : Error := .sentinel "skydb.ErrUserNotFound"

/-- The `principal` table: the `(id, user_id)` of each insert the store accepted. Every row is
    the password provider's, so `provider = 'password'` keeps them all. -/
def principalTable (log : Log) : List (String × String) :=
  log.filterMap fun
    | (.principal id userID, none) => some (id, userID)
    | _ => none

/-- The `provider_password` table: `(principal_id, login_id_key, login_id, password)` of each
    insert the store accepted. -/
def providerPasswordTable (log : Log) : List (String × String × String × String) :=
  log.filterMap fun
    | (.providerPassword principalID loginIDKey loginID hashedPassword, none) =>
      some (principalID, loginIDKey, loginID, hashedPassword)
    | _ => none

@[simp] theorem principalTable_append (log log' : Log) :
    principalTable (log ++ log') = principalTable log ++ principalTable log' :=
  List.filterMap_append _ _ _

@[simp] theorem providerPasswordTable_append (log log' : Log) :
    providerPasswordTable (log ++ log') = providerPasswordTable log ++ providerPasswordTable log' :=
  List.filterMap_append _ _ _

/-! ## 2. The database -/

/-- The four `SELECT`s of the lookups, after the writes `log`: their rows, or the error. -/
structure Executor where
  /-- `SELECT principal_id, password FROM provider_password
      WHERE login_id_key = ? AND login_id = ?`. -/
  passwordByLoginID : Log → String → String → Except Error (List (String × String))
  /-- `SELECT user_id FROM principal WHERE id = ? AND provider = 'password'`. -/
  userOfPrincipal : Log → String → Except Error (List String)
  /-- `SELECT id, user_id FROM principal WHERE user_id = ? AND provider = 'password'`. -/
  principalsOfUser : Log → String → Except Error (List (String × String))
  /-- `SELECT login_id_key, login_id, password FROM provider_password
      WHERE principal_id = ?`. -/
  passwordOfPrincipal : Log → String → Except Error (List (String × String × String))

/-- The `provider_password` rows of a principal, as `passwordOfPrincipal` selects them. -/
def passwordRowsOf (log : Log) (principalID : String) : List (String × String × String) :=
  (providerPasswordTable log).filterMap fun e =>
    if e.1 = principalID then some e.2 else none

/-- A `principal` row of the user with no `provider_password` row. -/
def Orphan (log : Log) (userID id : String) : Prop :=
  (id, userID) ∈ principalTable log ∧ passwordRowsOf log id = []

/-- An executor that answers each `SELECT` after `log` with the rows of the tables, in any
    order. -/
structure Executor.Honest (ex : Executor) (log : Log) : Prop where
  passwordByLoginID : ∀ loginIDKey loginID, ∃ rows, ex.passwordByLoginID log loginIDKey loginID =
    .ok rows ∧ rows.Perm ((providerPasswordTable log).filterMap fun e =>
      if e.2.1 = loginIDKey ∧ e.2.2.1 = loginID then some (e.1, e.2.2.2) else none)
  userOfPrincipal : ∀ id, ∃ rows, ex.userOfPrincipal log id = .ok rows ∧
    rows.Perm ((principalTable log).filterMap fun e => if e.1 = id then some e.2 else none)
  principalsOfUser : ∀ userID, ∃ rows, ex.principalsOfUser log userID = .ok rows ∧
    rows.Perm ((principalTable log).filter fun e => e.2 = userID)
  passwordOfPrincipal : ∀ principalID, ∃ rows,
    ex.passwordOfPrincipal log principalID = .ok rows ∧ rows.Perm (passwordRowsOf log principalID)

/-- The executor that answers with the rows of the tables, in their order. -/
def Executor.ofTables : Executor where
  passwordByLoginID log loginIDKey loginID := .ok ((providerPasswordTable log).filterMap fun e =>
    if e.2.1 = loginIDKey ∧ e.2.2.1 = loginID then some (e.1, e.2.2.2) else none)
  userOfPrincipal log id :=
    .ok ((principalTable log).filterMap fun e => if e.1 = id then some e.2 else none)
  principalsOfUser log userID := .ok ((principalTable log).filter fun e => e.2 = userID)
  passwordOfPrincipal log principalID := .ok (passwordRowsOf log principalID)

theorem Executor.ofTables_honest (log : Log) : Executor.ofTables.Honest log :=
  ⟨fun _ _ => ⟨_, rfl, .refl _⟩, fun _ => ⟨_, rfl, .refl _⟩, fun _ => ⟨_, rfl, .refl _⟩,
    fun _ => ⟨_, rfl, .refl _⟩⟩

/-- `if err == sql.ErrNoRows { err = skydb.ErrUserNotFound }`. -/
def notFound (err : Error) : Error :=
  if err = ErrNoRows then ErrUserNotFound else err

/-! ## 3. The lookups -/

/-- The fields of a `Principal` the lookups set. -/
structure FoundPrincipal where
  id : String
  userID : String
  loginIDKey : String
  loginID : String
  hashedPassword : String
  deriving DecidableEq, Repr

variable (ex : Executor)

/-- `GetPrincipalByLoginID`: the error, and the caller's `*principal` afterwards. -/
def getPrincipalByLoginID (loginIDKey loginID : String) (principal : FoundPrincipal) (log : Log) :
    Option Error × FoundPrincipal :=
  match queryRow (ex.passwordByLoginID log loginIDKey loginID) with
  | .error err => (some (notFound err), principal)
  | .ok (id, hashedPassword) =>
    let principal := { principal with id, hashedPassword, loginIDKey, loginID }
    match queryRow (ex.userOfPrincipal log principal.id) with
    | .error err => (some (notFound err), principal)
    | .ok userID => (none, { principal with userID })

/-- The second loop of `GetPrincipalsByUserID`: the `provider_password` row of each principal,
    read into it; the first error ends the loop, with the principals as they are. -/
def fillPasswords (log : Log) :
    List FoundPrincipal → List FoundPrincipal → List FoundPrincipal × Option Error
  | [], done => (done, none)
  | principal :: rest, done =>
    match queryRow (ex.passwordOfPrincipal log principal.id) with
    | .error err => (done ++ principal :: rest, some (notFound err))
    | .ok (loginIDKey, loginID, hashedPassword) =>
      fillPasswords log rest (done ++ [{ principal with loginIDKey, loginID, hashedPassword }])

/-- `GetPrincipalsByUserID`. -/
def getPrincipalsByUserID (userID : String) (log : Log) : List FoundPrincipal × Option Error :=
  match ex.principalsOfUser log userID with
  | .error err => ([], some err)
  | .ok rows =>
    match rows.map fun row => (⟨row.1, row.2, "", "", ""⟩ : FoundPrincipal) with
    | [] => ([], some ErrUserNotFound)
    | principals => fillPasswords ex log principals []

/-- The second loop of `GetPrincipalsByEmail`: the user ID of each principal; the first error
    ends the call with no principal. -/
def fillUserIDs (log : Log) :
    List FoundPrincipal → List FoundPrincipal → Except Error (List FoundPrincipal)
  | [], done => .ok done
  | principal :: rest, done =>
    match queryRow (ex.userOfPrincipal log principal.id) with
    | .error err => .error (notFound err)
    | .ok userID => fillUserIDs log rest (done ++ [{ principal with userID }])

/-- `GetPrincipalsByEmail`. -/
def getPrincipalsByEmail (email : String) (log : Log) : List FoundPrincipal × Option Error :=
  match ex.passwordByLoginID log "email" email with
  | .error err => ([], some err)
  | .ok rows =>
    match rows.map fun row => (⟨row.1, "", "email", email, row.2⟩ : FoundPrincipal) with
    | [] => ([], some ErrUserNotFound)
    | principals =>
      match fillUserIDs ex log principals [] with
      | .error err => ([], some err)
      | .ok principals => (principals, none)

/-! ## 4. `GetPrincipalsByUserID` over an honest database -/

variable {ex}

/-- Over an honest database, the loop reads a `provider_password` row into every principal, and
    stops with `ErrUserNotFound` at the first principal that has none. -/
theorem fillPasswords_of_honest {log : Log} (hex : ex.Honest log) :
    ∀ principals done : List FoundPrincipal, (fillPasswords ex log principals done).2 =
      if ∃ x ∈ principals, passwordRowsOf log x.id = [] then some ErrUserNotFound else none
  | [], _ => by simp [fillPasswords]
  | x :: rest, done => by
    obtain ⟨rows, hq, hperm⟩ := hex.passwordOfPrincipal x.id
    cases hx : passwordRowsOf log x.id with
    | nil =>
      rw [hx, List.perm_nil] at hperm
      simp [fillPasswords, hq, hperm, queryRow, notFound, hx]
    | cons row rows' =>
      rw [hx] at hperm
      obtain ⟨r, rs, rfl⟩ := List.exists_cons_of_ne_nil fun h : rows = [] => by
        simp [h] at hperm
      simp only [fillPasswords, hq, queryRow, List.mem_cons, exists_eq_or_imp, hx,
        reduceCtorEq, false_or]
      exact fillPasswords_of_honest hex rest _

/-- Over an honest database, `GetPrincipalsByUserID` fails with `ErrUserNotFound` exactly when
    the user has no `principal` row, or has an orphan one; otherwise it returns no error. -/
theorem getPrincipalsByUserID_of_honest {log : Log} (hex : ex.Honest log) (userID : String) :
    (getPrincipalsByUserID ex userID log).2 =
      if (∀ e ∈ principalTable log, e.2 ≠ userID) ∨
          ∃ e ∈ principalTable log, e.2 = userID ∧ passwordRowsOf log e.1 = [] then
        some ErrUserNotFound
      else none := by
  obtain ⟨rows, hq, hperm⟩ := hex.principalsOfUser userID
  have hmem : ∀ e, e ∈ rows ↔ e ∈ principalTable log ∧ e.2 = userID := fun e => by
    rw [hperm.mem_iff, List.mem_filter, decide_eq_true_iff]
  simp only [getPrincipalsByUserID, hq]
  split
  · next hnil =>
    have hnone : ∀ e ∈ principalTable log, e.2 ≠ userID := fun e he heq =>
      List.not_mem_nil _ (List.map_eq_nil_iff.mp hnil ▸ (hmem e).mpr ⟨he, heq⟩)
    rw [if_pos (.inl hnone)]
  · next hne =>
    have hsome : ¬∀ e ∈ principalTable log, e.2 ≠ userID := fun hnone => by
      obtain ⟨e, he⟩ := List.exists_mem_of_ne_nil rows fun h => hne (by rw [h]; rfl)
      exact hnone e ((hmem e).mp he).1 ((hmem e).mp he).2
    rw [fillPasswords_of_honest hex]
    by_cases hc : ∃ e ∈ principalTable log, e.2 = userID ∧ passwordRowsOf log e.1 = []
    · obtain ⟨e, hin, huser, hx⟩ := hc
      have hfound : ∃ x ∈ rows.map fun row => (⟨row.1, row.2, "", "", ""⟩ : FoundPrincipal),
          passwordRowsOf log x.id = [] :=
        ⟨_, List.mem_map_of_mem _ ((hmem e).mpr ⟨hin, huser⟩), hx⟩
      rw [if_pos hfound, if_pos (Or.inr ⟨e, hin, huser, hx⟩)]
    · rw [if_neg (not_or.mpr ⟨hsome, hc⟩), if_neg]
      rintro ⟨x, hx, hnil⟩
      obtain ⟨e, he, rfl⟩ := List.mem_map.mp hx
      exact hc ⟨e, ((hmem e).mp he).1, ((hmem e).mp he).2, hnil⟩

/-- A user whose one `principal` row has no `provider_password` row is not found. -/
example :
    let log : Log := [(.principal "principal-id" "user", none),
      (.providerPassword "principal-id" "email" "user@example.com" "bcrypt:secret", some (.pq "23505"))]
    (getPrincipalsByUserID Executor.ofTables "user" log).2 = some ErrUserNotFound := by
  decide

/-! ## 5. The orphan a refused `provider_password` insert leaves -/

variable {st : Store} {p : ProviderImpl}

/-- A `CreatePrincipal` whose `principal` insert went in and whose call returns an error leaves
    its `principal` row an orphan, when no `provider_password` row held its ID before. -/
theorem createPrincipal_orphan {principal : Principal} {log log' : Log} {err : Error}
    (h : createPrincipal st p principal log = .ok (some err, log'))
    (hin : st.answer log (.principal principal.id principal.userID) = none)
    (hfresh : passwordRowsOf log principal.id = []) :
    Orphan log' principal.userID principal.id := by
  rcases createPrincipal_eq_ok h with ⟨e, he, -⟩ | ⟨hashed, -, -, herr, hlog⟩
  · rw [hin] at he; cases he
  · obtain ⟨e, he, -⟩ := Option.map_eq_some'.mp herr.symm
    have htable : providerPasswordTable log' = providerPasswordTable log := by
      rw [hlog]; split_ifs <;> simp [providerPasswordTable, he]
    exact ⟨by rw [hlog]; simp [principalTable], by rw [passwordRowsOf, htable]; exact hfresh⟩

/-- Over an honest database, a `CreatePrincipal` that returns an error after its `principal`
    insert went in — a login ID already taken, reported as `ErrUserDuplicated` — leaves the
    user unreadable: `GetPrincipalsByUserID` of the user returns `ErrUserNotFound` afterwards,
    whatever other principals the user has. -/
theorem createPrincipal_refused_hides_user (st : Store) (p : ProviderImpl) (principal : Principal)
    (log : Log) (err : Error) (log' : Log) (ex : Executor)
    (h : createPrincipal st p principal log = .ok (some err, log'))
    (hin : st.answer log (.principal principal.id principal.userID) = none)
    (hfresh : passwordRowsOf log principal.id = []) (hex : ex.Honest log') :
    (getPrincipalsByUserID ex principal.userID log').2 = some ErrUserNotFound := by
  obtain ⟨hrow, hnone⟩ := createPrincipal_orphan h hin hfresh
  rw [getPrincipalsByUserID_of_honest hex, if_pos (.inr ⟨_, hrow, rfl, hnone⟩)]

/-- A login ID already taken: the `provider_password` insert is refused as a unique violation,
    the call returns `ErrUserDuplicated`, and the user is no longer found. -/
theorem createPrincipal_refused_hides_user_duplicated :
    let st : Store := ⟨fun _ w => match w with
      | .providerPassword .. => some (.pq "23505")
      | _ => none, fun _ => "principal-id"⟩
    let p : ProviderImpl := ⟨false, fun e => e == .pq "23505", fun pw => .ok ("bcrypt:" ++ pw)⟩
    let principal : Principal := ⟨"principal-id", "user", "email", "user@example.com", "secret"⟩
    ∃ log', createPrincipal st p principal [] = .ok (some ErrUserDuplicated, log') ∧
      (getPrincipalsByUserID Executor.ofTables principal.userID log').2 = some ErrUserNotFound := by
  intro st p principal
  exact ⟨_, rfl, createPrincipal_refused_hides_user st p principal [] ErrUserDuplicated _
    Executor.ofTables rfl rfl rfl (Executor.ofTables_honest _)⟩

end MapProvider
end Password
end Auth
end Skygear
