import Skygear.Core.Go

/-!
# The map-based password provider (`principal/password/provider.go`, the older `providerImpl`)

The older `providerImpl` takes the login IDs as a `map[string]string` and creates one principal
per entry with `CreatePrincipal`: an insert into `principal`, the password's bcrypt hash, an
insert into `provider_password` — whose unique violation becomes `ErrUserDuplicated` — and,
when password history is on, a record in the history store, whose error is dropped. The loop of
`CreatePrincipalsByLoginID` stops at the first error.

As for the newer provider, the database and the history store are one `Store` that answers
each write from the writes before it, so that a statement over every `Store` covers every
failure of every write; the password history is what the store accepted of the history records
(`passwordHistory`). `db.IsUniqueViolated` and `bcrypt.GenerateFromPassword` are parameters.
The loop visits the map's entries in the order Go's `range` picks: it takes that order as a
list, and the statements hold for every list.

`CreatePrincipal` sends the history record once the `principal` row is in, whatever the
`provider_password` insert answered: the history can gain a record for a call that returns an
error.
-/

set_option autoImplicit false

namespace Skygear
namespace Auth
namespace Password
namespace MapProvider

/-! ## 1. Data -/

/-- `skydb.ErrUserDuplicated`, declared outside `src/`. -/
def ErrUserDuplicated : Error := .sentinel "ErrUserDuplicated"

/-- The fields of a `Principal` that `CreatePrincipal` reads. -/
structure Principal where
  id : String
  userID : String
  loginIDKey : String
  loginID : String
  plainPassword : String
  deriving DecidableEq, Repr

/-- A write `CreatePrincipal` sends. -/
inductive Write where
  /-- The insert into `principal`: `id`, `provider` (`providerPassword`) and `user_id`. -/
  | principal (id userID : String)
  /-- The insert into `provider_password`: `principal_id`, `login_id_key`, `login_id` and
      `password`, the hash. -/
  | providerPassword (principalID loginIDKey loginID hashedPassword : String)
  /-- `passwordHistoryStore.CreatePasswordHistory(userID, hashedPassword, timeNow())`. -/
  | passwordHistory (userID hashedPassword : String)
  deriving DecidableEq, Repr

/-- The writes sent so far, each with the store's answer. -/
abbrev Log := List (Write × Option Error)

/-- The database and the password history store: the error (or nil) each write answers, given
    the writes before it, and the ID `NewPrincipal` draws after them. -/
structure Store where
  answer : Log → Write → Option Error
  newID : Log → String

/-- The parts of `providerImpl` that `CreatePrincipal` uses. -/
structure ProviderImpl where
  passwordHistoryEnabled : Bool
  /-- `db.IsUniqueViolated`, declared outside `src/`. -/
  isUniqueViolated : Error → Bool
  /-- `bcrypt.GenerateFromPassword(password, bcrypt.DefaultCost)`. -/
  generateFromPassword : String → Except Error String

/-- The password history the store holds after the writes `log`: the records it accepted, in
    order. -/
def passwordHistory (log : Log) : List (String × String) :=
  log.filterMap fun
    | (.passwordHistory userID hashedPassword, none) => some (userID, hashedPassword)
    | _ => none

@[simp] theorem passwordHistory_nil : passwordHistory [] = [] := rfl

@[simp] theorem passwordHistory_append (log log' : Log) :
    passwordHistory (log ++ log') = passwordHistory log ++ passwordHistory log' :=
  List.filterMap_append _ _ _

@[simp] theorem passwordHistory_cons_principal (id userID : String) (ans : Option Error)
    (log : Log) : passwordHistory ((.principal id userID, ans) :: log) = passwordHistory log :=
  rfl

@[simp] theorem passwordHistory_cons_providerPassword
    (principalID loginIDKey loginID hashed : String) (ans : Option Error) (log : Log) :
    passwordHistory ((.providerPassword principalID loginIDKey loginID hashed, ans) :: log) =
      passwordHistory log :=
  rfl

@[simp] theorem passwordHistory_cons_record (userID hashed : String) (ans : Option Error)
    (log : Log) :
    passwordHistory ((.passwordHistory userID hashed, ans) :: log) =
      (if ans = none then [(userID, hashed)] else []) ++ passwordHistory log := by
  cases ans <;> rfl

/-! ## 2. The provider's methods -/

variable (st : Store) (p : ProviderImpl)

/-- One write, answered by the store and recorded. -/
def exec (w : Write) (log : Log) : Option Error × Log :=
  let ans := st.answer log w
  (ans, log ++ [(w, ans)])

/-- `CreatePrincipal`: the error it returns and the writes sent; a failing hash panics. -/
def createPrincipal (principal : Principal) (log : Log) : Except Panic (Option Error × Log) :=
  -- Create principal
  match exec st (.principal principal.id principal.userID) log with
  | (some err, log) => .ok (some err, log)
  | (none, log) =>
    match p.generateFromPassword principal.plainPassword with
    | .error _ => .error (.error (.new "provider_password: Failed to hash password"))
    | .ok hashedPassword =>
      let (err, log) := exec st
        (.providerPassword principal.id principal.loginIDKey principal.loginID hashedPassword) log
      let err := err.map fun err => if p.isUniqueViolated err then ErrUserDuplicated else err
      let log :=
        if p.passwordHistoryEnabled then
          (exec st (.passwordHistory principal.userID hashedPassword) log).2
        else log
      .ok (err, log)

/-- `CreatePrincipalsByLoginID`, over the map's entries in the order the `range` visits them:
    the error it returns and the writes sent. -/
def createPrincipalsByLoginID (authInfoID password : String) :
    List (String × String) → Log → Except Panic (Option Error × Log)
  | [], log => .ok (none, log)
  | (k, v) :: rest, log =>
    let principal : Principal :=
      { id := st.newID log, userID := authInfoID, loginIDKey := k, loginID := v,
        plainPassword := password }
    match createPrincipal st p principal log with
    | .error p => .error p
    | .ok (some err, log) => .ok (some err, log)
    | .ok (none, log) => createPrincipalsByLoginID authInfoID password rest log

/-! ## 3. One call of `CreatePrincipal` -/

variable {st p}

/-- Everything a call of `CreatePrincipal` that returns can have done: the `principal` insert
    was refused, and nothing else was sent; or it was accepted, the password hashed, the
    `provider_password` insert sent, its error returned, and — with history on — the history
    record sent, whatever that insert answered. -/
theorem createPrincipal_eq_ok {principal : Principal} {log : Log} {err : Option Error}
    {log' : Log} (h : createPrincipal st p principal log = .ok (err, log')) :
    (∃ e, st.answer log (.principal principal.id principal.userID) = some e ∧ err = some e ∧
      log' = log ++ [(.principal principal.id principal.userID, some e)]) ∨
    ∃ hashed, st.answer log (.principal principal.id principal.userID) = none ∧
      p.generateFromPassword principal.plainPassword = .ok hashed ∧
      let log₁ := log ++ [(.principal principal.id principal.userID, none)]
      let w := Write.providerPassword principal.id principal.loginIDKey principal.loginID hashed
      let log₂ := log₁ ++ [(w, st.answer log₁ w)]
      err = (st.answer log₁ w).map
        (fun e => if p.isUniqueViolated e then ErrUserDuplicated else e) ∧
      log' = log₂ ++ if p.passwordHistoryEnabled then
        [(.passwordHistory principal.userID hashed,
          st.answer log₂ (.passwordHistory principal.userID hashed))] else [] := by
  unfold createPrincipal exec at h
  rcases ha : st.answer log (.principal principal.id principal.userID) with _ | e
  · rw [ha] at h
    rcases hg : p.generateFromPassword principal.plainPassword with _ | hashed
    · rw [hg] at h; cases h
    · rw [hg] at h
      refine .inr ⟨hashed, rfl, rfl, ?_⟩
      dsimp only at h ⊢
      split_ifs at h ⊢ <;> cases h
      · exact ⟨rfl, rfl⟩
      · exact ⟨rfl, (List.append_nil _).symm⟩
  · rw [ha] at h
    cases h
    exact .inl ⟨e, rfl, rfl, rfl⟩

/-- `CreatePrincipal` changes the password history only by the principal's record, and only
    once the `principal` row is in and with history on; and when it adds the record, it returns
    whatever the `provider_password` insert answered: `ErrUserDuplicated` for a unique violation,
    any other error as it came, nil on success. -/
theorem createPrincipal_passwordHistory (principal : Principal) (log : Log) {err : Option Error}
    {log' : Log} (h : createPrincipal st p principal log = .ok (err, log')) :
    passwordHistory log' = passwordHistory log ∨
    ∃ hashed, st.answer log (.principal principal.id principal.userID) = none ∧
      p.passwordHistoryEnabled = true ∧ p.generateFromPassword principal.plainPassword = .ok hashed ∧
      passwordHistory log' = passwordHistory log ++ [(principal.userID, hashed)] ∧
      err = (st.answer (log ++ [(.principal principal.id principal.userID, none)])
        (.providerPassword principal.id principal.loginIDKey principal.loginID hashed)).map
          fun e => if p.isUniqueViolated e then ErrUserDuplicated else e := by
  rcases createPrincipal_eq_ok h with ⟨e, -, -, rfl⟩ | ⟨hashed, hins, hhash, herr, rfl⟩
  · exact .inl (by simp)
  · cases hon : p.passwordHistoryEnabled
    · exact .inl (by simp)
    · simp only [passwordHistory_append, passwordHistory_cons_principal,
        passwordHistory_cons_providerPassword, passwordHistory_cons_record, passwordHistory_nil,
        if_true, List.append_nil, List.nil_append]
      split_ifs
      · exact .inr ⟨hashed, hins, trivial, hhash, rfl, herr⟩
      · exact .inl (List.append_nil _)

/-- The password history of a failed `provider_password` insert: with history on, a store that
    refuses that insert as a unique violation but accepts the history record leaves the record
    in the history, and the call returns `ErrUserDuplicated`. -/
theorem createPrincipal_duplicated_keeps_history_record :
    let st : Store := ⟨fun _ w => match w with
      | .providerPassword .. => some (.pq "23505")
      | _ => none, fun _ => "principal-id"⟩
    let p : ProviderImpl := ⟨true, fun e => e == .pq "23505", fun pw => .ok ("bcrypt:" ++ pw)⟩
    let principal : Principal := ⟨"principal-id", "user", "email", "user@example.com", "secret"⟩
    ∃ log', createPrincipal st p principal [] = .ok (some ErrUserDuplicated, log') ∧
      passwordHistory log' = [("user", "bcrypt:secret")] := by
  intro st p principal
  refine ⟨_, rfl, ?_⟩
  rcases @createPrincipal_passwordHistory st p principal [] _ _ rfl with h | ⟨hashed, -, -, hg, h, -⟩
  · cases h
  · cases hg; exact h

/-! ## 4. A whole run of `CreatePrincipalsByLoginID` -/

/-- What one call adds to the password history: at most the principal's record, with the hash
    of its password. -/
theorem createPrincipal_history_added {principal : Principal} {log : Log} {err : Option Error}
    {log' : Log} (h : createPrincipal st p principal log = .ok (err, log')) :
    ∃ added, passwordHistory log' = passwordHistory log ++ added ∧ added.length ≤ 1 ∧
      ∀ x ∈ added, x.1 = principal.userID ∧ p.generateFromPassword principal.plainPassword = .ok x.2 := by
  rcases createPrincipal_eq_ok h with ⟨e, -, -, rfl⟩ | ⟨hashed, -, hhash, -, rfl⟩
  · exact ⟨[], by simp, by simp, by simp⟩
  · cases p.passwordHistoryEnabled
    · exact ⟨[], by simp, by simp, by simp⟩
    · simp only [passwordHistory_append, passwordHistory_cons_principal,
        passwordHistory_cons_providerPassword, passwordHistory_cons_record, passwordHistory_nil,
        if_true, List.append_nil, List.nil_append]
      exact ⟨_, rfl, by split_ifs <;> simp, by split_ifs <;> simp [hhash]⟩

/-- A run of `CreatePrincipalsByLoginID` that returns, in any visiting order, adds to the
    password history only records of the user's password, at most one per entry visited. -/
theorem createPrincipalsByLoginID_passwordHistory (authInfoID password : String) :
    ∀ (visit : List (String × String)) (log : Log) {err : Option Error} {log' : Log},
      createPrincipalsByLoginID st p authInfoID password visit log = .ok (err, log') →
      ∃ added, passwordHistory log' = passwordHistory log ++ added ∧
        added.length ≤ visit.length ∧
        ∀ x ∈ added, x.1 = authInfoID ∧ p.generateFromPassword password = .ok x.2
  | [], log, _, _, h => by cases h; exact ⟨[], by simp, by simp, by simp⟩
  | (k, v) :: rest, log, err, log', h => by
    unfold createPrincipalsByLoginID at h
    dsimp only at h
    rcases hc : createPrincipal st p ⟨st.newID log, authInfoID, k, v, password⟩ log with
      q | ⟨_ | e, log₁⟩ <;> rw [hc] at h
    · cases h
    · obtain ⟨added, hh, hlen, hx⟩ := createPrincipal_history_added hc
      obtain ⟨added', hh', hlen', hx'⟩ :=
        createPrincipalsByLoginID_passwordHistory authInfoID password rest log₁ h
      refine ⟨added ++ added', by rw [hh', hh, List.append_assoc], ?_, ?_⟩
      · simp only [List.length_append, List.length_cons]; omega
      · exact fun x hmem => (List.mem_append.mp hmem).elim (hx x) (hx' x)
    · cases h
      obtain ⟨added, hh, hlen, hx⟩ := createPrincipal_history_added hc
      exact ⟨added, hh, by simp only [List.length_cons]; omega, hx⟩

/-- Two login IDs over a store that accepts every write, with history on. -/
theorem createPrincipalsByLoginID_passwordHistory_accepting :
    let st : Store := ⟨fun _ _ => none, fun _ => "principal-id"⟩
    let p : ProviderImpl := ⟨true, fun _ => false, fun pw => .ok ("bcrypt:" ++ pw)⟩
    let visit := [("email", "user@example.com"), ("username", "user")]
    ∃ err log', createPrincipalsByLoginID st p "user" "secret" visit [] = .ok (err, log') ∧
      ∃ added, passwordHistory log' = passwordHistory [] ++ added ∧
        added.length ≤ visit.length ∧
        ∀ x ∈ added, x.1 = "user" ∧ p.generateFromPassword "secret" = .ok x.2 := by
  intro st p visit
  obtain ⟨r, hr⟩ : ∃ r, createPrincipalsByLoginID st p "user" "secret" visit [] = .ok r :=
    ⟨_, rfl⟩
  exact ⟨r.1, r.2, hr, createPrincipalsByLoginID_passwordHistory "user" "secret" visit [] hr⟩

end MapProvider
end Password
end Auth
end Skygear
