import Skygear.Auth.Password.Provider

/-!
# The tables behind the password provider (`principal`, `provider_password`)

`createPrincipal` inserts a row into `principal` and one into `provider_password`, and the
provider's lookups select from the join of the two on the principal's ID (`selectBuilder`). The
tables hold what the writes of the store's log inserted, in order, counting only the writes the
store accepted (answered nil): a refused insert stored nothing.

What `CreatePrincipalsByLoginID` can do to the store is said once, by `Sends`: it extends the
log one write at a time, each answered by the store at the log before it, and each
`provider_password` row it sends holds its principal's claims as `json.Marshal` writes them.
The invariants of the tables are proved over `Sends`, so that they hold over every run and from
every state they hold in:

* the log only grows, so what a run stored stays stored;
* the claims column holds marshalled claims (`Marshalled`);
* a store that refuses every write repeating a key keeps the keys unique (`Unique`).

The keys are the principal's ID (`principal.id`, `provider_password.principal_id`) and the login
ID the lookups select on (`login_id_key`, `login_id`, `realm`). The schema is not in `src/`, so
which keys the database enforces is the hypothesis `Store.Enforces` of the statements that need
it, not part of the model.
-/

set_option autoImplicit false

namespace Skygear
namespace Auth
namespace Password

open Encoding

/-! ## 1. Rows and tables -/

/-- A row of `selectBuilder`: `p.id`, `p.user_id`, then `pp.login_id_key`, `pp.login_id`,
    `pp.original_login_id`, `pp.unique_key`, `pp.realm`, `pp.password`, and `pp.claims` as the
    JSON document it holds. -/
structure Row where
  id : String
  userID : String
  loginIDKey : String
  loginID : String
  originalLoginID : String
  uniqueKey : String
  realm : String
  password : String
  claims : Doc

/-- The row the join makes of a `principal` row's `user_id` and a `provider_password` row. -/
def Row.of (userID : String) (principal : Principal) (claims : Doc) : Row :=
  ⟨principal.id, userID, principal.loginIDKey, principal.loginID, principal.originalLoginID,
    principal.uniqueKey, principal.realm, principal.hashedPassword, claims⟩

/-- The `principal` table: the `(id, user_id)` of each insert the store accepted. -/
def principalTable (log : Log) : List (String × String) :=
  log.filterMap fun
    | (.principal id userID, none) => some (id, userID)
    | _ => none

/-- The `provider_password` table: the principal and the claims of each insert the store
    accepted. -/
def providerPasswordTable (log : Log) : List (Principal × Doc) :=
  log.filterMap fun
    | (.providerPassword principal claims, none) => some (principal, claims)
    | _ => none

/-- `principal p JOIN provider_password pp ON p.id = pp.principal_id`. -/
def joinRows (log : Log) : List Row :=
  (providerPasswordTable log).flatMap fun e =>
    (principalTable log).flatMap fun row =>
      if row.1 = e.1.id then [Row.of row.2 e.1 e.2] else []

theorem mem_principalTable {log : Log} {id userID : String} :
    (id, userID) ∈ principalTable log ↔ (.principal id userID, none) ∈ log := by
  simp only [principalTable, List.mem_filterMap]
  constructor
  · rintro ⟨⟨w, ans⟩, hmem, h⟩
    rcases w with ⟨⟩ | ⟨⟩ | ⟨⟩ <;> rcases ans with _ | _ <;> simp at h
    obtain ⟨rfl, rfl⟩ := h
    exact hmem
  · exact fun h => ⟨_, h, rfl⟩

theorem mem_providerPasswordTable {log : Log} {principal : Principal} {claims : Doc} :
    (principal, claims) ∈ providerPasswordTable log ↔
      (.providerPassword principal claims, none) ∈ log := by
  simp only [providerPasswordTable, List.mem_filterMap]
  constructor
  · rintro ⟨⟨w, ans⟩, hmem, h⟩
    rcases w with ⟨⟩ | ⟨⟩ | ⟨⟩ <;> rcases ans with _ | _ <;> simp at h
    obtain ⟨rfl, rfl⟩ := h
    exact hmem
  · exact fun h => ⟨_, h, rfl⟩

/-- The rows of the join: a `provider_password` row with a `principal` row of its ID. -/
theorem mem_joinRows {log : Log} {row : Row} :
    row ∈ joinRows log ↔ ∃ userID principal claims,
      (principal.id, userID) ∈ principalTable log ∧
        (principal, claims) ∈ providerPasswordTable log ∧ row = Row.of userID principal claims := by
  simp only [joinRows, List.mem_flatMap]
  constructor
  · rintro ⟨⟨principal, claims⟩, he, ⟨id, userID⟩, hp, hrow⟩
    split_ifs at hrow with hid
    · simp only [List.mem_singleton] at hrow
      subst hid
      exact ⟨userID, principal, claims, hp, he, hrow⟩
    · simp at hrow
  · rintro ⟨userID, principal, claims, hp, he, rfl⟩
    exact ⟨(principal, claims), he, (principal.id, userID), hp, by simp⟩

@[simp] theorem principalTable_append (log log' : Log) :
    principalTable (log ++ log') = principalTable log ++ principalTable log' :=
  List.filterMap_append _ _ _

@[simp] theorem providerPasswordTable_append (log log' : Log) :
    providerPasswordTable (log ++ log') = providerPasswordTable log ++ providerPasswordTable log' :=
  List.filterMap_append _ _ _

@[simp] theorem principalTable_singleton (w : Write) (ans : Option Error) :
    principalTable [(w, ans)] =
      match w, ans with
      | .principal id userID, none => [(id, userID)]
      | _, _ => [] := by
  cases w <;> cases ans <;> rfl

@[simp] theorem providerPasswordTable_singleton (w : Write) (ans : Option Error) :
    providerPasswordTable [(w, ans)] =
      match w, ans with
      | .providerPassword principal claims, none => [(principal, claims)]
      | _, _ => [] := by
  cases w <;> cases ans <;> rfl

/-- The tables of a longer log hold those of the shorter one. -/
theorem principalTable_subset {log log' : Log} (h : log <+: log') :
    principalTable log ⊆ principalTable log' :=
  (h.filterMap _).subset

theorem providerPasswordTable_subset {log log' : Log} (h : log <+: log') :
    providerPasswordTable log ⊆ providerPasswordTable log' :=
  (h.filterMap _).subset

/-! ## 2. What the provider sends -/

/-- A write as the provider sends it: a `provider_password` insert holds its principal's claims
    as `json.Marshal` writes them. -/
def Write.Marshalled : Write → Prop
  | .providerPassword pr claims => claimsCodec.encode pr.claimsValue = .ok claims
  | _ => True

variable {st : Store}

/-- `log'` is `log` followed by writes sent one at a time, each answered by the store at the
    log before it, each of them marshalled. -/
inductive Sends (st : Store) (log : Log) : Log → Prop
  | refl : Sends st log log
  | send {log' : Log} {w : Write} : Sends st log log' → w.Marshalled →
      Sends st log (exec st w log').2

namespace Sends

variable {log log' : Log}

theorem trans {log'' : Log} (h : Sends st log log') (h' : Sends st log' log'') :
    Sends st log log'' := by
  induction h' with
  | refl => exact h
  | send _ hw ih => exact .send ih hw

/-- A write sent, with the answer and the log `exec` returned. -/
theorem of_exec {log'' : Log} {w : Write} {ans : Option Error} (h : Sends st log log')
    (he : exec st w log' = (ans, log'')) (hw : w.Marshalled) : Sends st log log'' := by
  have h' := Sends.send h hw
  rwa [he] at h'

/-- The log only grows. -/
theorem isPrefix (h : Sends st log log') : log <+: log' := by
  induction h with
  | refl => exact List.prefix_refl _
  | send _ _ ih => exact ih.trans (List.prefix_append _ _)

end Sends

variable {p : ProviderImpl}

/-- `savePasswordHistory` sends at most the history record. -/
theorem savePasswordHistory_sends {principal : Principal} {log log' log'' : Log}
    {err : Option Error} (h : Sends st log log')
    (he : savePasswordHistory st p principal log' = (err, log'')) : Sends st log log'' := by
  unfold savePasswordHistory at he
  split at he
  · split at he <;> next he' => cases he; exact h.of_exec he' trivial
  · cases he; exact h

/-- `createPrincipal` sends its inserts, the claims marshalled, and the history record. -/
theorem createPrincipal_sends {principal : Principal} {log log' : Log} {err : Option Error}
    (he : createPrincipal st p principal log = (err, log')) : Sends st log log' := by
  unfold createPrincipal at he
  split at he
  · next he₁ => cases he; exact Sends.refl.of_exec he₁ trivial
  · next log₁ he₁ =>
    have h₁ : Sends st log log₁ := Sends.refl.of_exec he₁ trivial
    split at he
    · cases he; exact h₁
    · next claims hclaims =>
      split at he
      · next he₂ => cases he; exact h₁.of_exec he₂ hclaims
      · next he₂ => exact savePasswordHistory_sends (h₁.of_exec he₂ hclaims) he

/-- The log a turn of `CreatePrincipalsByLoginID`'s loop ends with. -/
def Turn.log : Turn → Log
  | .returned _ log => log
  | .next _ _ log => log

variable {setPassword : String → String} {handledWithMessage : Option Error → String → Option Error}

theorem turn_sends (authInfoID password realm : String) (err : Option Error) (loginID : LoginID)
    (log : Log) :
    Sends st log
      (turn st p setPassword handledWithMessage authInfoID password realm err loginID log).log := by
  unfold turn
  split
  · exact .refl
  · split
    · exact .refl
    · dsimp only
      split <;> next he => exact createPrincipal_sends he

theorem createLoop_sends (authInfoID password realm : String) :
    ∀ (loginIDs : List LoginID) (principals : List Principal) (err : Option Error) (log : Log),
      Sends st log (createLoop st p setPassword handledWithMessage authInfoID password realm
        loginIDs principals err log).2
  | [], _, _, _ => .refl
  | loginID :: loginIDs, principals, err, log => by
    have hturn := @turn_sends st p setPassword handledWithMessage authInfoID password realm err
      loginID log
    simp only [createLoop]
    split
    · next he => rw [he] at hturn; exact hturn
    · next he =>
      rw [he] at hturn
      exact hturn.trans (createLoop_sends authInfoID password realm loginIDs _ _ _)

theorem createPrincipalsByLoginID_sends (authInfoID password : String) (loginIDs : List LoginID)
    (realm : String) (log : Log) :
    Sends st log (createPrincipalsByLoginID st p setPassword handledWithMessage authInfoID password
      loginIDs realm log).2 :=
  createLoop_sends authInfoID password realm loginIDs [] none log

/-! ## 3. The invariants of the tables -/

/-- Every `provider_password` row holds its principal's claims as `json.Marshal` writes them. -/
def Marshalled (log : Log) : Prop :=
  ∀ principal claims, (principal, claims) ∈ providerPasswordTable log →
    (Write.providerPassword principal claims).Marshalled

/-- A login ID as the lookups select it: `(login_id_key, login_id, realm)`. -/
def loginIDOf (principal : Principal) : String × String × String :=
  (principal.loginIDKey, principal.loginID, principal.realm)

/-- The keys of the tables are unique: `principal.id`, `provider_password.principal_id`, and the
    login ID. -/
structure Unique (log : Log) : Prop where
  principalID : ((principalTable log).map Prod.fst).Nodup
  providerPasswordID : ((providerPasswordTable log).map fun e => e.1.id).Nodup
  loginID : ((providerPasswordTable log).map fun e => loginIDOf e.1).Nodup

/-- Whether the tables after `log` can take `w` without repeating a key. -/
def Write.fresh (log : Log) : Write → Bool
  | .principal id _ => decide (id ∉ (principalTable log).map Prod.fst)
  | .providerPassword pr _ =>
    decide (pr.id ∉ (providerPasswordTable log).map fun e => e.1.id) &&
      decide (loginIDOf pr ∉ (providerPasswordTable log).map fun e => loginIDOf e.1)
  | .passwordHistory _ _ => true

/-- A store that refuses every write that would repeat a key of the tables. -/
def Store.Enforces (st : Store) : Prop :=
  ∀ log w, st.answer log w = none → w.fresh log = true

/-- The store that refuses a write repeating a key with a unique violation (`pq` code 23505),
    and accepts every other write. -/
def Store.enforcing (newID : Log → String) : Store :=
  ⟨fun log w => if w.fresh log then none else some (.pq "23505"), newID⟩

theorem Store.enforcing_enforces (newID : Log → String) : (Store.enforcing newID).Enforces := by
  intro log w h
  simp only [Store.enforcing] at h
  split_ifs at h with hw
  exact hw

theorem marshalled_exec {log : Log} {w : Write} (h : Marshalled log) (hw : w.Marshalled) :
    Marshalled (exec st w log).2 := by
  intro principal claims hmem
  simp only [exec, mem_providerPasswordTable, List.mem_append, List.mem_singleton,
    Prod.mk.injEq] at hmem
  rcases hmem with hmem | ⟨rfl, -⟩
  · exact h _ _ (mem_providerPasswordTable.mpr hmem)
  · exact hw

/-- Tables that did not change keep their keys unique. -/
theorem Unique.of_tables {log log' : Log} (h : Unique log)
    (h₁ : principalTable log' = principalTable log)
    (h₂ : providerPasswordTable log' = providerPasswordTable log) : Unique log' :=
  ⟨h₁ ▸ h.principalID, h₂ ▸ h.providerPasswordID, h₂ ▸ h.loginID⟩

theorem unique_exec {log : Log} {w : Write} (h : Unique log)
    (hw : st.answer log w = none → w.fresh log = true) : Unique (exec st w log).2 := by
  simp only [exec]
  cases hans : st.answer log w with
  | some e => exact h.of_tables (by cases w <;> simp) (by cases w <;> simp)
  | none =>
    have hfresh := hw hans
    cases w with
    | principal id userID =>
      simp only [Write.fresh, decide_eq_true_eq] at hfresh
      exact ⟨by simpa using h.principalID.concat hfresh, by simpa using h.providerPasswordID,
        by simpa using h.loginID⟩
    | providerPassword principal claims =>
      simp only [Write.fresh, Bool.and_eq_true, decide_eq_true_eq] at hfresh
      exact ⟨by simpa using h.principalID, by simpa using h.providerPasswordID.concat hfresh.1,
        by simpa using h.loginID.concat hfresh.2⟩
    | passwordHistory => exact h.of_tables (by simp) (by simp)

namespace Sends

variable {log log' : Log}

theorem marshalled (h : Sends st log log') (hm : Marshalled log) : Marshalled log' := by
  induction h with
  | refl => exact hm
  | send _ hw ih => exact marshalled_exec ih hw

theorem unique (h : Sends st log log') (hst : st.Enforces) (hu : Unique log) : Unique log' := by
  induction h with
  | refl => exact hu
  | send _ _ ih => exact unique_exec ih (hst _ _)

end Sends

/-! ## 4. What a run stores -/

/-- The rows `createPrincipal` writes for `principal` are in the tables: its `principal` row, and
    a `provider_password` row with its claims marshalled. -/
structure Stored (log : Log) (principal : Principal) : Prop where
  principalRow : (principal.id, principal.userID) ∈ principalTable log
  providerPasswordRow : ∃ claims, (principal, claims) ∈ providerPasswordTable log ∧
    (Write.providerPassword principal claims).Marshalled

theorem Stored.mono {log log' : Log} {principal : Principal} (h : Stored log principal)
    (hlog : log <+: log') : Stored log' principal := by
  obtain ⟨claims, hpp, hclaims⟩ := h.providerPasswordRow
  exact ⟨principalTable_subset hlog h.principalRow,
    ⟨claims, providerPasswordTable_subset hlog hpp, hclaims⟩⟩

theorem exec_eq_none {w : Write} {log log' : Log} (h : exec st w log = (none, log')) :
    log' = log ++ [(w, none)] := by
  simp only [exec, Prod.mk.injEq] at h
  obtain ⟨hans, rfl⟩ := h
  rw [hans]

/-- A `createPrincipal` that returns nil stored its principal. -/
theorem createPrincipal_stored {principal : Principal} {log log' : Log}
    (he : createPrincipal st p principal log = (none, log')) : Stored log' principal := by
  unfold createPrincipal at he
  split at he
  · cases he
  · next log₁ he₁ =>
    split at he
    · cases he
    · next claims hclaims =>
      split at he
      · cases he
      · next log₂ he₂ =>
        have hlog : log₂ <+: log' := (savePasswordHistory_sends .refl he).isPrefix
        rw [exec_eq_none he₂] at hlog
        rw [exec_eq_none he₁] at hlog
        refine ⟨principalTable_subset hlog (mem_principalTable.mpr (by simp)),
          claims, providerPasswordTable_subset hlog (mem_providerPasswordTable.mpr (by simp)),
          hclaims⟩

/-- A turn that goes on stored its principal, with the claims `deriveClaims` made for the
    principal's key and login ID. -/
theorem turn_next_stored {authInfoID password realm : String} {err : Option Error}
    {loginID : LoginID} {log : Log} {principal : Principal} {err' : Option Error} {log' : Log}
    (h : turn st p setPassword handledWithMessage authInfoID password realm err loginID log =
      .next principal err' log') :
    Stored log' principal ∧
      principal.claimsValue = p.deriveClaims principal.loginIDKey principal.loginID := by
  unfold turn at h
  split at h
  · cases h
  · split at h
    · cases h
    · dsimp only at h
      split at h
      · cases h
      · next he => cases h; exact ⟨createPrincipal_stored he, rfl⟩

/-- What a run returns of a principal: stored in the log the run ends with, made for one of the
    run's login IDs, with the claims `deriveClaims` made for its key and login ID. -/
structure Created (p : ProviderImpl) (authInfoID realm : String) (loginIDs : List LoginID)
    (log : Log) (principal : Principal) : Prop where
  stored : Stored log principal
  loginID : ∃ loginID ∈ loginIDs, PrincipalFor p authInfoID realm loginID principal
  claims : principal.claimsValue = p.deriveClaims principal.loginIDKey principal.loginID

/-- Every principal the loop appends is created, in the log it ends with. -/
theorem createLoop_created (authInfoID password realm : String) :
    ∀ (loginIDs : List LoginID) (acc : List Principal) (log : Log),
      let r := createLoop st p setPassword handledWithMessage authInfoID password realm loginIDs
        acc none log
      ∀ principal ∈ r.1.1, principal ∈ acc ∨ Created p authInfoID realm loginIDs r.2 principal
  | [], _, _ => fun _ h => .inl h
  | loginID :: loginIDs, acc, log => by
    simp only [createLoop]
    cases ht : turn st p setPassword handledWithMessage authInfoID password realm none loginID log
      with
    | returned err log' => exact fun _ h => .inl h
    | next principal err log' =>
      obtain ⟨rfl, hfor⟩ := turn_next ht
      obtain ⟨hstored, hclaims⟩ := turn_next_stored ht
      have hlog := (@createLoop_sends st p setPassword handledWithMessage authInfoID password
        realm loginIDs (acc ++ [principal]) none log').isPrefix
      intro x hx
      rcases createLoop_created authInfoID password realm loginIDs (acc ++ [principal]) log' x hx
        with hx | ⟨hs, ⟨l, hl, hfor'⟩, hc⟩
      · rcases List.mem_append.mp hx with hx | hx
        · exact .inl hx
        · rw [List.mem_singleton.mp hx]
          exact .inr ⟨hstored.mono hlog, ⟨loginID, .head _, hfor⟩, hclaims⟩
      · exact .inr ⟨hs, ⟨l, .tail _ hl, hfor'⟩, hc⟩

/-- Every principal `CreatePrincipalsByLoginID` returns is created, in the log it ends with. -/
theorem createPrincipalsByLoginID_created (authInfoID password : String)
    (loginIDs : List LoginID) (realm : String) (log : Log) :
    let r := createPrincipalsByLoginID st p setPassword handledWithMessage authInfoID password
      loginIDs realm log
    ∀ principal ∈ r.1.1, Created p authInfoID realm loginIDs r.2 principal := fun principal h =>
  (createLoop_created authInfoID password realm loginIDs [] log principal h).resolve_left
    (List.not_mem_nil _)

end Password
end Auth
end Skygear
