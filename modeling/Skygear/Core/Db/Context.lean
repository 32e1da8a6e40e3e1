import Skygear.Core.Go

/-!
# The request's transaction container (`pkg/core/db/context.go`)

Every request has one `contextContainer`, holding the lazily opened database handle and the
open transaction, if any. `dbContext` reaches it through the request context; its `BeginTx`,
`CommitTx` and `RollbackTx` drive the database driver and set or clear `container.tx`, and
`EndTx` and `WithTx` are the two helpers the handlers use.

The model is a state machine: `DbState` is the container together with the driver's history,
and each method is a function of the state. The driver is a `Driver`, which answers each
call from the calls before it, so that "every success or failure of the driver" is a
quantifier over `Driver`. A transaction body — the `do` passed to `WithTx` — is a `Body`: Go
code that may use the container (`DB`, `HasTx`, `EnsureTx`) and run nested `WithTx` calls on it,
but does not call `BeginTx`, `CommitTx` or `RollbackTx` itself.

The result: run from a container with no transaction, `WithTx` leaves exactly the transaction
whose commit or rollback the driver has just refused, and none otherwise. It rests on
`Body.run_of_tx`: with a transaction open, a body leaves the container
and the driver untouched, nested `WithTx` calls included.
-/

set_option autoImplicit false

namespace Skygear
namespace Db

/-! ## 1. Data -/

/-- `ErrDatabaseTxDidBegin`, declared outside `src/`. -/
def ErrDatabaseTxDidBegin : Error := .sentinel "ErrDatabaseTxDidBegin"

/-- `ErrDatabaseTxDidNotBegin`, declared outside `src/`. -/
def ErrDatabaseTxDidNotBegin : Error := .sentinel "ErrDatabaseTxDidNotBegin"

/-- One call the container makes to the pool or the driver. Handles are the positions of the
    calls that made them in the history. -/
inductive DriverCall where
  /-- `container.pool.Open(tConfig)`, from `lazydb`. -/
  | open
  /-- `BeginTxx` on the database handle. -/
  | begin
  | commit (tx : Nat)
  | rollback (tx : Nat)
  deriving DecidableEq, Repr

/-- The pool and the driver: the error (or nil) each call answers, given every call made
    before it with its answer. -/
structure Driver where
  answer : List (DriverCall × Option Error) → DriverCall → Option Error

/-- The request's `contextContainer` — the opened `*sqlx.DB` and the open `*sqlx.Tx` — and the
    driver's history. -/
structure DbState where
  db : Option Nat
  tx : Option Nat
  log : List (DriverCall × Option Error)
  deriving DecidableEq, Repr

/-- What `DB()` hands out: the open transaction, or the database. -/
inductive ExtContext where
  | tx (t : Nat)
  | db (d : Nat)
  deriving DecidableEq, Repr

/-- The state after one more driver call, with the driver's answer to it. -/
def DbState.record (s : DbState) (c : DriverCall) (ans : Option Error) : DbState :=
  { s with log := s.log ++ [(c, ans)] }

@[simp] theorem DbState.record_tx (s : DbState) (c : DriverCall) (ans : Option Error) :
    (s.record c ans).tx = s.tx := rfl

@[simp] theorem DbState.record_log (s : DbState) (c : DriverCall) (ans : Option Error) :
    (s.record c ans).log = s.log ++ [(c, ans)] := rfl

variable (drv : Driver)

/-! ## 2. The container's methods -/

/-- `dbContext.lazydb`: the database handle, opened on first use; a failing `Open` panics. -/
def lazydb (s : DbState) : Except Panic (Nat × DbState) :=
  match s.db with
  | some d => .ok (d, s)
  | none =>
    match drv.answer s.log .open with
    | some e => .error (.error e)
    | none => .ok (s.log.length, { s.record .open none with db := some s.log.length })

/-- `dbContext.HasTx`. -/
def hasTx (s : DbState) : Bool := s.tx.isSome

/-- `dbContext.EnsureTx`: panics when no transaction is open. -/
def ensureTx (s : DbState) : Except Panic Unit :=
  match s.tx with
  | some _ => .ok ()
  | none => .error (.error (.new "unexpected transaction not began"))

/-- `dbContext.DB`: the transaction when one is open, the database otherwise. -/
def DB (s : DbState) : Except Panic (ExtContext × DbState) :=
  match s.tx with
  | some t => .ok (.tx t, s)
  | none =>
    match lazydb drv s with
    | .ok (d, s') => .ok (.db d, s')
    | .error p => .error p

/-- `dbContext.BeginTx`. -/
def beginTx (s : DbState) : Except Panic (Option Error × DbState) :=
  if s.tx.isSome then .ok (some ErrDatabaseTxDidBegin, s)
  else
    match lazydb drv s with
    | .error p => .error p
    | .ok (_, s) =>
      match drv.answer s.log .begin with
      | some e => .ok (some e, s.record .begin (some e))
      | none => .ok (none, { s.record .begin none with tx := some s.log.length })

/-- `dbContext.CommitTx`: `container.tx` is cleared only when the driver's `Commit` succeeds. -/
def commitTx (s : DbState) : Option Error × DbState :=
  match s.tx with
  | none => (some ErrDatabaseTxDidNotBegin, s)
  | some t =>
    match drv.answer s.log (.commit t) with
    | none => (none, { s.record (.commit t) none with tx := none })
    | some e => (some e, s.record (.commit t) (some e))

/-- `dbContext.RollbackTx`: `container.tx` is cleared only when the driver's `Rollback`
    succeeds. -/
def rollbackTx (s : DbState) : Option Error × DbState :=
  match s.tx with
  | none => (some ErrDatabaseTxDidNotBegin, s)
  | some t =>
    match drv.answer s.log (.rollback t) with
    | none => (none, { s.record (.rollback t) none with tx := none })
    | some e => (some e, s.record (.rollback t) (some e))

/-- `EndTx`: commit if no error is presented, otherwise roll back and return the error; a
    failed rollback is only logged. -/
def endTx (err : Option Error) (s : DbState) : Option Error × DbState :=
  match err with
  | some e => (some e, (rollbackTx drv s).2)
  | none => commitTx drv s

/-- `WithTx`: begin, run `do`, end. -/
def withTx (body : DbState → Except Panic (Option Error × DbState)) (s : DbState) :
    Except Panic (Option Error × DbState) :=
  match beginTx drv s with
  | .error p => .error p
  | .ok (some e, s') => .ok (some e, s')
  | .ok (none, s') =>
    match body s' with
    | .error p => .error p
    | .ok (err, s'') => .ok (endTx drv err s'')

/-- `WithTx` on a `do` that also writes to the HTTP response, as the web handlers' `do` does:
    what `do` wrote comes out beside `WithTx`'s result. `do` runs only after `BeginTx` succeeds,
    and `BeginTx` and `EndTx` write nothing. -/
def withTxWriting {ω : Type} (body : DbState → Except Panic ((Option Error × List ω) × DbState))
    (s : DbState) : Except Panic (Option Error × List ω × DbState) :=
  match beginTx drv s with
  | .error p => .error p
  | .ok (some e, s') => .ok (some e, [], s')
  | .ok (none, s') =>
    match body s' with
    | .error p => .error p
    | .ok ((err, written), s'') => .ok ((endTx drv err s'').1, written, (endTx drv err s'').2)

/-- Forgetting the writes, `withTxWriting` is `withTx`. -/
theorem withTxWriting_forget {ω : Type}
    (body : DbState → Except Panic ((Option Error × List ω) × DbState)) (s : DbState) :
    (withTxWriting drv body s).map (fun r => (r.1, r.2.2)) =
      withTx drv (fun s => (body s).map fun r => (r.1.1, r.2)) s := by
  unfold withTxWriting withTx
  rcases beginTx drv s with p | ⟨_ | e, s'⟩
  · rfl
  · dsimp only
    rcases body s' with p | ⟨⟨err, written⟩, s''⟩ <;> rfl
  · rfl

/-! ## 3. Transaction bodies -/

/-- The `do` of a `WithTx`: Go code that uses the container through `DB`, `HasTx`, `EnsureTx`
    and nested `WithTx` calls, branching on what they return, and finally returns an error or
    nil. Work that does not touch the container is not represented. -/
inductive Body where
  | ret (err : Option Error)
  | withTx (inner : Body) (k : Option Error → Body)
  | hasTx (k : Bool → Body)
  | ensureTx (k : Body)
  | DB (k : ExtContext → Body)

/-- Running a body against the container. -/
def Body.run : Body → DbState → Except Panic (Option Error × DbState)
  | .ret err, s => .ok (err, s)
  | .withTx inner k, s =>
    match Db.withTx drv inner.run s with
    | .error p => .error p
    | .ok (e, s') => (k e).run s'
  | .hasTx k, s => (k (Db.hasTx s)).run s
  | .ensureTx k, s =>
    match Db.ensureTx s with
    | .error p => .error p
    | .ok () => k.run s
  | .DB k, s =>
    match Db.DB drv s with
    | .error p => .error p
    | .ok (x, s') => (k x).run s'

/-! ## 4. With a transaction open

What a transaction body can do to the container, said once: with a transaction open, each
method that a body may call answers without touching the container or the driver. -/

variable {drv} {s : DbState} {t : Nat}

theorem lazydb_tx {d : Nat} {s' : DbState} (h : lazydb drv s = .ok (d, s')) : s'.tx = s.tx := by
  unfold lazydb at h
  split at h
  · cases h; rfl
  · split at h <;> cases h; rfl

theorem beginTx_of_tx (h : s.tx = some t) :
    beginTx drv s = .ok (some ErrDatabaseTxDidBegin, s) := by
  simp [beginTx, h]

theorem withTx_of_tx (body : DbState → Except Panic (Option Error × DbState))
    (h : s.tx = some t) : withTx drv body s = .ok (some ErrDatabaseTxDidBegin, s) := by
  simp [withTx, beginTx_of_tx h]

theorem DB_of_tx (h : s.tx = some t) : DB drv s = .ok (.tx t, s) := by
  simp [DB, h]

theorem ensureTx_of_tx (h : s.tx = some t) : ensureTx s = .ok () := by
  simp [ensureTx, h]

/-- With a transaction open, a body — nested `WithTx` calls included — returns and leaves the
    container and the driver's history as they were. -/
theorem Body.run_of_tx (h : s.tx = some t) : ∀ b : Body, ∃ e, b.run drv s = .ok (e, s)
  | .ret err => ⟨err, rfl⟩
  | .withTx inner k => by
    simpa [Body.run, withTx_of_tx _ h] using Body.run_of_tx h (k (some ErrDatabaseTxDidBegin))
  | .hasTx k => by simpa [Body.run] using Body.run_of_tx h (k (Db.hasTx s))
  | .ensureTx k => by simpa [Body.run, ensureTx_of_tx h] using Body.run_of_tx h k
  | .DB k => by simpa [Body.run, DB_of_tx h] using Body.run_of_tx h (k (.tx t))

/-! ## 5. What `WithTx` leaves behind -/

/-- The transaction whose commit or rollback the driver refused in its last answer, if any. -/
def refusedEnd (s : DbState) : Option Nat :=
  match s.log.getLast? with
  | some (.commit t, some _) => some t
  | some (.rollback t, some _) => some t
  | _ => none

/-- From a container with no transaction, `BeginTx` panics, or the driver refuses it and the
    container stays empty, or it opens a transaction. -/
theorem beginTx_of_none (h : s.tx = none) :
    (∃ p, beginTx drv s = .error p) ∨
    (∃ e s', beginTx drv s = .ok (some e, s') ∧ s'.tx = none ∧ refusedEnd s' = none) ∨
    (∃ s', beginTx drv s = .ok (none, s') ∧ s'.tx.isSome) := by
  rcases hl : lazydb drv s with p | ⟨d, s₁⟩
  · exact .inl ⟨p, by simp [beginTx, h, hl]⟩
  have h₁ : s₁.tx = none := by rw [lazydb_tx hl, h]
  rcases ha : drv.answer s₁.log .begin with _ | e
  · exact .inr (.inr ⟨{ s₁.record .begin none with tx := some s₁.log.length },
      by simp [beginTx, h, hl, ha], rfl⟩)
  · exact .inr (.inl ⟨e, s₁.record .begin (some e), by simp [beginTx, h, hl, ha],
      by simpa using h₁, by simp [refusedEnd]⟩)

theorem endTx_tx_eq_refusedEnd (err : Option Error) (h : s.tx = some t) :
    (endTx drv err s).2.tx = refusedEnd (endTx drv err s).2 := by
  cases err <;>
  · simp only [endTx, commitTx, rollbackTx, h]
    split <;> simp [refusedEnd, h]

/-- `WithTx` on a container with no transaction leaves exactly the transaction whose commit or
    rollback the driver has just refused, and none otherwise: every nesting of `WithTx` calls in
    the body, and every answer of the driver. -/
theorem withTx_tx_eq_refusedEnd (b : Body) (h : s.tx = none) {err : Option Error}
    {s' : DbState} (hw : withTx drv (b.run drv) s = .ok (err, s')) : s'.tx = refusedEnd s' := by
  rcases @beginTx_of_none drv _ h with ⟨p, hb⟩ | ⟨e, s₁, hb, h₁, hr⟩ | ⟨s₁, hb, h₁⟩
  · simp [withTx, hb] at hw
  · simp only [withTx, hb, Except.ok.injEq, Prod.mk.injEq] at hw
    rw [← hw.2, h₁, hr]
  · obtain ⟨t, ht⟩ := Option.isSome_iff_exists.mp h₁
    obtain ⟨e, he⟩ := @Body.run_of_tx drv _ _ ht b
    simp only [withTx, hb, he, Except.ok.injEq] at hw
    obtain rfl : s' = (endTx drv e s₁).2 := by rw [hw]
    exact endTx_tx_eq_refusedEnd e ht

/-- A driver that refuses a commit: `WithTx` on an empty container returns, and the container
    still holds the finished transaction. -/
theorem withTx_keeps_tx_on_refused_commit :
    let drv : Driver := ⟨fun _ c => if c = .commit 1 then some (.new "commit failed") else none⟩
    ∃ err s', withTx drv ((Body.ret none).run drv) ⟨none, none, []⟩ = .ok (err, s') ∧
      hasTx s' = true :=
  ⟨_, _, rfl, rfl⟩

/-- A nested `WithTx` answers `ErrDatabaseTxDidBegin`, the body returns it, and the driver
    refuses the rollback: the container keeps that transaction. -/
theorem withTx_nested_keeps_refused_rollback :
    let drv : Driver :=
      ⟨fun _ c => if c = .rollback 1 then some (.new "rollback failed") else none⟩
    let s' : DbState :=
      ⟨some 0, some 1,
        [(.open, none), (.begin, none), (.rollback 1, some (.new "rollback failed"))]⟩
    (⟨none, none, []⟩ : DbState).tx = none ∧
      withTx drv ((Body.withTx (.ret none) .ret).run drv) ⟨none, none, []⟩ =
        .ok (some ErrDatabaseTxDidBegin, s') ∧
      s'.tx = refusedEnd s' := by
  intro drv s'
  have hw : withTx drv ((Body.withTx (.ret none) .ret).run drv) ⟨none, none, []⟩ =
      .ok (some ErrDatabaseTxDidBegin, s') := rfl
  exact ⟨rfl, hw, withTx_tx_eq_refusedEnd _ rfl hw⟩

end Db
end Skygear
