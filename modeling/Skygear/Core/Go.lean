import Mathlib.Data.List.Basic

/-!
# Go values the rest of the model is written in

The server is Go, and three features of Go show up in every function this development
embeds: `error` values, which are ordinary results inspected with `errors.Is` and
`errors.Unwrap`; `panic`, which leaves a function without a result; and calls to
collaborators (stores, resolvers, the next handler), whose order and number some properties
are about.

* `Error` is a Go `error` value: a sentinel compared by identity, an error built on the spot,
  a driver error with its SQLSTATE code, or a wrapper that `errors.Unwrap` opens.
* `Run γ α` is one run of Go code: the calls it made (of type `γ`), in order, and how it ended —
  with a value, or with a panic. A panic keeps the calls made before it, as Go does.
* `queryRow` is `database/sql`'s `QueryRow(...).Scan`: the first row a query answers, or
  `sql.ErrNoRows`.

Nothing here is about the server yet; it is the vocabulary the modules after it use.
-/

set_option autoImplicit false

namespace Skygear

/-! ## 1. `error` values -/

/-- A Go `error` value, as this repository builds and inspects them. -/
inductive Error where
  /-- A package-level sentinel (`var ErrX = errors.New(...)`), compared by identity. -/
  | sentinel (name : String)
  /-- An error built on the spot: `errors.New(text)`, or `fmt.Errorf` without `%w`. -/
  | new (text : String)
  /-- A `*pq.Error` from the PostgreSQL driver, carrying its SQLSTATE code. -/
  | pq (code : String)
  /-- A wrapper that `errors.Unwrap` opens: `fmt.Errorf("...: %w", cause)` and the like. -/
  | wrap (text : String) (cause : Error)
  deriving DecidableEq, Repr

namespace Error

/-- `errors.Unwrap`: the cause of a wrapper, nothing otherwise. -/
def unwrap : Error → Option Error
  | .wrap _ cause => some cause
  | _ => none

/-- `errors.Is(e, target)`: `e` or some error down its `Unwrap` chain is `target`. -/
def is : Error → Error → Bool
  | .wrap text cause, target => .wrap text cause == target || cause.is target
  | e, target => e == target

@[simp] theorem is_self (e : Error) : e.is e = true := by
  cases e <;> simp [is]

end Error

/-- `errors.Is(err, target)` for a Go `error` that may be nil: a nil error is no error. -/
def isErr (err : Option Error) (target : Error) : Bool :=
  match err with
  | some e => e.is target
  | none => false

@[simp] theorem isErr_none (target : Error) : isErr none target = false := rfl
@[simp] theorem isErr_some (e target : Error) : isErr (some e) target = e.is target := rfl

/-! ## 2. Runs: calls made, and a value or a panic -/

/-- Why a run panicked. -/
inductive Panic where
  /-- A method called through a nil interface value: Go's nil pointer dereference. -/
  | nilDereference
  /-- `panic(err)` on an error value. -/
  | error (e : Error)
  deriving DecidableEq, Repr

/-- Runs are compared by their results, so that a run on fixed inputs can be checked. -/
instance instDecidableEqExcept {ε α : Type} [DecidableEq ε] [DecidableEq α] :
    DecidableEq (Except ε α)
  | .error a, .error b => decidable_of_iff (a = b) (by simp)
  | .ok a, .ok b => decidable_of_iff (a = b) (by simp)
  | .error _, .ok _ => isFalse (by simp)
  | .ok _, .error _ => isFalse (by simp)

/-- `Except`'s `bind` and `map` on each constructor: how a fallible Go function's early return
    reads. -/
@[simp] theorem Except.bind_ok {ε α β : Type} (a : α) (f : α → Except ε β) :
    (Except.ok a >>= f) = f a := rfl

@[simp] theorem Except.bind_error {ε α β : Type} (e : ε) (f : α → Except ε β) :
    (Except.error e >>= f) = Except.error e := rfl

@[simp] theorem Except.map_ok {ε α β : Type} (a : α) (f : α → β) :
    (f <$> Except.ok a : Except ε β) = Except.ok (f a) := rfl

@[simp] theorem Except.map_error {ε α β : Type} (e : ε) (f : α → β) :
    (f <$> Except.error e : Except ε β) = Except.error e := rfl

/-- One run of Go code against its collaborators: the calls it made, in order, and how it
    ended. The calls are kept when it panics. -/
structure Run (γ : Type) (α : Type) where
  calls : List γ
  result : Except Panic α
  deriving DecidableEq, Repr

namespace Run

variable {γ α β : Type}

/-- Sequencing: the second run starts only if the first one returned. -/
def bind (x : Run γ α) (f : α → Run γ β) : Run γ β :=
  match x.result with
  | .ok a => ⟨x.calls ++ (f a).calls, (f a).result⟩
  | .error p => ⟨x.calls, .error p⟩

instance : Monad (Run γ) where
  pure a := ⟨[], .ok a⟩
  bind := bind

/-- Record one call to a collaborator. -/
def call (c : γ) : Run γ Unit := ⟨[c], .ok ()⟩

/-- Go's `panic`. -/
def panic (p : Panic) : Run γ α := ⟨[], .error p⟩

@[simp] theorem pure_eq (a : α) : (pure a : Run γ α) = ⟨[], .ok a⟩ := rfl

@[simp] theorem ok_bind (cs : List γ) (a : α) (f : α → Run γ β) :
    (⟨cs, .ok a⟩ : Run γ α) >>= f = ⟨cs ++ (f a).calls, (f a).result⟩ := rfl

@[simp] theorem error_bind (cs : List γ) (p : Panic) (f : α → Run γ β) :
    (⟨cs, .error p⟩ : Run γ α) >>= f = ⟨cs, .error p⟩ := rfl

@[simp] theorem call_eq (c : γ) : (call c : Run γ Unit) = ⟨[c], .ok ()⟩ := rfl

@[simp] theorem panic_eq (p : Panic) : (panic p : Run γ α) = ⟨[], .error p⟩ := rfl

end Run

/-! ## 3. `database/sql` -/

/-- `sql.ErrNoRows`. -/
def ErrNoRows : Error := .sentinel "sql.ErrNoRows"

/-- `QueryRow(...).Scan(...)`: the first row of the query's answer, `sql.ErrNoRows` when there
    is none, or the query's error. -/
def queryRow {α : Type} : Except Error (List α) → Except Error α
  | .error err => .error err
  | .ok [] => .error ErrNoRows
  | .ok (row :: _) => .ok row

end Skygear
