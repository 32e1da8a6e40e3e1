import Mathlib.Data.List.Sort
import Skygear.Core.Go

/-!
# The user verification store (`userverify.Store`)

The store keeps the codes sent to users to verify a login ID in the table `verify_code`.
`CreateVerifyCode` inserts a code, `MarkConsumed` sets `consumed` on the code of an ID, and
`GetVerifyCodeByUser` reads the user's newest code (`ORDER BY created_at desc`, first row).

As for the password provider, the database is the log of the writes the store sent, each with
the database's answer, and the table is what the accepted writes compute, one after another
(`table`). The log is the order in which the database ran the writes, so a statement over every
log is a statement over every interleaving of the requests that call the store. Everything about
the table follows from one composition law, `table_append`: after more writes `l`, the old rows
are still there, in place, changed only by `l`'s consumptions, and `l`'s inserts follow them.

The select is answered by an `Executor`; an honest one answers the user's rows newest first, in
any order among rows created at the same time.

`VerifyCode` and `ErrCodeNotFound` are declared outside `src/`; the fields are the columns the
store writes and reads, and `created_at` is kept as the number the ordering compares.
-/

set_option autoImplicit false

namespace Skygear
namespace Auth
namespace UserVerify

/-! ## 1. Codes, writes and the store -/

/-- A `VerifyCode`, as the columns of `verify_code` hold it. -/
structure VerifyCode where
  id : String
  userID : String
  loginIDKey : String
  loginID : String
  code : String
  consumed : Bool
  createdAt : Nat
  deriving DecidableEq, Repr

/-- `VerifyCode{}`: the value `GetVerifyCodeByUser` scans into. -/
def VerifyCode.zero : VerifyCode := ⟨"", "", "", "", "", false, 0⟩

/-- `ErrCodeNotFound`. -/
def ErrCodeNotFound : Error := .sentinel "userverify.ErrCodeNotFound"

/-- A write the store sends. -/
inductive Write where
  /-- `INSERT INTO verify_code (id, user_id, ..., created_at) VALUES (...)`. -/
  | insert (code : VerifyCode)
  /-- `UPDATE verify_code SET consumed = true WHERE id = ?`. -/
  | markConsumed (codeID : String)
  deriving DecidableEq, Repr

/-- The writes the database has run, in order, each with its answer (nil: done). -/
abbrev Log := List (Write × Option Error)

/-- The database, as far as writes go: the error (or nil) it answers to a write after `log`. -/
structure Store where
  answer : Log → Write → Option Error

section Writes

variable (st : Store)

/-- `ExecWith`: one write, answered by the database and recorded. -/
def exec (w : Write) (log : Log) : Option Error × Log :=
  let ans := st.answer log w
  (ans, log ++ [(w, ans)])

/-- `CreateVerifyCode`. -/
def createVerifyCode (code : VerifyCode) (log : Log) : Option Error × Log :=
  exec st (.insert code) log

/-- `MarkConsumed`. -/
def markConsumed (codeID : String) (log : Log) : Option Error × Log :=
  exec st (.markConsumed codeID) log

theorem createVerifyCode_of_accepted {code : VerifyCode} {log : Log}
    (h : (createVerifyCode st code log).1 = none) :
    (createVerifyCode st code log).2 = log ++ [(.insert code, none)] := by
  simp only [createVerifyCode, exec] at h ⊢
  rw [h]

end Writes

/-! ## 2. The table -/

/-- `consumed = true` on the row of `codeID`. -/
def consume (codeID : String) (code : VerifyCode) : VerifyCode :=
  if code.id = codeID then { code with consumed := true } else code

/-- What one answered write does to `verify_code`: an accepted insert adds its row after the
    others, an accepted `MarkConsumed` sets `consumed` on every row of its ID, and a write the
    database refused changes nothing. -/
def applyWrite (rows : List VerifyCode) : Write × Option Error → List VerifyCode
  | (.insert code, none) => rows ++ [code]
  | (.markConsumed codeID, none) => rows.map (consume codeID)
  | (_, some _) => rows

/-- The table after the writes of `log`. -/
def table (log : Log) : List VerifyCode := log.foldl applyWrite []

/-- A row as the writes `l` leave it: consumed if it was, or if `l` marks its ID and the
    database ran that update. -/
def consumedBy (l : Log) (code : VerifyCode) : VerifyCode :=
  { code with consumed := code.consumed || decide ((Write.markConsumed code.id, none) ∈ l) }

@[simp] theorem consumedBy_id (l : Log) (code : VerifyCode) : (consumedBy l code).id = code.id :=
  rfl

@[simp] theorem consumedBy_userID (l : Log) (code : VerifyCode) :
    (consumedBy l code).userID = code.userID :=
  rfl

@[simp] theorem consumedBy_createdAt (l : Log) (code : VerifyCode) :
    (consumedBy l code).createdAt = code.createdAt :=
  rfl

/-- A consumption, then the later writes, is the row as all of them leave it. -/
theorem consumedBy_consume (codeID : String) (l : Log) (code : VerifyCode) :
    consumedBy l (consume codeID code) = consumedBy ((.markConsumed codeID, none) :: l) code := by
  by_cases h : code.id = codeID <;> simp [consume, consumedBy, h]

@[simp] theorem consumedBy_nil : consumedBy [] = id := by
  funext code
  simp [consumedBy]

theorem consumedBy_cons_of_ne {w : Write} {ans : Option Error} (l : Log)
    (h : ∀ codeID, (w, ans) ≠ (.markConsumed codeID, none)) :
    consumedBy ((w, ans) :: l) = consumedBy l := by
  funext code
  simp only [consumedBy, List.mem_cons, (h code.id).symm, false_or]

/-- Running `l` on any rows: the rows, each as `l` leaves it, then the rows `l` inserts. -/
theorem foldl_applyWrite : ∀ (l : Log) (rows : List VerifyCode),
    l.foldl applyWrite rows = rows.map (consumedBy l) ++ table l
  | [], rows => by simp [table]
  | (.insert code, none) :: l, rows => by
    have hl : consumedBy ((.insert code, none) :: l) = consumedBy l :=
      consumedBy_cons_of_ne l fun _ h => by cases h
    show l.foldl applyWrite (rows ++ [code]) = _ ++ l.foldl applyWrite ([] ++ [code])
    rw [hl, foldl_applyWrite l, foldl_applyWrite l, List.map_append, List.nil_append,
      List.append_assoc]
  | (.markConsumed codeID, none) :: l, rows => by
    show l.foldl applyWrite (rows.map (consume codeID)) =
      _ ++ l.foldl applyWrite (([] : List VerifyCode).map (consume codeID))
    rw [foldl_applyWrite l, foldl_applyWrite l, List.map_map, List.map_nil, List.map_nil,
      List.nil_append]
    congr 1
    exact List.map_congr_left fun code _ => consumedBy_consume codeID l code
  | (w, some e) :: l, rows => by
    have hl : consumedBy ((w, some e) :: l) = consumedBy l :=
      consumedBy_cons_of_ne l fun _ h => by cases h
    have hw : ∀ rows, applyWrite rows (w, some e) = rows := by cases w <;> intro <;> rfl
    rw [table, List.foldl_cons, List.foldl_cons, hw, hw, foldl_applyWrite l, hl]
    rfl

/-- The composition law of the table: after `log ++ l`, the rows of `log` as `l` leaves them,
    then the rows `l` inserts. -/
theorem table_append (log l : Log) : table (log ++ l) = (table log).map (consumedBy l) ++ table l := by
  rw [table, List.foldl_append]
  exact foldl_applyWrite l _

theorem table_cons_insert (code : VerifyCode) (l : Log) :
    table ((.insert code, none) :: l) = consumedBy l code :: table l := by
  rw [table, List.foldl_cons]
  exact foldl_applyWrite l [code]

/-! ## 3. `GetVerifyCodeByUser` -/

/-- The rows of `userID` in the table. -/
def codesOf (log : Log) (userID : String) : List VerifyCode :=
  (table log).filter (·.userID = userID)

/-- `sqlExecutor`: the rows of `SELECT ... FROM verify_code WHERE user_id = ? ORDER BY
    created_at desc` after the writes `log`, or the query's error. -/
structure Executor where
  codesOfUser : Log → String → Except Error (List VerifyCode)

/-- The executor answers the select as the database does after `log`: the user's rows, newest
    first, rows created at the same time in any order. -/
def Executor.Honest (ex : Executor) (log : Log) : Prop :=
  ∀ userID, ∃ rows, ex.codesOfUser log userID = .ok rows ∧ rows.Perm (codesOf log userID) ∧
    rows.Sorted fun a b => b.createdAt ≤ a.createdAt

/-- An executor that answers from the table, sorted. -/
def Executor.ofTables : Executor :=
  ⟨fun log userID => .ok ((codesOf log userID).mergeSort fun a b => b.createdAt ≤ a.createdAt)⟩

theorem Executor.ofTables_honest (log : Log) : Executor.ofTables.Honest log := by
  intro userID
  refine ⟨_, rfl, List.mergeSort_perm _ _,
    (List.sorted_mergeSort ?_ ?_ _).imp fun h => of_decide_eq_true h⟩
  · intro a b c hab hbc
    simp only [decide_eq_true_eq] at hab hbc ⊢
    omega
  · intro a b
    simp only [Bool.or_eq_true, decide_eq_true_eq]
    omega

section Get

variable (ex : Executor)

/-- `GetVerifyCodeByUser`: the first row of the select. The scanned `VerifyCode{}` is returned
    with the error when there is no row; a failed query returns nil. -/
def getVerifyCodeByUser (userID : String) (log : Log) : Option VerifyCode × Option Error :=
  match ex.codesOfUser log userID with
  | .error err => (none, some err)
  | .ok [] => (some VerifyCode.zero, some ErrCodeNotFound)
  | .ok (verifyCode :: _) => (some verifyCode, none)

variable {ex} {log : Log}

/-- Over an honest database, `GetVerifyCodeByUser` answers the user's newest code, or, when the
    user has none, the zero code with `ErrCodeNotFound`. -/
theorem getVerifyCodeByUser_of_honest (hex : ex.Honest log) (userID : String) :
    (codesOf log userID = [] ∧
        getVerifyCodeByUser ex userID log = (some VerifyCode.zero, some ErrCodeNotFound)) ∨
      ∃ code ∈ codesOf log userID, getVerifyCodeByUser ex userID log = (some code, none) ∧
        ∀ c ∈ codesOf log userID, c.createdAt ≤ code.createdAt := by
  obtain ⟨rows, hq, hperm, hsorted⟩ := hex userID
  simp only [getVerifyCodeByUser, hq]
  cases rows with
  | nil => exact .inl ⟨hperm.nil_eq.symm, rfl⟩
  | cons code rows =>
    refine .inr ⟨code, hperm.subset (List.mem_cons_self _ _), rfl, fun c hc => ?_⟩
    rcases List.mem_cons.1 (hperm.symm.subset hc) with rfl | hc
    · exact le_rfl
    · exact List.rel_of_sorted_cons hsorted c hc

/-- A code the database stored is what `GetVerifyCodeByUser` answers for its user, after any
    writes of any requests, as long as every other code of the user, stored before or after it,
    is older: the code as stored, consumed once a `MarkConsumed` of its ID has run. -/
theorem getVerifyCodeByUser_after_create (st : Store) (code : VerifyCode) (l : Log)
    (hcreated : (createVerifyCode st code log).1 = none)
    (hex : ex.Honest ((createVerifyCode st code log).2 ++ l))
    (hbefore : ∀ c ∈ table log, c.userID = code.userID → c.createdAt < code.createdAt)
    (hafter : ∀ c ∈ table l, c.userID = code.userID → c.createdAt < code.createdAt) :
    getVerifyCodeByUser ex code.userID ((createVerifyCode st code log).2 ++ l) =
      (some { code with
        consumed := code.consumed || decide ((Write.markConsumed code.id, none) ∈ l) }, none) := by
  have htable : table ((createVerifyCode st code log).2 ++ l) =
      (table log).map (consumedBy ((.insert code, none) :: l)) ++ consumedBy l code :: table l := by
    rw [createVerifyCode_of_accepted st hcreated, List.append_assoc, List.singleton_append,
      table_append, table_cons_insert]
  have hmem : consumedBy l code ∈ codesOf ((createVerifyCode st code log).2 ++ l) code.userID := by
    simp [codesOf, htable]
  have holder : ∀ c ∈ codesOf ((createVerifyCode st code log).2 ++ l) code.userID,
      c = consumedBy l code ∨ c.createdAt < code.createdAt := by
    intro c hc
    simp only [codesOf, htable, List.mem_filter, List.mem_append, List.mem_map, List.mem_cons,
      decide_eq_true_eq] at hc
    obtain ⟨⟨old, hold, rfl⟩ | rfl | hnew, hu⟩ := hc
    · exact .inr (hbefore old hold hu)
    · exact .inl rfl
    · exact .inr (hafter c hnew hu)
  rcases getVerifyCodeByUser_of_honest hex code.userID with ⟨hnil, -⟩ | ⟨latest, hl, hres, hmax⟩
  · simp [hnil] at hmem
  · rw [hres]
    rcases holder latest hl with rfl | hlt
    · rfl
    · have := hmax _ hmem
      simp only [consumedBy_createdAt] at this
      omega

/-- Two codes for one user, the newer one then consumed: its lookup answers it, consumed. -/
theorem getVerifyCodeByUser_after_create_consumed :
    let st : Store := ⟨fun _ _ => none⟩
    let code : VerifyCode := ⟨"code-2", "user", "email", "a@example.com", "654321", false, 2⟩
    let log : Log := [(.insert ⟨"code-1", "user", "email", "a@example.com", "123456", false, 1⟩, none)]
    let l : Log := [(.markConsumed "code-2", none)]
    (createVerifyCode st code log).1 = none ∧
      (∀ c ∈ table log, c.userID = code.userID → c.createdAt < code.createdAt) ∧
      (∀ c ∈ table l, c.userID = code.userID → c.createdAt < code.createdAt) ∧
      getVerifyCodeByUser Executor.ofTables code.userID ((createVerifyCode st code log).2 ++ l) =
        (some { code with consumed := true }, none) := by
  intro st code log l
  exact ⟨rfl, by decide, by decide, getVerifyCodeByUser_after_create st code l rfl
    (Executor.ofTables_honest _) (by decide) (by decide)⟩

end Get

end UserVerify
end Auth
end Skygear
