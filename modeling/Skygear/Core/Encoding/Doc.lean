import Mathlib.Data.List.Chain
import Skygear.Core.Go
import Skygear.Core.GoMap

/-!
# Documents, and Go's `interface{}` values

The configuration is read from JSON (`encoding/json`) and from YAML (`gopkg.in/yaml.v2`), and
written back as JSON. Both decoders work on a parsed document; `Doc` is that document — after
YAML has resolved each plain scalar to a boolean, an integer, a float or a string — and the
model starts from it: the byte-level syntax of either format, and the guarantee that
`json.Marshal`'s bytes parse back to the document it printed, are not modelled.

`Dyn` is a Go `interface{}` value as the two decoders build it. They differ there: JSON makes
every number a `float64` and every object a `map[string]interface{}`, YAML keeps integers as
`int` and makes every mapping a `map[interface{}]interface{}` — which `json.Marshal` refuses.
YAML also has literals for the infinities and NaN, which JSON has not, and `json.Marshal`
refuses those floats too.

`Format` collects every point where the two decoders differ, so that one decoder, written once
in `Skygear.Core.Encoding.Reflect`, is both.
-/

set_option autoImplicit false

namespace Skygear
namespace Encoding

/-! ## 1. Documents -/

/-- A number literal: an integer literal, or any other literal (with a fraction or an exponent),
    kept as its text. -/
inductive Number where
  | int (n : Int)
  | other (text : String)
  deriving DecidableEq, Repr

/-- The float a YAML literal resolves to, printed by `strconv.FormatFloat`, when that float is
    not finite: `yaml.v2` resolves `.inf` and `+.inf` to +Inf, `-.inf` to -Inf and `.nan` to NaN,
    each in three spellings. JSON has no such literal. -/
def Number.nonFiniteText : Number → Option String
  | .int _ => none
  | .other text =>
    if text ∈ [".inf", ".Inf", ".INF", "+.inf", "+.Inf", "+.INF"] then some "+Inf"
    else if text ∈ ["-.inf", "-.Inf", "-.INF"] then some "-Inf"
    else if text ∈ [".nan", ".NaN", ".NAN"] then some "NaN"
    else none

/-- A parsed JSON or YAML document. Mapping keys are strings: a YAML key that is another scalar
    is its text, which is what decoding it into a struct field name or a string map key sees. -/
inductive Doc where
  | null
  | bool (b : Bool)
  | num (x : Number)
  | str (s : String)
  | seq (items : List Doc)
  | map (members : List (String × Doc))
  deriving Repr

/-- The name of a document's kind, as the decoders' type errors print it. -/
def Doc.kind : Doc → String
  | .null => "null"
  | .bool _ => "bool"
  | .num _ => "number"
  | .str _ => "string"
  | .seq _ => "array"
  | .map _ => "object"

/-! ## 2. `interface{}` values -/

/-- A Go `interface{}` value built by a decoder. Maps are kept as entry lists in increasing key
    order with one entry per key, which is how the decoders build them (`insertEntry`). -/
inductive Dyn where
  | nil
  | bool (b : Bool)
  /-- A Go `int`: YAML's integers. -/
  | int (n : Int)
  /-- A Go `float64`, by the literal it was read from: JSON's numbers, YAML's floats. -/
  | float (x : Number)
  | string (s : String)
  /-- `[]interface{}`. -/
  | slice (items : List Dyn)
  /-- `map[string]interface{}`: JSON's objects. -/
  | stringMap (entries : List (String × Dyn))
  /-- `map[interface{}]interface{}`: YAML's mappings. -/
  | anyMap (entries : List (String × Dyn))
  deriving Repr

namespace Dyn

mutual
/-- Structural equality of `interface{}` values. -/
def beq : Dyn → Dyn → Bool
  | .nil, .nil => true
  | .bool a, .bool b => a == b
  | .int a, .int b => a == b
  | .float a, .float b => a == b
  | .string a, .string b => a == b
  | .slice as, .slice bs => beqItems as bs
  | .stringMap as, .stringMap bs => beqEntries as bs
  | .anyMap as, .anyMap bs => beqEntries as bs
  | _, _ => false
def beqItems : List Dyn → List Dyn → Bool
  | [], [] => true
  | a :: as, b :: bs => beq a b && beqItems as bs
  | _, _ => false
def beqEntries : List (String × Dyn) → List (String × Dyn) → Bool
  | [], [] => true
  | (k, a) :: as, (l, b) :: bs => k == l && beq a b && beqEntries as bs
  | _, _ => false
end

mutual
theorem beq_iff_eq : ∀ a b : Dyn, beq a b = true ↔ a = b
  | .nil, b => by
    cases b
    case nil => exact iff_of_true rfl rfl
    all_goals exact iff_of_false Bool.false_ne_true fun h => Dyn.noConfusion h
  | .bool a, b => by
    cases b
    case bool b => exact (show (a == b) = true ↔ _ by simp)
    all_goals exact iff_of_false Bool.false_ne_true fun h => Dyn.noConfusion h
  | .int a, b => by
    cases b
    case int b => exact (show (a == b) = true ↔ _ by simp)
    all_goals exact iff_of_false Bool.false_ne_true fun h => Dyn.noConfusion h
  | .float a, b => by
    cases b
    case float b => exact (show (a == b) = true ↔ _ by simp)
    all_goals exact iff_of_false Bool.false_ne_true fun h => Dyn.noConfusion h
  | .string a, b => by
    cases b
    case string b => exact (show (a == b) = true ↔ _ by simp)
    all_goals exact iff_of_false Bool.false_ne_true fun h => Dyn.noConfusion h
  | .slice as, b => by
    cases b
    case slice bs => exact (beqItems_iff_eq as bs).trans (by simp)
    all_goals exact iff_of_false Bool.false_ne_true fun h => Dyn.noConfusion h
  | .stringMap as, b => by
    cases b
    case stringMap bs => exact (beqEntries_iff_eq as bs).trans (by simp)
    all_goals exact iff_of_false Bool.false_ne_true fun h => Dyn.noConfusion h
  | .anyMap as, b => by
    cases b
    case anyMap bs => exact (beqEntries_iff_eq as bs).trans (by simp)
    all_goals exact iff_of_false Bool.false_ne_true fun h => Dyn.noConfusion h
theorem beqItems_iff_eq : ∀ as bs : List Dyn, beqItems as bs = true ↔ as = bs
  | [], [] => iff_of_true rfl rfl
  | [], _ :: _ => iff_of_false Bool.false_ne_true List.noConfusion
  | _ :: _, [] => iff_of_false Bool.false_ne_true List.noConfusion
  | a :: as, b :: bs =>
    (show (beq a b && beqItems as bs) = true ↔ _ by
      simp [beq_iff_eq a, beqItems_iff_eq as])
theorem beqEntries_iff_eq : ∀ as bs : List (String × Dyn), beqEntries as bs = true ↔ as = bs
  | [], [] => iff_of_true rfl rfl
  | [], _ :: _ => iff_of_false Bool.false_ne_true List.noConfusion
  | _ :: _, [] => iff_of_false Bool.false_ne_true List.noConfusion
  | (k, a) :: as, (l, b) :: bs =>
    (show (k == l && beq a b && beqEntries as bs) = true ↔ _ by
      simp [beq_iff_eq a, beqEntries_iff_eq as, and_assoc])
end

instance : DecidableEq Dyn := fun a b => decidable_of_iff (beq a b = true) (beq_iff_eq a b)

end Dyn

/-! ## 3. The two decoders' differences -/

/-- ASCII case folding, which `encoding/json` applies when it matches an object key to a field
    name. (Go also folds the Kelvin sign and the long s onto `k` and `s`; no key here is
    spelled with them.) -/
def foldKey (s : String) : List Char := s.toList.map Char.toLower

/-- What distinguishes one decoder from the other. -/
structure Format where
  /-- Whether an object key selects the struct field of a given name. -/
  keyMatches : String → String → Bool
  /-- A key selects only fields whose names fold alike: so a key selects at most one field of
      a struct whose field names fold apart. -/
  keyMatches_fold : ∀ k n m, keyMatches k n = true → keyMatches k m = true → foldKey n = foldKey m
  /-- A field name selects its own field when it is its own fold. -/
  keyMatches_self : ∀ n, foldKey n = n.toList → keyMatches n n = true
  /-- Whether `null` sets a string, a number or a struct to its zero value (YAML), or leaves it
      as it was (JSON). -/
  nullZeroes : Bool
  /-- Whether an array is decoded into the slice's existing elements (JSON) or into a fresh
      slice (YAML). -/
  sliceInPlace : Bool
  /-- The text a scalar that is not a string gives a string field, if the format allows it. -/
  scalarText : Doc → Option String
  /-- An integer decoded into `interface{}`. -/
  dynInt : Int → Dyn
  /-- A mapping decoded into `interface{}`, from its entries. -/
  dynMap : List (String × Dyn) → Dyn
  /-- The error for a document of the wrong kind for a Go type. -/
  typeError : Doc → String → Error

/-- `encoding/json`. -/
def json : Format where
  keyMatches key name := foldKey key == foldKey name
  keyMatches_fold k n m hn hm := by simp only [beq_iff_eq] at hn hm; rw [← hn, hm]
  keyMatches_self n _ := by simp
  nullZeroes := false
  sliceInPlace := true
  scalarText _ := none
  dynInt n := .float (.int n)
  dynMap := .stringMap
  typeError d goType :=
    .new ("json: cannot unmarshal " ++ d.kind ++ " into Go value of type " ++ goType)

@[simp] theorem json_nullZeroes : json.nullZeroes = false := rfl
@[simp] theorem json_sliceInPlace : json.sliceInPlace = true := rfl

/-- The text of a YAML scalar that is not a string. -/
def yamlScalarText : Doc → Option String
  | .bool b => some (toString b)
  | .num (.int n) => some (toString n)
  | .num (.other text) => some text
  | _ => none

/-- `gopkg.in/yaml.v2`. -/
def yaml : Format where
  keyMatches key name := key == name
  keyMatches_fold k n m hn hm := by simp only [beq_iff_eq] at hn hm; rw [← hn, ← hm]
  keyMatches_self n _ := by simp
  nullZeroes := true
  sliceInPlace := false
  scalarText := yamlScalarText
  dynInt := .int
  dynMap := .anyMap
  typeError d goType :=
    .new ("yaml: unmarshal errors: cannot unmarshal " ++ d.kind ++ " into " ++ goType)

/-! ## 4. Decoding into `interface{}`, and marshalling it -/

mutual
/-- A document decoded into `interface{}`. A mapping's later duplicate key wins. -/
def Format.dynOf (fmt : Format) : Doc → Dyn
  | .null => .nil
  | .bool b => .bool b
  | .num (.int n) => fmt.dynInt n
  | .num x => .float x
  | .str s => .string s
  | .seq items => .slice (fmt.dynOfItems items)
  | .map members => fmt.dynMap (fmt.dynOfMembers members [])
def Format.dynOfItems (fmt : Format) : List Doc → List Dyn
  | [] => []
  | d :: ds => fmt.dynOf d :: fmt.dynOfItems ds
def Format.dynOfMembers (fmt : Format) : List (String × Doc) → List (String × Dyn) →
    List (String × Dyn)
  | [], acc => acc
  | (k, d) :: ms, acc => fmt.dynOfMembers ms (GoMap.insertEntry k (fmt.dynOf d) acc)
end

mutual
/-- `json.Marshal` of an `interface{}` value; a float that is not finite and a
    `map[interface{}]interface{}` are refused. -/
def Dyn.encode : Dyn → Except Error Doc
  | .nil => .ok .null
  | .bool b => .ok (.bool b)
  | .int n => .ok (.num (.int n))
  | .float x =>
    match x.nonFiniteText with
    | some text => .error (.new ("json: unsupported value: " ++ text))
    | none => .ok (.num x)
  | .string s => .ok (.str s)
  | .slice items => .seq <$> Dyn.encodeItems items
  | .stringMap entries => .map <$> Dyn.encodeEntries entries
  | .anyMap _ => .error (.new "json: unsupported type: map[interface {}]interface {}")
def Dyn.encodeItems : List Dyn → Except Error (List Doc)
  | [] => .ok []
  | x :: xs => do
    let d ← x.encode
    let ds ← Dyn.encodeItems xs
    pure (d :: ds)
def Dyn.encodeEntries : List (String × Dyn) → Except Error (List (String × Doc))
  | [] => .ok []
  | (k, x) :: xs => do
    let d ← x.encode
    let ds ← Dyn.encodeEntries xs
    pure ((k, d) :: ds)
end

/-- YAML's `.inf`, decoded into `interface{}`, is a float that `json.Marshal` refuses. -/
example : Dyn.encode (yaml.dynOf (.num (.other ".inf"))) =
    .error (.new "json: unsupported value: +Inf") :=
  rfl

/-! ## 5. The values that survive JSON

`json.Marshal` followed by JSON decoding gives an `interface{}` value back when JSON decoding
could have built it: no `int` (JSON has only `float64`), no float that is not finite, no
`map[interface{}]interface{}`, and maps with one entry per key. -/

/-- The keys of an entry list are strictly increasing. -/
def keysAscending {α : Type} (entries : List (String × α)) : Bool :=
  decide ((entries.map fun e => e.1.toList).Chain' (· < ·))

theorem keysAscending_iff {α : Type} (entries : List (String × α)) :
    keysAscending entries = true ↔ (entries.map Prod.fst).Sorted (· < ·) := by
  have hmap : (entries.map fun e => e.1.toList) = (entries.map Prod.fst).map String.toList := by
    simp
  rw [keysAscending, decide_eq_true_iff, List.Sorted, ← List.chain'_iff_pairwise, hmap,
    List.chain'_map]
  simp only [String.lt_iff_toList_lt]

mutual
/-- A value JSON decoding can build. -/
def Dyn.isJson : Dyn → Bool
  | .int _ => false
  | .float x => x.nonFiniteText.isNone
  | .slice items => Dyn.isJsonItems items
  | .stringMap entries => keysAscending entries && Dyn.isJsonEntries entries
  | .anyMap _ => false
  | _ => true
def Dyn.isJsonItems : List Dyn → Bool
  | [] => true
  | x :: xs => x.isJson && Dyn.isJsonItems xs
def Dyn.isJsonEntries : List (String × Dyn) → Bool
  | [] => true
  | (_, x) :: xs => x.isJson && Dyn.isJsonEntries xs
end

mutual
/-- JSON decoding reads back what `json.Marshal` wrote for a value JSON decoding can build. -/
theorem Dyn.encode_dynOf : ∀ x : Dyn, x.isJson = true → ∃ d, x.encode = .ok d ∧ json.dynOf d = x
  | .nil, _ => ⟨.null, rfl, rfl⟩
  | .bool b, _ => ⟨.bool b, rfl, rfl⟩
  | .float (.int n), _ => ⟨.num (.int n), rfl, rfl⟩
  | .float (.other t), h => by
    simp only [Dyn.isJson, Option.isNone_iff_eq_none] at h
    exact ⟨.num (.other t), by simp [Dyn.encode, h], rfl⟩
  | .string s, _ => ⟨.str s, rfl, rfl⟩
  | .slice items, h => by
    obtain ⟨ds, he, hd⟩ := Dyn.encodeItems_dynOf items h
    exact ⟨.seq ds, by simp [Dyn.encode, he], by simp [Format.dynOf, hd]⟩
  | .stringMap entries, h => by
    simp only [Dyn.isJson, Bool.and_eq_true, keysAscending_iff] at h
    obtain ⟨ms, he, hd⟩ := Dyn.encodeEntries_dynOf entries h.2 [] (by simpa using h.1)
    exact ⟨.map ms, by simp [Dyn.encode, he], by rw [Format.dynOf, hd]; rfl⟩
theorem Dyn.encodeItems_dynOf : ∀ xs : List Dyn, Dyn.isJsonItems xs = true →
    ∃ ds, Dyn.encodeItems xs = .ok ds ∧ json.dynOfItems ds = xs
  | [], _ => ⟨[], rfl, rfl⟩
  | x :: xs, h => by
    simp only [Dyn.isJsonItems, Bool.and_eq_true] at h
    obtain ⟨d, he, hd⟩ := Dyn.encode_dynOf x h.1
    obtain ⟨ds, hes, hds⟩ := Dyn.encodeItems_dynOf xs h.2
    exact ⟨d :: ds, by simp [Dyn.encodeItems, he, hes], by simp [Format.dynOfItems, hd, hds]⟩
/-- The entries, read back in key order onto `acc`, whose keys are all below theirs. -/
theorem Dyn.encodeEntries_dynOf : ∀ es : List (String × Dyn), Dyn.isJsonEntries es = true →
    ∀ acc : List (String × Dyn), ((acc ++ es).map Prod.fst).Sorted (· < ·) →
      ∃ ms, Dyn.encodeEntries es = .ok ms ∧ json.dynOfMembers ms acc = acc ++ es
  | [], _, acc, _ => ⟨[], rfl, by simp [Format.dynOfMembers]⟩
  | (k, x) :: es, h, acc, hs => by
    simp only [Dyn.isJsonEntries, Bool.and_eq_true] at h
    obtain ⟨d, he, hd⟩ := Dyn.encode_dynOf x h.1
    have hlt : ∀ y ∈ acc.map Prod.fst, y < k := by
      simp only [List.map_append, List.map_cons, List.Sorted, List.pairwise_append,
        List.mem_cons] at hs
      exact fun y hy => hs.2.2 y hy k (.inl rfl)
    obtain ⟨ms, hes, hms⟩ := Dyn.encodeEntries_dynOf es h.2 (acc ++ [(k, x)]) (by simpa using hs)
    refine ⟨(k, d) :: ms, by simp [Dyn.encodeEntries, he, hes], ?_⟩
    rw [Format.dynOfMembers, hd, GoMap.insertEntry_of_lt hlt, hms]
    simp
end

end Encoding
end Skygear
