import Mathlib.Data.List.Pairwise
import Skygear.Core.GoSlice
import Skygear.Core.Encoding.Doc

/-!
# The decoders and the encoder, by reflection

`encoding/json` and `yaml.v2` read a document into a Go value by reflection on its type, and
`json.Marshal` writes one out the same way; each struct field is handled by its kind and its
tag. `Codec β` is what reflection does for one Go type `β`: decode a document onto the current
value, marshal a value, and the two facts the struct handling needs — the zero value and
`omitempty`'s emptiness test. Codecs are built for the kinds the configuration uses: strings,
`int`, `*int`, slices, string-keyed maps, `interface{}`, and structs. A slice or a map keeps
whether it is nil: `null` makes it nil, an array or an object makes it even when empty, and
`json.Marshal` writes a nil one as `null`.

A struct is a list of `Field`s, each with its tag's name and a getter and a setter. `Fields`
carries the laws every Go struct obeys — a setter changes its own field only, the fields cover
the struct, and no two names fold alike — so that the two results here are proved once for
every struct:

* `Codec.struct_roundTrips`: JSON-decoding what `json.Marshal` wrote, onto a base value, gives
  the value back when every field does, and every field that `omitempty` leaves out already
  holds the value's in the base;
* `Fields.get_decodeMembers`: a field of a decoded struct is what the members whose key selects
  it made of it, one after the other; every other member leaves it alone.
-/

set_option autoImplicit false

namespace Skygear
namespace Encoding

/-! ## 1. Codecs and fields -/

/-- What reflection does for one Go type. -/
structure Codec (β : Type) where
  /-- The zero value: what a map or slice element is decoded onto, and what YAML's `null`
      leaves. -/
  zero : β
  /-- `omitempty`'s test: false, 0, "", a nil pointer, an empty slice or map. -/
  isEmpty : β → Bool
  /-- Decoding a document onto the current value. -/
  decode : Format → Doc → β → Except Error β
  /-- `json.Marshal`. -/
  encode : β → Except Error Doc

/-- One struct field and its tag's name. -/
structure Field (α : Type) where
  name : String
  β : Type
  codec : Codec β
  get : α → β
  set : α → β → α

/-- The field `name` of type `β`. -/
def field {α β : Type} (name : String) (codec : Codec β) (get : α → β) (set : α → β → α) :
    Field α :=
  ⟨name, β, codec, get, set⟩

variable {α β : Type}

/-- Two distinct fields: setting either leaves the other as it was. -/
def Field.Independent (f g : Field α) : Prop :=
  (∀ a v, f.get (g.set a v) = f.get a) ∧ ∀ a v, g.get (f.set a v) = g.get a

theorem Field.Independent.symm {f g : Field α} (h : f.Independent g) : g.Independent f :=
  ⟨h.2, h.1⟩

/-- A Go struct's fields, with the laws they obey. -/
structure Fields (α : Type) where
  list : List (Field α)
  get_set : ∀ f ∈ list, ∀ a v, f.get (f.set a v) = v
  set_get : ∀ f ∈ list, ∀ a, f.set a (f.get a) = a
  independent : list.Pairwise Field.Independent
  /-- No two names fold alike, and each name is its own fold: the tags are distinct lower-case
      names. -/
  names : (list.map fun f => foldKey f.name).Nodup
  names_folded : ∀ f ∈ list, foldKey f.name = f.name.toList
  /-- Setting every field to a value's gives the value. -/
  cover : ∀ a b, list.foldl (fun acc f => f.set acc (f.get a)) b = a

/-! ## 2. The struct decoder and encoder -/

namespace Fields

variable (fs : Fields α) (fmt : Format)

/-- The field a member's key selects: the first whose name the key matches. -/
def select (key : String) : Option (Field α) :=
  fs.list.find? fun f => fmt.keyMatches key f.name

/-- One member of an object decoded onto the struct; a key that selects no field is skipped. -/
def decodeMember (a : α) (key : String) (d : Doc) : Except Error α :=
  match fs.select fmt key with
  | some f => f.set a <$> f.codec.decode fmt d (f.get a)
  | none => .ok a

/-- The members of an object, decoded onto the struct in order. -/
def decodeMembers : List (String × Doc) → α → Except Error α
  | [], a => .ok a
  | (key, d) :: ms, a => do
    let a ← fs.decodeMember fmt a key d
    decodeMembers ms a

end Fields

/-- The members `json.Marshal` writes for the fields, in order; `omitempty` leaves out the
    empty ones. -/
def encodeMembers : List (Field α) → α → Except Error (List (String × Doc))
  | [], _ => .ok []
  | f :: fs, a =>
    if f.codec.isEmpty (f.get a) then encodeMembers fs a
    else do
      let d ← f.codec.encode (f.get a)
      let rest ← encodeMembers fs a
      pure ((f.name, d) :: rest)

/-! ## 3. Codecs for each kind -/

/-- A string, or a named string type (`SMTPMode`, `LoginIDKeyType`, ...). -/
def Codec.string : Codec String where
  zero := ""
  isEmpty s := s == ""
  decode fmt d s :=
    match d with
    | .null => .ok (if fmt.nullZeroes then "" else s)
    | .str t => .ok t
    | d =>
      match fmt.scalarText d with
      | some t => .ok t
      | none => .error (fmt.typeError d "string")
  encode s := .ok (.str s)

/-- A Go `int` (or `int64`). Integers are not bounded in the model. -/
def Codec.int : Codec Int where
  zero := 0
  isEmpty n := n == 0
  decode fmt d n :=
    match d with
    | .null => .ok (if fmt.nullZeroes then 0 else n)
    | .num (.int m) => .ok m
    | d => .error (fmt.typeError d "int")
  encode n := .ok (.num (.int n))

/-- A pointer: `null` makes it nil; anything else is decoded into the pointee, allocated when
    the pointer is nil. -/
def Codec.ptr (c : Codec β) : Codec (Option β) where
  zero := none
  isEmpty := Option.isNone
  decode fmt d p :=
    match d with
    | .null => .ok none
    | d => some <$> c.decode fmt d (p.getD c.zero)
  encode
    | none => .ok .null
    | some x => c.encode x

/-- The items of an array decoded onto the elements `old` (JSON reuses the slice's elements;
    an element past them starts from the zero value). -/
def Codec.decodeItems (c : Codec β) (fmt : Format) : List Doc → List β → Except Error (List β)
  | [], _ => .ok []
  | d :: ds, old => do
    let x ← c.decode fmt d (old.headD c.zero)
    let xs ← c.decodeItems fmt ds old.tail
    pure (x :: xs)

/-- `json.Marshal` of each element, in order. -/
def Codec.encodeItems (c : Codec β) : List β → Except Error (List Doc)
  | [] => .ok []
  | x :: xs => do
    let d ← c.encode x
    let ds ← c.encodeItems xs
    pure (d :: ds)

/-- A slice: `null` makes it nil, and an array makes it, even an empty one, with the array's
    items (JSON decodes them onto the slice's existing elements). `json.Marshal` writes a nil
    slice as `null`. -/
def Codec.slice (c : Codec β) (goType : String) : Codec (GoSlice β) where
  zero := .nil
  isEmpty := GoSlice.isEmpty
  decode fmt d xs :=
    match d with
    | .null => .ok .nil
    | .seq items => .mk <$> c.decodeItems fmt items (if fmt.sliceInPlace then xs.items else [])
    | d => .error (fmt.typeError d goType)
  encode
    | .nil => .ok .null
    | .mk xs => .seq <$> c.encodeItems xs

/-- The entries of an object, each decoded onto the zero value and stored into the map. -/
def Codec.decodeEntries (c : Codec β) (fmt : Format) :
    List (String × Doc) → GoMap β → Except Error (GoMap β)
  | [], m => .ok m
  | (k, d) :: ms, m => do
    let v ← c.decode fmt d c.zero
    c.decodeEntries fmt ms (m.insert k v)

/-- `json.Marshal` of each entry, in key order. -/
def Codec.encodeEntries (c : Codec β) : List (String × β) → Except Error (List (String × Doc))
  | [] => .ok []
  | (k, v) :: es => do
    let d ← c.encode v
    let ds ← c.encodeEntries es
    pure ((k, d) :: ds)

/-- A `map[string]T`: `null` makes it nil, and an object's entries are stored into the map,
    made first when it is nil, keeping its other entries. `json.Marshal` writes a nil map as
    `null`, and a made one's entries in key order. -/
def Codec.map (c : Codec β) (goType : String) : Codec (GoMap β) where
  zero := GoMap.nil
  isEmpty := GoMap.isEmpty
  decode fmt d m :=
    match d with
    | .null => .ok GoMap.nil
    | .map ms => c.decodeEntries fmt ms m.alloc
    | d => .error (fmt.typeError d goType)
  encode m := if m.isNil then .ok .null else .map <$> c.encodeEntries m.entries

/-- `interface{}`: the document replaces the value. -/
def Codec.dyn : Codec Dyn where
  zero := .nil
  isEmpty x := x == .nil
  decode fmt d _ := .ok (fmt.dynOf d)
  encode := Dyn.encode

/-- A struct: an object's members are decoded onto its fields; a struct is never empty for
    `omitempty`. -/
def Codec.struct (zero : α) (fs : Fields α) (goType : String) : Codec α where
  zero := zero
  isEmpty _ := false
  decode fmt d a :=
    match d with
    | .null => .ok (if fmt.nullZeroes then zero else a)
    | .map ms => fs.decodeMembers fmt ms a
    | d => .error (fmt.typeError d goType)
  encode a := .map <$> encodeMembers fs.list a

/-! ## 4. Which field a key selects -/

theorem find?_eq_of_key {γ κ : Type*} [DecidableEq κ] (key : γ → κ) (p : γ → Bool) {x : γ} :
    ∀ {l : List γ}, (l.map key).Nodup → x ∈ l → p x = true →
      (∀ g ∈ l, p g = true → key g = key x) → l.find? p = some x
  | g :: l, hnd, hx, hpx, hkey => by
    simp only [List.map_cons, List.nodup_cons, List.mem_map, not_exists, not_and] at hnd
    by_cases hg : p g = true
    · rw [List.find?_cons_of_pos _ hg]
      rcases List.mem_cons.mp hx with rfl | hx
      · rfl
      · exact absurd (hkey g (List.mem_cons_self _ _) hg).symm (hnd.1 x hx)
    · rw [List.find?_cons_of_neg _ hg]
      have hx : x ∈ l := (List.mem_cons.mp hx).resolve_left (by rintro rfl; exact hg hpx)
      exact find?_eq_of_key key p hnd.2 hx hpx fun g' hg' => hkey g' (List.mem_cons_of_mem _ hg')

namespace Fields

variable (fs : Fields α) (fmt : Format) {f : Field α}

/-- A key that matches a field's name selects that field. -/
theorem select_of_keyMatches {key : String} (hf : f ∈ fs.list)
    (hk : fmt.keyMatches key f.name = true) : fs.select fmt key = some f := by
  unfold select
  exact find?_eq_of_key (fun g : Field α => foldKey g.name)
    (fun g : Field α => fmt.keyMatches key g.name) fs.names hf hk
    fun g _ hg => fmt.keyMatches_fold key g.name f.name hg hk

/-- The field a key selects is a field of the struct, and the key matches its name. -/
theorem select_spec {key : String} {g : Field α} (h : fs.select fmt key = some g) :
    g ∈ fs.list ∧ fmt.keyMatches key g.name = true := by
  unfold select at h
  have hk := List.find?_some h
  exact ⟨List.mem_of_find?_eq_some h, hk⟩

theorem select_name (hf : f ∈ fs.list) : fs.select fmt f.name = some f :=
  fs.select_of_keyMatches fmt hf (fmt.keyMatches_self _ (fs.names_folded f hf))

end Fields

/-! ## 5. A field of a decoded struct -/

/-- The members whose key matches a field's name, decoded onto the field in order. -/
def Field.decodeSelected (f : Field α) (fmt : Format) : List (String × Doc) → f.β → Except Error f.β
  | [], v => .ok v
  | (key, d) :: ms, v =>
    if fmt.keyMatches key f.name then do
      let v ← f.codec.decode fmt d v
      f.decodeSelected fmt ms v
    else f.decodeSelected fmt ms v

/-- One member decoded onto the struct: a field whose name the key matches takes the decoded
    value, and any other field is left alone. -/
theorem Fields.get_decodeMember (fs : Fields α) (fmt : Format) {f : Field α} (hf : f ∈ fs.list)
    {a a' : α} {key : String} {d : Doc} (h : fs.decodeMember fmt a key d = .ok a') :
    if fmt.keyMatches key f.name then f.codec.decode fmt d (f.get a) = .ok (f.get a')
    else f.get a' = f.get a := by
  unfold Fields.decodeMember at h
  split_ifs with hk
  · rw [fs.select_of_keyMatches fmt hf hk] at h
    dsimp only at h
    rcases hd : f.codec.decode fmt d (f.get a) with e | v <;> rw [hd] at h <;> cases h
    rw [fs.get_set f hf]
  · rcases hs : fs.select fmt key with _ | g <;> rw [hs] at h <;> dsimp only at h
    · cases h; rfl
    · obtain ⟨hg, hkg⟩ := fs.select_spec fmt hs
      have hind : f.Independent g := fs.independent.forall (fun _ _ h => h.symm) hf hg
        (by rintro rfl; exact hk hkg)
      rcases hd : g.codec.decode fmt d (g.get a) with e | v <;> rw [hd] at h <;> cases h
      exact hind.1 a v

/-- A field of a successfully decoded struct is what the members that select it made of it:
    the others, which select other fields or none, leave it alone. -/
theorem Fields.get_decodeMembers (fs : Fields α) (fmt : Format) {f : Field α} (hf : f ∈ fs.list) :
    ∀ (ms : List (String × Doc)) (a r : α), fs.decodeMembers fmt ms a = .ok r →
      f.decodeSelected fmt ms (f.get a) = .ok (f.get r)
  | [], a, r, h => by cases h; rfl
  | (key, d) :: ms, a, r, h => by
    rcases hm : fs.decodeMember fmt a key d with e | a'
    · rw [Fields.decodeMembers, hm] at h; cases h
    rw [Fields.decodeMembers, hm, Except.bind_ok] at h
    have ih := Fields.get_decodeMembers fs fmt hf ms a' r h
    have hone := fs.get_decodeMember fmt hf hm
    unfold Field.decodeSelected
    split_ifs at hone ⊢
    · rwa [hone, Except.bind_ok]
    · rwa [← hone]

/-! ## 6. Round trips through JSON -/

/-- JSON-decoding what `json.Marshal` writes for `x`, onto `base`, gives `x` back. -/
def Codec.RoundTrips (c : Codec β) (x base : β) : Prop :=
  ∃ d, c.encode x = .ok d ∧ c.decode json d base = .ok x

/-- What a struct round trip needs of a field: left out by `omitempty`, the base already holds
    the value's; written out, it round-trips. -/
def Field.RoundTrips (f : Field α) (x base : α) : Prop :=
  if f.codec.isEmpty (f.get x) then f.get x = f.get base
  else f.codec.RoundTrips (f.get x) (f.get base)

/-- The members written for the fields `S`, decoded onto `acc`, set each of those fields to the
    value's. -/
theorem Fields.decodeMembers_encodeMembers (fs : Fields α) (x : α) :
    ∀ S : List (Field α), (∀ f ∈ S, f ∈ fs.list) → S.Pairwise Field.Independent →
      ∀ acc, (∀ f ∈ S, f.RoundTrips x acc) →
        ∃ ms, encodeMembers S x = .ok ms ∧
          fs.decodeMembers json ms acc = .ok (S.foldl (fun acc f => f.set acc (f.get x)) acc)
  | [], _, _, acc, _ => ⟨[], rfl, rfl⟩
  | f :: S, hsub, hind, acc, hrt => by
    rw [List.pairwise_cons] at hind
    have hf := hsub f (List.mem_cons_self _ _)
    have hsub' : ∀ g ∈ S, g ∈ fs.list := fun g hg => hsub g (List.mem_cons_of_mem _ hg)
    have hrt_f := hrt f (List.mem_cons_self _ _)
    unfold Field.RoundTrips at hrt_f
    by_cases he : f.codec.isEmpty (f.get x) = true
    · -- left out: the base already holds the value's field
      rw [if_pos he] at hrt_f
      have hset : f.set acc (f.get x) = acc := by rw [hrt_f, fs.set_get f hf]
      obtain ⟨ms, henc, hdec⟩ := Fields.decodeMembers_encodeMembers fs x S hsub' hind.2 acc
        fun g hg => hrt g (List.mem_cons_of_mem _ hg)
      exact ⟨ms, by simp [encodeMembers, he, henc], by simpa [hset] using hdec⟩
    · -- written out: the member sets the field, and leaves the later ones alone
      rw [if_neg he] at hrt_f
      obtain ⟨d, henc_f, hdec_f⟩ := hrt_f
      have hrt' : ∀ g ∈ S, g.RoundTrips x (f.set acc (f.get x)) := fun g hg => by
        have := hrt g (List.mem_cons_of_mem _ hg)
        unfold Field.RoundTrips at this ⊢
        rwa [(hind.1 g hg).2 acc (f.get x)]
      obtain ⟨ms, henc, hdec⟩ := Fields.decodeMembers_encodeMembers fs x S hsub' hind.2 _ hrt'
      refine ⟨(f.name, d) :: ms, by simp [encodeMembers, he, henc_f, henc], ?_⟩
      simpa [Fields.decodeMembers, Fields.decodeMember, fs.select_name json hf, hdec_f] using hdec

/-- A struct round-trips when each field does, or is left out and already held by the base. -/
theorem Codec.struct_roundTrips (zero : α) (fs : Fields α) (goType : String) {x base : α}
    (h : ∀ f ∈ fs.list, f.RoundTrips x base) : (Codec.struct zero fs goType).RoundTrips x base := by
  obtain ⟨ms, henc, hdec⟩ :=
    fs.decodeMembers_encodeMembers x fs.list (fun _ h => h) fs.independent base h
  exact ⟨.map ms, by simp [Codec.struct, henc], by simp [Codec.struct, hdec, fs.cover]⟩

/-! ## 7. Round trips of each kind -/

@[simp] theorem Codec.string_isEmpty (s : String) : Codec.string.isEmpty s = (s == "") := rfl
@[simp] theorem Codec.int_isEmpty (n : Int) : Codec.int.isEmpty n = (n == 0) := rfl
@[simp] theorem Codec.ptr_isEmpty (c : Codec β) (p : Option β) :
    (Codec.ptr c).isEmpty p = p.isNone := rfl
@[simp] theorem Codec.slice_isEmpty (c : Codec β) (goType : String) (xs : GoSlice β) :
    (Codec.slice c goType).isEmpty xs = xs.isEmpty := rfl
@[simp] theorem Codec.map_isEmpty (c : Codec β) (goType : String) (m : GoMap β) :
    (Codec.map c goType).isEmpty m = m.isEmpty := rfl
@[simp] theorem Codec.struct_isEmpty (zero : α) (fs : Fields α) (goType : String) (a : α) :
    (Codec.struct zero fs goType).isEmpty a = false := rfl
@[simp] theorem Codec.ptr_zero (c : Codec β) : (Codec.ptr c).zero = none := rfl
@[simp] theorem Codec.struct_zero (zero : α) (fs : Fields α) (goType : String) :
    (Codec.struct zero fs goType).zero = zero := rfl
@[simp] theorem Codec.dyn_zero : Codec.dyn.zero = .nil := rfl

@[simp] theorem Codec.string_roundTrips (s base : String) : Codec.string.RoundTrips s base :=
  ⟨.str s, rfl, rfl⟩

@[simp] theorem Codec.int_roundTrips (n base : Int) : Codec.int.RoundTrips n base :=
  ⟨.num (.int n), rfl, rfl⟩

@[simp] theorem Codec.ptr_int_roundTrips (p base : Option Int) :
    (Codec.ptr Codec.int).RoundTrips p base := by
  cases p with
  | none => exact ⟨.null, rfl, rfl⟩
  | some n => exact ⟨.num (.int n), rfl, rfl⟩

theorem Codec.dyn_roundTrips {x : Dyn} (hx : x.isJson = true) (base : Dyn) :
    Codec.dyn.RoundTrips x base := by
  obtain ⟨d, he, hd⟩ := Dyn.encode_dynOf x hx
  exact ⟨d, he, by simp [Codec.dyn, hd]⟩

/-- Each element round-trips onto the element JSON decodes it onto: the slice's own, or the
    zero value past its end. -/
def Codec.ItemsRoundTrip (c : Codec β) : List β → List β → Prop
  | [], _ => True
  | x :: xs, old => c.RoundTrips x (old.headD c.zero) ∧ c.ItemsRoundTrip xs old.tail

theorem Codec.decodeItems_roundTrip (c : Codec β) :
    ∀ xs old : List β, c.ItemsRoundTrip xs old →
      ∃ ds, c.encodeItems xs = .ok ds ∧ c.decodeItems json ds old = .ok xs
  | [], _, _ => ⟨[], rfl, rfl⟩
  | x :: xs, old, ⟨⟨d, he, hd⟩, h⟩ => by
    obtain ⟨ds, hes, hds⟩ := c.decodeItems_roundTrip xs old.tail h
    exact ⟨d :: ds, by simp [Codec.encodeItems, he, hes],
      by simp only [Codec.decodeItems, hd, hds, Except.bind_ok]; rfl⟩

/-- A nil slice comes back nil; a made one comes back made, with its items, when each
    round-trips onto the element JSON decodes it onto. -/
theorem Codec.slice_roundTrips (c : Codec β) (goType : String) {s base : GoSlice β}
    (h : c.ItemsRoundTrip s.items base.items) : (Codec.slice c goType).RoundTrips s base := by
  cases s with
  | nil => exact ⟨.null, rfl, rfl⟩
  | mk xs =>
    obtain ⟨ds, he, hd⟩ := c.decodeItems_roundTrip xs base.items h
    exact ⟨.seq ds, by simp [Codec.slice, he], by simp [Codec.slice, hd]⟩

theorem Codec.itemsRoundTrip_of_forall (c : Codec β) {xs : List β}
    (h : ∀ x ∈ xs, ∀ b, c.RoundTrips x b) : ∀ old, c.ItemsRoundTrip xs old := by
  induction xs with
  | nil => exact fun _ => trivial
  | cons x xs ih =>
    simp only [List.mem_cons, forall_eq_or_imp] at h
    exact fun old => ⟨h.1 _, ih h.2 _⟩

theorem Codec.itemsRoundTrip_nil (c : Codec β) {xs : List β}
    (h : ∀ x ∈ xs, c.RoundTrips x c.zero) : c.ItemsRoundTrip xs [] := by
  induction xs with
  | nil => trivial
  | cons x xs ih =>
    simp only [List.mem_cons, forall_eq_or_imp] at h
    exact ⟨h.1, ih h.2⟩

/-- Written out in key order and read back, entries that each round-trip onto the zero value are
    stored into the map decoded onto. -/
theorem Codec.decodeEntries_roundTrip (c : Codec β) :
    ∀ l : List (String × β), (∀ e ∈ l, c.RoundTrips e.2 c.zero) → ∀ acc : GoMap β,
      ∃ ms, c.encodeEntries l = .ok ms ∧
        c.decodeEntries json ms acc = .ok (l.foldl (fun acc e => acc.insert e.1 e.2) acc)
  | [], _, _ => ⟨[], rfl, rfl⟩
  | (k, v) :: l, h, acc => by
    simp only [List.mem_cons, forall_eq_or_imp] at h
    obtain ⟨d, he, hd⟩ := h.1
    obtain ⟨ms, hes, hms⟩ := c.decodeEntries_roundTrip l h.2 (acc.insert k v)
    exact ⟨(k, d) :: ms, by simp [Codec.encodeEntries, he, hes],
      by simp [Codec.decodeEntries, hd, hms]⟩

/-- A nil map comes back nil. A made map comes back onto a base whose keys it has, when each
    entry round-trips onto the zero value: JSON stores the entries into the base, made if it was
    nil, and keeps the base's other entries. -/
theorem Codec.map_roundTrips (c : Codec β) (goType : String) {m base : GoMap β}
    (hkeys : ∀ k, (base.get? k).isSome → (m.get? k).isSome)
    (hval : ∀ k v, m.get? k = some v → c.RoundTrips v c.zero) :
    (Codec.map c goType).RoundTrips m base := by
  cases hnil : m.isNil
  case true => exact ⟨.null, by simp [Codec.map, hnil], by simp [Codec.map, GoMap.eq_nil hnil]⟩
  case false =>
    obtain ⟨ms, he, hd⟩ := c.decodeEntries_roundTrip m.entries
      (fun e he => hval e.1 e.2 (GoMap.get?_of_mem he)) base.alloc
    refine ⟨.map ms, by simp [Codec.map, hnil, he], ?_⟩
    simp only [Codec.map, hd]
    rw [GoMap.foldl_insert_eq hnil (GoMap.isNil_alloc base) (by simpa using hkeys)]

/-- An object decodes into a `map[string]interface{}`, whatever its members. -/
theorem Codec.dyn_decodeEntries_ok (fmt : Format) :
    ∀ (ms : List (String × Doc)) (m : GoMap Dyn), ∃ m', Codec.dyn.decodeEntries fmt ms m = .ok m'
  | [], m => ⟨m, rfl⟩
  | (k, d) :: ms, m => by
    simpa [Codec.decodeEntries, Codec.dyn] using
      Codec.dyn_decodeEntries_ok fmt ms (m.insert k (fmt.dynOf d))

/-! ## 8. What one member of an object does -/

/-- The value of an object's one member whose key matches `name`; none when the document is not
    an object, or when no member or more than one matches. -/
def Doc.member (fmt : Format) (name : String) : Doc → Option Doc
  | .map ms =>
    match (ms.filter fun m => fmt.keyMatches m.1 name).map Prod.snd with
    | [d] => some d
    | _ => none
  | _ => none

theorem Doc.member_eq_some {fmt : Format} {name : String} {d doc : Doc}
    (h : doc.member fmt name = some d) :
    ∃ ms, doc = .map ms ∧ (ms.filter fun m => fmt.keyMatches m.1 name).map Prod.snd = [d] := by
  cases doc with
  | map ms =>
    refine ⟨ms, rfl, ?_⟩
    rcases hs : (ms.filter fun m => fmt.keyMatches m.1 name).map Prod.snd with _ | ⟨d', _ | _⟩ <;>
      simp only [Doc.member, hs, reduceCtorEq, Option.some.injEq] at h
    rw [hs, h]
  | _ => simp [Doc.member] at h

/-- Members that do not select a field leave it as it was. -/
theorem Field.decodeSelected_of_filter_eq_nil (f : Field α) (fmt : Format) :
    ∀ {ms : List (String × Doc)}, (ms.filter fun m => fmt.keyMatches m.1 f.name) = [] →
      ∀ v, f.decodeSelected fmt ms v = .ok v
  | [], _, _ => rfl
  | (key, d) :: ms, h, v => by
    have hk : fmt.keyMatches key f.name = false := by
      by_contra hk; simp [List.filter_cons, hk] at h
    rw [List.filter_cons, hk] at h
    simp only [Field.decodeSelected, hk, Bool.false_eq_true, if_false]
    exact f.decodeSelected_of_filter_eq_nil fmt h v

/-- With one member selecting a field, the field is that member decoded onto it. -/
theorem Field.decodeSelected_of_single (f : Field α) (fmt : Format) {d : Doc} :
    ∀ {ms : List (String × Doc)},
      (ms.filter fun m => fmt.keyMatches m.1 f.name).map Prod.snd = [d] →
      ∀ v, f.decodeSelected fmt ms v = f.codec.decode fmt d v
  | [], h, _ => by cases h
  | (key, d') :: ms, h, v => by
    by_cases hk : fmt.keyMatches key f.name = true
    · simp only [List.filter_cons, hk, if_true, List.map_cons, List.cons.injEq,
        List.map_eq_nil_iff] at h
      obtain ⟨rfl, hnil⟩ := h
      simp only [Field.decodeSelected, hk, if_true]
      cases f.codec.decode fmt d' v with
      | error e => rfl
      | ok v' => exact f.decodeSelected_of_filter_eq_nil fmt hnil v'
    · simp only [List.filter_cons, hk, Bool.false_eq_true, if_false] at h
      simp only [Field.decodeSelected, hk, Bool.false_eq_true, if_false]
      exact f.decodeSelected_of_single fmt h v

/-- A struct decoded from an object with one member for a field: the field is that member
    decoded onto the field's old value. -/
theorem Codec.struct_decode_member (zero : α) (fs : Fields α) (goType : String) {f : Field α}
    (hf : f ∈ fs.list) {fmt : Format} {doc d : Doc} (hd : doc.member fmt f.name = some d)
    {a r : α} (h : (Codec.struct zero fs goType).decode fmt doc a = .ok r) :
    f.codec.decode fmt d (f.get a) = .ok (f.get r) := by
  obtain ⟨ms, rfl, hms⟩ := Doc.member_eq_some hd
  rw [← f.decodeSelected_of_single fmt hms]
  exact fs.get_decodeMembers fmt hf ms a r h

/-- Decoding an object's entries into a map keeps the map's keys and adds the entries'. -/
theorem Codec.decodeEntries_keys (c : Codec β) (fmt : Format) :
    ∀ (ms : List (String × Doc)) (m r : GoMap β), c.decodeEntries fmt ms m = .ok r →
      ∀ k, (r.get? k).isSome ↔ (m.get? k).isSome ∨ k ∈ ms.map Prod.fst
  | [], m, r, h, k => by cases h; simp
  | (key, d) :: ms, m, r, h, k => by
    rcases hd : c.decode fmt d c.zero with e | v
    · simp [Codec.decodeEntries, hd] at h
    · have ih := c.decodeEntries_keys fmt ms _ r (by simpa [Codec.decodeEntries, hd] using h) k
      rw [ih, GoMap.get?_insert]
      by_cases hk : k = key <;> simp [hk]

/-- Decoding an object into a map: the map's old keys and the object's. -/
theorem Codec.map_decode_keys (c : Codec β) (goType : String) {fmt : Format}
    {ms : List (String × Doc)} {m r : GoMap β}
    (h : (Codec.map c goType).decode fmt (.map ms) m = .ok r)
    (k : String) : (r.get? k).isSome ↔ (m.get? k).isSome ∨ k ∈ ms.map Prod.fst := by
  simpa using c.decodeEntries_keys fmt ms m.alloc r h k

end Encoding
end Skygear
