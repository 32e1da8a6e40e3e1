import Mathlib.Data.String.Basic
import Mathlib.Data.List.Sort

/-!
# Go maps with string keys

A Go `map[string]T` has no order and no duplicate keys, and it is nil (the zero value of the
map type, which holds nothing and panics on a write) or made (by `make`, a literal, or a decoder).
`reflect.DeepEqual`, which the repository's tests use, takes two maps to be equal when both are
nil, or both are made and hold the same entries. The model keeps the entries in increasing key
order and the map's nil-ness beside them, so that equality of maps is `reflect.DeepEqual`'s for
values whose own equality is. The order is a field of the structure, and so is the fact that a
nil map is empty: an unsorted map, or a nil map with entries, cannot be built.

A `range` over a Go map visits the entries in an unspecified order; the model's loops visit
them in key order, which is one of the orders Go may pick. The properties proved about those
loops do not depend on the order.

Keys are compared through their characters (`String.toList`), which is the order Mathlib's
`<` on `String` is equivalent to (`String.lt_iff_toList_lt`) and the one the kernel can
evaluate, so that maps built from literals reduce by `decide`.
-/

set_option autoImplicit false

namespace Skygear

/-- A Go map with string keys: entries sorted by key, hence without duplicates, and whether the
    map is nil, which it can be only when it is empty. -/
structure GoMap (α : Type) where
  entries : List (String × α)
  sorted : (entries.map Prod.fst).Sorted (· < ·)
  isNil : Bool
  nil_entries : isNil = true → entries = []

namespace GoMap

variable {α β : Type}

instance [DecidableEq α] : DecidableEq (GoMap α) := fun m m' =>
  decidable_of_iff (m.entries = m'.entries ∧ m.isNil = m'.isNil) (by cases m; cases m'; simp)

/-- The nil map: the zero value of a map type. -/
def nil : GoMap α := ⟨[], List.sorted_nil, true, fun _ => rfl⟩

/-- A made map with no entries: `make(map[string]T)`, or the literal `map[string]T{}`. -/
def empty : GoMap α := ⟨[], List.sorted_nil, false, nofun⟩

/-- `if m == nil { m = make(...) }`, which the decoders do before storing into a map. -/
def alloc (m : GoMap α) : GoMap α := ⟨m.entries, m.sorted, false, nofun⟩

/-- `m[k]`, with the `ok` of the comma-ok form as `Option`. -/
def get? (m : GoMap α) (k : String) : Option α := m.entries.lookup k

/-- The keys, in the order the model's loops visit them. -/
def keys (m : GoMap α) : List String := m.entries.map Prod.fst

/-- `len(m) == 0`. -/
def isEmpty (m : GoMap α) : Bool := m.entries.isEmpty

@[simp] theorem isEmpty_iff {m : GoMap α} : m.isEmpty = true ↔ m.entries = [] :=
  List.isEmpty_iff

theorem isEmpty_eq_false_of_get? {m : GoMap α} {k : String} (h : (m.get? k).isSome) :
    m.isEmpty = false := by
  obtain ⟨_ | _, _⟩ := m
  · simp [get?] at h
  · rfl

/-- A map that is nil is the nil map. -/
theorem eq_nil {m : GoMap α} (h : m.isNil = true) : m = nil := by
  obtain ⟨_, _, _, hn⟩ := m
  subst h
  obtain rfl := hn rfl
  rfl

theorem lookup_cons_ite (a k : String) (b : α) (es : List (String × α)) :
    ((k, b) :: es).lookup a = if a = k then some b else es.lookup a := by
  by_cases h : a = k
  · subst h; simp
  · rw [List.lookup_cons, show (a == k) = false by simpa using h]; simp [h]

/-! ## Insertion -/

/-- Insert into a sorted entry list, replacing the entry of the same key. -/
def insertEntry (k : String) (v : α) : List (String × α) → List (String × α)
  | [] => [(k, v)]
  | (k', v') :: rest =>
    if k.toList < k'.toList then (k, v) :: (k', v') :: rest
    else if k = k' then (k, v) :: rest
    else (k', v') :: insertEntry k v rest

/-- An entry after an insertion is the inserted one or was there before. -/
theorem mem_insertEntry {k : String} {v : α} {e : String × α} :
    ∀ {l : List (String × α)}, e ∈ insertEntry k v l → e = (k, v) ∨ e ∈ l
  | [], h => by simpa [insertEntry] using h
  | (k', v') :: rest, h => by
    unfold insertEntry at h
    split_ifs at h with h₁ h₂
    · simpa using h
    · rcases List.mem_cons.mp h with h | h
      · exact .inl h
      · exact .inr (List.mem_cons_of_mem _ h)
    · rcases List.mem_cons.mp h with rfl | h
      · exact .inr (List.mem_cons_self _ _)
      · exact (mem_insertEntry h).imp_right (List.mem_cons_of_mem _)

theorem mem_keys_insertEntry {k x : String} {v : α} {l : List (String × α)}
    (h : x ∈ (insertEntry k v l).map Prod.fst) : x = k ∨ x ∈ l.map Prod.fst := by
  obtain ⟨e, he, rfl⟩ := List.mem_map.mp h
  rcases mem_insertEntry he with rfl | he
  · exact .inl rfl
  · exact .inr (List.mem_map_of_mem _ he)

theorem sorted_insertEntry (k : String) (v : α) :
    ∀ {l : List (String × α)}, (l.map Prod.fst).Sorted (· < ·) →
      ((insertEntry k v l).map Prod.fst).Sorted (· < ·)
  | [], _ => by simp [insertEntry]
  | (k', v') :: rest, h => by
    simp only [List.map_cons, List.sorted_cons] at h
    unfold insertEntry
    split_ifs with h₁ h₂
    · rw [← String.lt_iff_toList_lt] at h₁
      simp only [List.map_cons, List.sorted_cons, List.mem_cons, forall_eq_or_imp]
      exact ⟨⟨h₁, fun x hx => h₁.trans (h.1 x hx)⟩, h.1, h.2⟩
    · subst h₂
      simpa using h
    · have hlt : k' < k := lt_of_le_of_ne
        (not_lt.mp (by rwa [← String.lt_iff_toList_lt] at h₁)) (Ne.symm h₂)
      simp only [List.map_cons, List.sorted_cons]
      refine ⟨fun x hx => ?_, sorted_insertEntry k v h.2⟩
      rcases mem_keys_insertEntry hx with rfl | hx
      · exact hlt
      · exact h.1 x hx

/-- A key above every key of the list is inserted at its end. -/
theorem insertEntry_of_lt {k : String} {v : α} :
    ∀ {l : List (String × α)}, (∀ x ∈ l.map Prod.fst, x < k) → insertEntry k v l = l ++ [(k, v)]
  | [], _ => rfl
  | (k', v') :: rest, h => by
    simp only [List.map_cons, List.mem_cons, forall_eq_or_imp] at h
    have hlt : ¬ k.toList < k'.toList := by
      rw [← String.lt_iff_toList_lt]; exact not_lt.mpr h.1.le
    rw [insertEntry, if_neg hlt, if_neg h.1.ne', insertEntry_of_lt h.2]
    rfl

/-- `m[k] = v`, into a made map: a write into a nil map panics, and every write of the model
    goes to a map the code or a decoder has made. -/
def insert (m : GoMap α) (k : String) (v : α) : GoMap α :=
  ⟨insertEntry k v m.entries, sorted_insertEntry k v m.sorted, false, nofun⟩

theorem lookup_insertEntry (k x : String) (v : α) :
    ∀ l : List (String × α), (insertEntry k v l).lookup x = if x = k then some v else l.lookup x
  | [] => by simp [insertEntry, lookup_cons_ite]
  | (k', v') :: rest => by
    have ih := lookup_insertEntry k x v rest
    unfold insertEntry
    split_ifs with h₁ h₂ <;> simp only [lookup_cons_ite, ih] <;> split_ifs <;> simp_all

@[simp] theorem get?_insert (m : GoMap α) (k x : String) (v : α) :
    (m.insert k v).get? x = if x = k then some v else m.get? x :=
  lookup_insertEntry k x v m.entries

@[simp] theorem get?_empty (x : String) : (empty : GoMap α).get? x = none := rfl
@[simp] theorem get?_nil (x : String) : (nil : GoMap α).get? x = none := rfl
@[simp] theorem get?_alloc (m : GoMap α) (x : String) : m.alloc.get? x = m.get? x := rfl
@[simp] theorem isNil_insert (m : GoMap α) (k : String) (v : α) : (m.insert k v).isNil = false :=
  rfl
@[simp] theorem isNil_alloc (m : GoMap α) : m.alloc.isNil = false := rfl

theorem get?_insert_eq_none (m : GoMap α) (k x : String) (v : α) :
    (m.insert k v).get? x = none ↔ x ≠ k ∧ m.get? x = none := by
  by_cases h : x = k <;> simp [h]

theorem lookup_of_mem {k : String} {v : α} :
    ∀ {l : List (String × α)}, (l.map Prod.fst).Sorted (· < ·) → (k, v) ∈ l →
      l.lookup k = some v
  | (k', v') :: rest, sorted, h => by
    simp only [List.map_cons, List.sorted_cons] at sorted
    rcases List.mem_cons.mp h with he | h
    · cases he; simp
    · have hne : k ≠ k' := fun he => (sorted.1 k (List.mem_map_of_mem Prod.fst h)).ne' he
      rw [lookup_cons_ite, if_neg hne]
      exact lookup_of_mem sorted.2 h

/-- An entry of the map is what a lookup of its key finds. -/
theorem get?_of_mem {m : GoMap α} {k : String} {v : α} (h : (k, v) ∈ m.entries) :
    m.get? k = some v :=
  lookup_of_mem m.sorted h

/-- What a lookup finds is an entry of the map. -/
theorem mem_of_get? {m : GoMap α} {k : String} {v : α} (h : m.get? k = some v) :
    (k, v) ∈ m.entries := by
  obtain ⟨l₁, l₂, hl, -⟩ := List.lookup_eq_some_iff.mp (show m.entries.lookup k = some v from h)
  simp [hl]

/-! ## Extensionality -/

theorem lookup_eq_none_of_lt {k : String} :
    ∀ {l : List (String × α)}, (∀ x ∈ l.map Prod.fst, k < x) → l.lookup k = none
  | [], _ => rfl
  | (k', v') :: rest, h => by
    simp only [List.map_cons, List.mem_cons, forall_eq_or_imp] at h
    simp [lookup_cons_ite, h.1.ne, lookup_eq_none_of_lt h.2]

/-- The head key of a sorted entry list is its least key: a key it finds is not below it. -/
theorem le_of_lookup_cons_isSome {k x : String} {v : α} {rest : List (String × α)}
    (hs : ∀ y ∈ rest.map Prod.fst, k < y) (h : (((k, v) :: rest).lookup x).isSome) : k ≤ x := by
  refine not_lt.mp fun hlt => ?_
  rw [lookup_cons_ite, if_neg hlt.ne, lookup_eq_none_of_lt fun y hy => hlt.trans (hs y hy)] at h
  cases h

theorem entries_ext :
    ∀ {l l' : List (String × α)}, (l.map Prod.fst).Sorted (· < ·) →
      (l'.map Prod.fst).Sorted (· < ·) → (∀ k, l.lookup k = l'.lookup k) → l = l'
  | [], [], _, _, _ => rfl
  | [], (k, _) :: _, _, _, h => by simpa using h k
  | (k, _) :: _, [], _, _, h => by simpa using h k
  | (k, v) :: rest, (k', v') :: rest', hs, hs', h => by
    simp only [List.map_cons, List.sorted_cons] at hs hs'
    have hk : k = k' := le_antisymm
      (le_of_lookup_cons_isSome hs.1 (by rw [h k']; simp))
      (le_of_lookup_cons_isSome hs'.1 (by rw [← h k]; simp))
    subst hk
    have hv : v = v' := by simpa using h k
    subst hv
    congr 1
    refine entries_ext hs.2 hs'.2 fun x => ?_
    by_cases hx : x = k
    · subst hx
      rw [lookup_eq_none_of_lt hs.1, lookup_eq_none_of_lt hs'.1]
    · simpa [lookup_cons_ite, hx] using h x

/-- Two maps, both nil or both made, with the same entries are equal. -/
theorem ext {m m' : GoMap α} (hnil : m.isNil = m'.isNil) (h : ∀ k, m.get? k = m'.get? k) :
    m = m' := by
  cases m; cases m'
  simp only [mk.injEq]
  exact ⟨entries_ext ‹_› ‹_› h, hnil⟩

/-! ## Mapping over the values -/

/-- Every value replaced by its image under `f`; a nil map stays nil. -/
def mapValues (f : α → β) (m : GoMap α) : GoMap β :=
  ⟨m.entries.map fun e => (e.1, f e.2), by simpa [Function.comp_def] using m.sorted, m.isNil,
    fun h => by simp [m.nil_entries h]⟩

theorem lookup_map_snd (f : α → β) (k : String) :
    ∀ l : List (String × α), (l.map fun e => (e.1, f e.2)).lookup k = (l.lookup k).map f
  | [] => rfl
  | (k', v) :: rest => by
    by_cases h : k = k' <;> simp [lookup_cons_ite, h, lookup_map_snd f k rest]

@[simp] theorem get?_mapValues (f : α → β) (m : GoMap α) (k : String) :
    (m.mapValues f).get? k = (m.get? k).map f :=
  lookup_map_snd f k m.entries

@[simp] theorem isNil_mapValues (f : α → β) (m : GoMap α) : (m.mapValues f).isNil = m.isNil :=
  rfl

theorem mapValues_mapValues {γ : Type} (f : β → γ) (g : α → β) (m : GoMap α) :
    (m.mapValues g).mapValues f = m.mapValues (f ∘ g) := by
  simp [mapValues, Function.comp_def]

/-- The Go loop `for k, v := range m { ...; m[k] = f(v) }`: each entry is written back, in
    the order of the range, into the map being ranged over. -/
def rangeWriteBack (f : α → α) (m : GoMap α) : GoMap α :=
  m.entries.foldl (fun acc e => acc.insert e.1 (f e.2)) m

/-- The loop invariant: after the entries `l` are written back into `acc`, a key among them
    holds the image of its value in `l`, and any other key what `acc` held. -/
theorem get?_foldl_insert (f : α → α) (k : String) :
    ∀ (l : List (String × α)) (acc : GoMap α), (l.map Prod.fst).Nodup →
      (l.foldl (fun acc e => acc.insert e.1 (f e.2)) acc).get? k =
        if k ∈ l.map Prod.fst then (l.lookup k).map f else acc.get? k
  | [], _, _ => by simp
  | (k', v) :: rest, acc, hnd => by
    simp only [List.map_cons, List.nodup_cons] at hnd
    simp only [List.foldl_cons, get?_foldl_insert f k rest _ hnd.2, get?_insert,
      List.map_cons, List.mem_cons, lookup_cons_ite]
    by_cases h : k = k'
    · subst h; simp [hnd.1]
    · simp only [h, false_or, if_false]

theorem lookup_eq_none_of_not_mem {k : String} {l : List (String × α)} (h : k ∉ l.map Prod.fst) :
    l.lookup k = none :=
  List.lookup_eq_none_iff.mpr fun p hp => by
    simpa using fun he : k = p.1 => h (he ▸ List.mem_map_of_mem Prod.fst hp)

/-- Writing entries back leaves a map nil only when there was nothing to write. -/
theorem isNil_foldl_insert (f : α → α) :
    ∀ (l : List (String × α)) (acc : GoMap α),
      (l.foldl (fun acc e => acc.insert e.1 (f e.2)) acc).isNil = (l.isEmpty && acc.isNil)
  | [], _ => by simp
  | _ :: l, acc => by simp [isNil_foldl_insert f l]

/-- Storing a made map's entries into a made map whose keys it has gives the map back. -/
theorem foldl_insert_eq {m acc : GoMap α} (hnil : m.isNil = false) (hacc : acc.isNil = false)
    (hkeys : ∀ k, (acc.get? k).isSome → (m.get? k).isSome) :
    m.entries.foldl (fun acc e => acc.insert e.1 e.2) acc = m := by
  have hfold (k : String) := get?_foldl_insert id k m.entries acc m.sorted.nodup
  have hnil' := isNil_foldl_insert id m.entries acc
  simp only [id] at hfold hnil'
  refine ext (by simp [hnil', hacc, hnil]) fun k => ?_
  rw [hfold]
  split_ifs with hk
  · simp [get?]
  · have hm : m.get? k = none := lookup_eq_none_of_not_mem hk
    cases hb : acc.get? k
    · exact hm.symm
    · simpa [hm, hb] using hkeys k

/-- Writing every entry back through `f` maps `f` over the values, and leaves a nil map nil. -/
theorem rangeWriteBack_eq_mapValues (f : α → α) (m : GoMap α) :
    m.rangeWriteBack f = m.mapValues f := by
  refine ext ?_ fun k => ?_
  · rw [rangeWriteBack, isNil_foldl_insert, isNil_mapValues]
    cases h : m.isNil
    · simp
    · simp [m.nil_entries h]
  rw [rangeWriteBack, get?_foldl_insert f k _ _ m.sorted.nodup, get?_mapValues, get?]
  split_ifs with h
  · rfl
  · rw [lookup_eq_none_of_not_mem h]; rfl

/-- The loop `for k, v := range m { if skip(v) { continue }; out[k] = v }`: a key of `l` holds
    its value unless the value is skipped, and any other key what `acc` held. -/
theorem get?_foldl_insert_unless (skip : α → Prop) [DecidablePred skip] (k : String) :
    ∀ (l : List (String × α)) (acc : GoMap α), (l.map Prod.fst).Nodup →
      (l.foldl (fun acc e => if skip e.2 then acc else acc.insert e.1 e.2) acc).get? k =
        match l.lookup k with
        | some v => if skip v then acc.get? k else some v
        | none => acc.get? k
  | [], _, _ => by simp
  | (k', v) :: rest, acc, hnd => by
    simp only [List.map_cons, List.nodup_cons] at hnd
    rw [List.foldl_cons, get?_foldl_insert_unless skip k rest _ hnd.2, lookup_cons_ite]
    by_cases h : k = k'
    · subst h
      rw [lookup_eq_none_of_not_mem hnd.1, if_pos rfl]
      by_cases hs : skip v <;> simp [hs]
    · rcases rest.lookup k with _ | w <;> split_ifs <;> simp [h]

end GoMap

end Skygear
