import Mathlib.Data.List.Basic

/-!
# Go slices

A Go slice is nil — the zero value of a slice type — or made, by a literal, `make`, `append` or
a decoder, with its items; a made slice may have none. `len` and `range` see only the items, so
a loop cannot tell a nil slice from an empty made one, but `reflect.DeepEqual` can, and so can
the codecs: `json.Marshal` writes `null` for the one and `[]` for the other, and decoding `null`
leaves a slice nil where decoding `[]` makes it. `GoSlice` keeps the two apart.
-/

set_option autoImplicit false

namespace Skygear

/-- A Go slice: nil, or made with its items. -/
inductive GoSlice (α : Type) where
  /-- The zero value of a slice type. -/
  | nil
  /-- A slice that a literal, `make`, `append` or a decoder made. -/
  | mk (items : List α)
  deriving DecidableEq, Repr

namespace GoSlice

variable {α β : Type}

/-- The items, in order: what `range` visits. -/
def items : GoSlice α → List α
  | nil => []
  | mk items => items

/-- `len(s) == 0`. -/
def isEmpty (s : GoSlice α) : Bool := s.items.isEmpty

instance : Membership α (GoSlice α) := ⟨fun s a => a ∈ s.items⟩

instance [DecidableEq α] (a : α) (s : GoSlice α) : Decidable (a ∈ s) :=
  inferInstanceAs (Decidable (a ∈ s.items))

@[simp] theorem mem_iff {a : α} {s : GoSlice α} : a ∈ s ↔ a ∈ s.items := Iff.rfl
@[simp] theorem items_nil : (nil : GoSlice α).items = [] := rfl
@[simp] theorem items_mk (xs : List α) : (mk xs).items = xs := rfl

@[simp] theorem isEmpty_iff {s : GoSlice α} : s.isEmpty = true ↔ s.items = [] :=
  List.isEmpty_iff

/-- The loop `for i, x := range s { s[i] = f(x) }`: each item replaced by its image; a nil slice
    stays nil. -/
def map (f : α → β) : GoSlice α → GoSlice β
  | nil => nil
  | mk items => mk (items.map f)

@[simp] theorem items_map (f : α → β) (s : GoSlice α) : (s.map f).items = s.items.map f := by
  cases s <;> rfl

@[simp] theorem map_map {γ : Type} (f : β → γ) (g : α → β) (s : GoSlice α) :
    (s.map g).map f = s.map (f ∘ g) := by
  cases s <;> simp [map]

end GoSlice

end Skygear
