import Mathlib.Data.List.Nodup
import Skygear.Core.Encoding.Doc

/-!
# Presigned uploads: the request's headers

A `PresignUploadRequest` carries the headers a client wants on an upload, as a JSON object whose
values may be any JSON value. Three methods read them:

* `Sanitize` drops the headers whose value is the empty string, and defaults `content-type` to
  `application/octet-stream` and `cache-control` to `max-age=3600` when they are absent;
* `HTTPHeader` turns the string-valued headers into an `http.Header`, which files each value
  under the canonical form of its key (`content-type` and `Content-Type` alike under
  `Content-Type`);
* `DeriveAssetName` takes the file extension from the `content-type` header's string.

`Sanitize` and `DeriveAssetName` look keys up exactly as written, while `HTTPHeader` files them
by canonical form, and only `HTTPHeader` skips values that are not strings. So the three agree
on a header when the lower-case key is the one key of its canonical form that carries a
non-empty string, and carries a string itself (`HeaderKeyOwned`). A client's `Content-Type`
written in another case is filed beside the default that `Sanitize` adds, and a non-string
`content-type` leaves no value at all.

Go leaves the order of `range` over a map open. `HTTPHeader` is modelled over the order in which
`range` visits the headers, and the results hold for every order that visits each header once.
-/

set_option autoImplicit false

namespace Skygear

namespace Encoding

/-- The type assertion `value.(string)`: the string an `interface{}` holds. -/
def Dyn.asString : Dyn → Option String
  | .string s => some s
  | _ => none

@[simp] theorem Dyn.asString_string (s : String) : (Dyn.string s).asString = some s := rfl

end Encoding

namespace CloudStorage

open Encoding

/-! ## 1. `http.Header` -/

/-- `validHeaderFieldByte`: the token characters of RFC 7230 that `isTokenTable` marks — ASCII
    letters and digits, and the characters with the codes below, ``! # $ % & ' * + - . ^ _ ` | ~``.
    A character outside ASCII is encoded in bytes that are not token characters. -/
def validHeaderFieldByte (c : Char) : Bool :=
  c.isAlphanum || [33, 35, 36, 37, 38, 39, 42, 43, 45, 46, 94, 95, 96, 124, 126].contains c.toNat

/-- The loop of `canonicalMIMEHeaderKey`: upper case first and after each hyphen, lower case
    elsewhere. -/
def canonicalize : Bool → List Char → List Char
  | _, [] => []
  | upper, c :: cs =>
    let c := if upper && c.isLower then c.toUpper else if !upper && c.isUpper then c.toLower else c
    c :: canonicalize (c == '-') cs

/-- `textproto.CanonicalMIMEHeaderKey`, which `Header.Add` applies to the key. A key with a
    character that is not a token character is left as it is; the quick check for a key already
    in canonical form returns the same string as the loop. -/
def canonicalMIMEHeaderKey (s : String) : String :=
  if s.toList.all validHeaderFieldByte then ⟨canonicalize true s.toList⟩ else s

example : canonicalMIMEHeaderKey "content-type" = "Content-Type" := by decide
example : canonicalMIMEHeaderKey "CACHE-CONTROL" = "Cache-Control" := by decide

/-- `http.Header`: each canonical key with its values, in the order they were added. -/
abbrev Header := GoMap (List String)

/-- `Header.Add`: the value is appended to those of the key's canonical form. -/
def Header.add (h : Header) (key value : String) : Header :=
  let key := canonicalMIMEHeaderKey key
  h.insert key ((h.get? key).getD [] ++ [value])

/-- `Header.Values`: the values of the key's canonical form. -/
def Header.values (h : Header) (key : String) : List String :=
  (h.get? (canonicalMIMEHeaderKey key)).getD []

theorem Header.values_add (h : Header) (key value name : String) :
    (h.add key value).values name =
      h.values name ++
        if canonicalMIMEHeaderKey key = canonicalMIMEHeaderKey name then [value] else [] := by
  unfold Header.add Header.values
  by_cases hk : canonicalMIMEHeaderKey key = canonicalMIMEHeaderKey name
  · simp [hk]
  · simp [hk, Ne.symm hk]

/-! ## 2. The request -/

/-- `PresignUploadRequest`. -/
structure PresignUploadRequest where
  /-- `Prefix`: what the asset name starts with. -/
  namePrefix : String
  access : String
  headers : GoMap Dyn
  deriving DecidableEq

namespace PresignUploadRequest

/-- The first loop of `Sanitize`: "Remove any header whose value is empty string". -/
def removeEmptyHeaders (headers : GoMap Dyn) : GoMap Dyn :=
  headers.entries.foldl
    (fun headers e => if e.2.asString = some "" then headers else headers.insert e.1 e.2)
    GoMap.empty

/-- `Sanitize`, with the value of `AccessTypeDefault`. -/
def sanitize (accessTypeDefault : String) (r : PresignUploadRequest) : PresignUploadRequest :=
  let headers := removeEmptyHeaders r.headers
  let access := if r.access = "" then accessTypeDefault else r.access
  let headers :=
    if (headers.get? "content-type").isNone then
      headers.insert "content-type" (.string "application/octet-stream")
    else headers
  let headers :=
    if (headers.get? "cache-control").isNone then
      headers.insert "cache-control" (.string "max-age=3600")
    else headers
  { r with access, headers }

/-- The content type `DeriveAssetName` reads: `r.Headers["content-type"].(string)`. -/
def contentType (r : PresignUploadRequest) : Option String :=
  (r.headers.get? "content-type").bind Dyn.asString

/-- `DeriveAssetName`, with `mime.ExtensionsByType`, `errors.HandledWithMessage` and the
    `uuid.New()` it draws. -/
def deriveAssetName (extensionsByType : String → Except Error (List String))
    (handledWithMessage : Error → String → Error) (uuid : String) (r : PresignUploadRequest) :
    Except Error String :=
  match r.contentType with
  | some contentType =>
    match extensionsByType contentType with
    | .error err => .error (handledWithMessage err "failed to derive extension from content type")
    | .ok exts => .ok (r.namePrefix ++ uuid ++ exts.headD "")
  | none => .ok (r.namePrefix ++ uuid)

/-- One turn of the loop of `HTTPHeader`: a string value is added under its key. -/
def addHeader (httpHeader : Header) (e : String × Dyn) : Header :=
  match e.2.asString with
  | some v => httpHeader.add e.1 v
  | none => httpHeader

/-- `HTTPHeader`, with `range` visiting the request's headers in the order `visit`. -/
def httpHeader (visit : List (String × Dyn)) : Header :=
  visit.foldl addHeader GoMap.empty

end PresignUploadRequest

/-! ## 3. What `Sanitize` leaves -/

namespace PresignUploadRequest

/-- The header `Sanitize` adds for a key it defaults. -/
def defaultHeader (key : String) : Option Dyn :=
  if key = "content-type" then some (.string "application/octet-stream")
  else if key = "cache-control" then some (.string "max-age=3600")
  else none

theorem get?_removeEmptyHeaders (headers : GoMap Dyn) (k : String) :
    (removeEmptyHeaders headers).get? k =
      (headers.get? k).filter fun v => v.asString != some "" := by
  unfold removeEmptyHeaders
  rw [GoMap.get?_foldl_insert_unless (fun v : Dyn => v.asString = some "") k _ _
    headers.sorted.nodup, GoMap.get?_empty]
  change _ = Option.filter _ (headers.entries.lookup k)
  cases headers.entries.lookup k with
  | none => rfl
  | some v => by_cases hv : v.asString = some "" <;> simp [hv, Option.filter]

/-- `if _, ok := m[key]; !ok { m[key] = v }`. -/
theorem get?_insert_unless_present {α : Type} (m : GoMap α) (key k : String) (v : α) :
    (if (m.get? key).isNone then m.insert key v else m).get? k =
      (m.get? k).or (if k = key then some v else none) := by
  by_cases hk : k = key
  · subst hk; cases hm : m.get? k <;> simp [hm]
  · split_ifs <;> simp [hk]

/-- Each header after `Sanitize`: the client's, unless it was the empty string, or else the
    default of a key `Sanitize` defaults. -/
theorem get?_sanitize (accessTypeDefault : String) (r : PresignUploadRequest) (k : String) :
    (r.sanitize accessTypeDefault).headers.get? k =
      ((r.headers.get? k).filter fun v => v.asString != some "").or (defaultHeader k) := by
  simp only [sanitize]
  rw [get?_insert_unless_present, get?_insert_unless_present, get?_removeEmptyHeaders]
  unfold defaultHeader
  by_cases h1 : k = "content-type"
  · subst h1; simp
  · by_cases h2 : k = "cache-control"
    · subst h2; simp
    · simp [h1, h2]

end PresignUploadRequest

/-! ## 4. What `HTTPHeader` files under a name -/

namespace PresignUploadRequest

/-- What `HTTPHeader` files under `name` for one header: its string, when its key has the
    canonical form of `name`. -/
def filedValue (name : String) (e : String × Dyn) : Option String :=
  if canonicalMIMEHeaderKey e.1 = canonicalMIMEHeaderKey name then e.2.asString else none

theorem values_addHeader (h : Header) (e : String × Dyn) (name : String) :
    (addHeader h e).values name = h.values name ++ (filedValue name e).toList := by
  unfold addHeader filedValue
  cases e.2.asString with
  | none => split_ifs <;> simp
  | some v => rw [Header.values_add]; split_ifs <;> simp

/-- The values `HTTPHeader` files under a name: the string values of the headers whose key has
    that canonical form, in the order `range` visits them. -/
theorem values_httpHeader (visit : List (String × Dyn)) (name : String) :
    (httpHeader visit).values name = visit.filterMap (filedValue name) := by
  suffices ∀ h : Header, (visit.foldl addHeader h).values name =
      h.values name ++ visit.filterMap (filedValue name) from this GoMap.empty
  induction visit with
  | nil => simp
  | cons e visit ih =>
    intro h
    rw [List.foldl_cons, ih, values_addHeader, List.filterMap_cons]
    cases filedValue name e <;> simp

end PresignUploadRequest

/-! ## 5. Where the three methods agree -/

/-- Among the request's headers that `HTTPHeader` files under the same name as `key`, only
    `key` itself carries a non-empty string, and `key`, if present, carries a string. -/
structure HeaderKeyOwned (r : PresignUploadRequest) (key : String) : Prop where
  own : ∀ v, r.headers.get? key = some v → v.asString.isSome
  others : ∀ k v, r.headers.get? k = some v → k ≠ key →
    canonicalMIMEHeaderKey k = canonicalMIMEHeaderKey key → v.asString = none ∨ v.asString = some ""

theorem filterMap_eq_singleton {α β : Type} {f : α → Option β} {a : α} {b : β} :
    ∀ {l : List α}, l.Nodup → a ∈ l → f a = some b → (∀ x ∈ l, x ≠ a → f x = none) →
      l.filterMap f = [b]
  | x :: l, hnd, ha, hfa, hrest => by
    rw [List.nodup_cons] at hnd
    by_cases hx : x = a
    · subst hx
      rw [List.filterMap_cons_some hfa, List.filterMap_eq_nil_iff.mpr fun y hy =>
        hrest y (List.mem_cons_of_mem _ hy) fun h => hnd.1 (h ▸ hy)]
    · rw [List.filterMap_cons_none (hrest x (List.mem_cons_self _ _) hx)]
      exact filterMap_eq_singleton hnd.2 ((List.mem_cons.mp ha).resolve_left (Ne.symm hx)) hfa
        fun y hy => hrest y (List.mem_cons_of_mem _ hy)

namespace PresignUploadRequest

variable (accessTypeDefault : String) (r : PresignUploadRequest)

/-- Under a key `Sanitize` defaults, a request that holds a string there, or nothing, keeps a
    string after `Sanitize`: its own when it was not empty, the default otherwise. -/
theorem get?_sanitize_of_defaulted {key : String}
    (hkey : key = "content-type" ∨ key = "cache-control")
    (hown : ∀ v, r.headers.get? key = some v → v.asString.isSome) :
    ∃ v, (r.sanitize accessTypeDefault).headers.get? key = some (.string v) ∧
      ∀ t, r.headers.get? key = some (.string t) → t ≠ "" → v = t := by
  obtain ⟨d, hd⟩ : ∃ d, defaultHeader key = some (.string d) := by
    rcases hkey with rfl | rfl <;> simp [defaultHeader]
  rcases hr : r.headers.get? key with _ | w
  · exact ⟨d, by simp [get?_sanitize, hr, hd], by simp⟩
  · cases w with
    | string t =>
      by_cases he : t = ""
      · exact ⟨d, by simp [get?_sanitize, hr, hd, he], by simp [he]⟩
      · exact ⟨t, by simp [get?_sanitize, hr, he], by simp⟩
    | _ => simpa [Dyn.asString] using hown _ hr

/-- The two keys `Sanitize` defaults have different canonical forms: a key with the canonical
    form of one of them, other than that one, is defaulted by neither. -/
theorem defaultHeader_eq_none_of_canonical {key k : String}
    (hkey : key = "content-type" ∨ key = "cache-control") (hk : k ≠ key)
    (hcanon : canonicalMIMEHeaderKey k = canonicalMIMEHeaderKey key) :
    defaultHeader k = none := by
  have hk' : k ≠ "content-type" ∧ k ≠ "cache-control" := by
    rcases hkey with rfl | rfl <;> refine ⟨?_, ?_⟩ <;> rintro rfl <;>
      first | exact hk rfl | exact absurd hcanon (by decide)
  simp [defaultHeader, hk'.1, hk'.2]

/-- After `Sanitize`, a header under another key than an owned defaulted `key` files nothing
    under `key`'s name. -/
theorem filedValue_sanitize_eq_none {key : String}
    (hkey : key = "content-type" ∨ key = "cache-control") (hown : HeaderKeyOwned r key)
    {k : String} {w : Dyn} (hw : (r.sanitize accessTypeDefault).headers.get? k = some w)
    (hk : k ≠ key) : filedValue key (k, w) = none := by
  unfold filedValue
  split_ifs with hcanon
  · dsimp only at hcanon
    rw [get?_sanitize, defaultHeader_eq_none_of_canonical hkey hk hcanon, Option.or_none] at hw
    obtain ⟨hr, hkeep⟩ := Option.filter_eq_some.mp hw
    rcases hown.others k w hr hk hcanon with h | h
    · exact h
    · simp [h] at hkeep
  · rfl

/-- For a key `Sanitize` defaults and the request owns, the sanitized request holds a string
    under the key, and `HTTPHeader` files that string, and only it, in every visiting order. -/
theorem values_httpHeader_sanitize {key : String}
    (hkey : key = "content-type" ∨ key = "cache-control") (hown : HeaderKeyOwned r key)
    {visit : List (String × Dyn)}
    (hvisit : visit.Perm (r.sanitize accessTypeDefault).headers.entries) :
    ∃ v, (r.sanitize accessTypeDefault).headers.get? key = some (.string v) ∧
      (httpHeader visit).values key = [v] ∧
      ∀ t, r.headers.get? key = some (.string t) → t ≠ "" → v = t := by
  set s := r.sanitize accessTypeDefault
  obtain ⟨v, hv, hclient⟩ := get?_sanitize_of_defaulted accessTypeDefault r hkey hown.own
  refine ⟨v, hv, ?_, hclient⟩
  -- every other header of the sanitized request files nothing under `key`
  have hothers : ∀ e ∈ s.headers.entries, e ≠ (key, .string v) → filedValue key e = none := by
    rintro ⟨k, w⟩ he hne
    have hw := GoMap.get?_of_mem he
    refine filedValue_sanitize_eq_none accessTypeDefault r hkey hown hw fun hk => hne ?_
    subst hk; rw [hv] at hw; cases hw; rfl
  have hentries : s.headers.entries.filterMap (filedValue key) = [v] :=
    filterMap_eq_singleton (List.Nodup.of_map Prod.fst s.headers.sorted.nodup)
      (GoMap.mem_of_get? hv) (by simp [filedValue, Dyn.asString]) hothers
  rw [values_httpHeader, ← List.perm_singleton, ← hentries]
  exact hvisit.filterMap _

/-- `Sanitize`, `HTTPHeader` and `DeriveAssetName` agree on a request whose lower-case
    `content-type` and `cache-control` keys are the only keys of their canonical forms that
    carry non-empty strings, and carry strings themselves: in every visiting order, the header
    has one `Content-Type` value, the one `DeriveAssetName` reads, and one `Cache-Control`
    value, and a non-empty content type from the client is kept. -/
theorem httpHeader_sanitize_of_headerKeyOwned (hct : HeaderKeyOwned r "content-type")
    (hcc : HeaderKeyOwned r "cache-control") (visit : List (String × Dyn))
    (hvisit : visit.Perm (r.sanitize accessTypeDefault).headers.entries) :
    ∃ contentType cacheControl,
      (httpHeader visit).values "Content-Type" = [contentType] ∧
      (httpHeader visit).values "Cache-Control" = [cacheControl] ∧
      (r.sanitize accessTypeDefault).contentType = some contentType ∧
      ∀ t, r.headers.get? "content-type" = some (.string t) → t ≠ "" → contentType = t := by
  obtain ⟨ct, hct_get, hct_values, hct_client⟩ :=
    values_httpHeader_sanitize accessTypeDefault r (.inl rfl) hct hvisit
  obtain ⟨cc, -, hcc_values, -⟩ :=
    values_httpHeader_sanitize accessTypeDefault r (.inr rfl) hcc hvisit
  exact ⟨ct, cc, hct_values, hcc_values, by simp [contentType, hct_get, Dyn.asString], hct_client⟩

/-- A request with only `content-type`, a string, is one on which the three methods agree. -/
theorem httpHeader_sanitize_of_headerKeyOwned_png :
    let r : PresignUploadRequest :=
      ⟨"", "", GoMap.empty.insert "content-type" (.string "image/png")⟩
    let s := r.sanitize "public"
    HeaderKeyOwned r "content-type" ∧ HeaderKeyOwned r "cache-control" ∧
      ∃ contentType cacheControl,
        (httpHeader s.headers.entries).values "Content-Type" = [contentType] ∧
        (httpHeader s.headers.entries).values "Cache-Control" = [cacheControl] ∧
        s.contentType = some contentType ∧
        ∀ t, r.headers.get? "content-type" = some (.string t) → t ≠ "" → contentType = t := by
  intro r s
  have hct : HeaderKeyOwned r "content-type" :=
    ⟨fun v h => by simp [r] at h; simp [← h],
      fun k v h hk _ => by simp [r] at h; exact absurd h.1 hk⟩
  have hcc : HeaderKeyOwned r "cache-control" :=
    ⟨fun v h => by simp [r] at h, fun k v h _ hc => by
      simp [r] at h; rw [h.1] at hc; exact absurd hc (by decide)⟩
  exact ⟨hct, hcc, httpHeader_sanitize_of_headerKeyOwned "public" r hct hcc _ (List.Perm.refl _)⟩

/-- A client's `Content-Type` in canonical case is filed beside the default that `Sanitize` adds
    under `content-type`, and `DeriveAssetName` reads the default. -/
theorem httpHeader_sanitize_duplicates_content_type :
    let r : PresignUploadRequest :=
      ⟨"", "", GoMap.empty.insert "Content-Type" (.string "image/png")⟩
    ∀ accessTypeDefault, let s := r.sanitize accessTypeDefault
    (httpHeader s.headers.entries).values "Content-Type" =
        ["image/png", "application/octet-stream"] ∧
      s.contentType = some "application/octet-stream" :=
  fun _ => ⟨rfl, rfl⟩

end PresignUploadRequest

end CloudStorage
end Skygear
