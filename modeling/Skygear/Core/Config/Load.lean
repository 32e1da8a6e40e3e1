import Skygear.Core.Config.Codec
import Skygear.Core.Config.Validate

/-!
# Loading and persisting the configuration

The loaders decode a document onto the built-in defaults (`loadingDefaults`), run
`AfterUnmarshal`, and return the result if `Validate` accepts it. `Value` marshals the
configuration to JSON for the database, and `Scan` reads such bytes back with the JSON loader.

Bytes are represented by the document they parse to; a stream holding no document, and bytes
that are not JSON, are not represented.

`loaded_eq` says what every loader's result is: `AfterUnmarshal` of some configuration, which
`Validate` accepts. The loaders that read the environment let its options replace the file's
before `AfterUnmarshal`, so the secrets it derives follow the environment's master key.
-/

set_option autoImplicit false

namespace Skygear
namespace Config

open Encoding

/-! ## 1. The loaders -/

/-- The tail every loader shares: `c.AfterUnmarshal(); err = c.Validate(); if err != nil
    { return nil, err }; return c, nil`. -/
def afterUnmarshalAndValidate (v : Validators) (c : TenantConfiguration) :
    Except Panic (Except Error TenantConfiguration) :=
  let c := afterUnmarshal c
  match validate v c with
  | .error p => .error p
  | .ok (some err) => .ok (.error err)
  | .ok none => .ok (.ok c)

/-- `NewTenantConfigurationFromJSON`. -/
def newTenantConfigurationFromJSON (v : Validators) (doc : Doc) :
    Except Panic (Except Error TenantConfiguration) :=
  match TenantConfiguration.codec.decode json doc loadingDefaults with
  | .error err => .ok (.error err)
  | .ok config => afterUnmarshalAndValidate v config

/-- `loadTenantConfigurationFromYAML`: decoding only. -/
def loadTenantConfigurationFromYAML (doc : Doc) : Except Error TenantConfiguration :=
  TenantConfiguration.codec.decode yaml doc loadingDefaults

/-- `NewTenantConfigurationFromYAML`. -/
def newTenantConfigurationFromYAML (v : Validators) (doc : Doc) :
    Except Panic (Except Error TenantConfiguration) :=
  match loadTenantConfigurationFromYAML doc with
  | .error err => .ok (.error err)
  | .ok config => afterUnmarshalAndValidate v config

/-- `FromScratchOptions`, read from the environment by `envconfig`. -/
structure FromScratchOptions where
  appName : String
  databaseURL : String
  apiKey : String
  masterKey : String
  deriving DecidableEq, Repr

/-- `NewTenantConfigurationFromScratch`. -/
def newTenantConfigurationFromScratch (v : Validators) (options : FromScratchOptions) :
    Except Panic (Except Error TenantConfiguration) :=
  afterUnmarshalAndValidate v
    { loadingDefaults with
      version := "1"
      appName := options.appName
      appConfig := { loadingDefaults.appConfig with databaseURL := options.databaseURL }
      userConfig :=
        { loadingDefaults.userConfig with
          apiKey := options.apiKey, masterKey := options.masterKey } }

/-! ## 2. `Value` and `Scan` -/

/-- The value a database driver hands to `Scan`: nil, bytes (by the document they parse to),
    or a value of another Go type. -/
inductive DriverValue where
  | null
  | bytes (doc : Doc)
  | other (goType : String)
  deriving Repr

/-- `TenantConfiguration.Value`: `json.Marshal(*c)`. -/
def TenantConfiguration.value (c : TenantConfiguration) : Except Error DriverValue :=
  .bytes <$> TenantConfiguration.codec.encode c

/-- `TenantConfiguration.Scan`: the receiver afterwards, or the error. A nil value leaves the
    receiver as it was. -/
def TenantConfiguration.scan (c : TenantConfiguration) (v : Validators) (value : DriverValue) :
    Except Panic (Except Error TenantConfiguration) :=
  match value with
  | .null => .ok (.ok c)
  | .bytes doc => newTenantConfigurationFromJSON v doc
  | .other goType => .ok (.error (.new ("Cannot convert " ++ goType ++ " to TenantConfiguration")))

/-! ## 3. What the loaders return -/

theorem afterUnmarshalAndValidate_eq_ok {v : Validators} {c₀ c : TenantConfiguration} :
    afterUnmarshalAndValidate v c₀ = .ok (.ok c) ↔
      c = afterUnmarshal c₀ ∧ validate v c = .ok none := by
  simp only [afterUnmarshalAndValidate]
  rcases h : validate v (afterUnmarshal c₀) with p | _ | err
  · simp only [reduceCtorEq, false_iff, not_and]
    rintro rfl; simp [h]
  · simp only [Except.ok.injEq]
    constructor
    · rintro rfl; exact ⟨rfl, h⟩
    · rintro ⟨rfl, -⟩; rfl
  · simp only [Except.ok.injEq, reduceCtorEq, false_iff, not_and]
    rintro rfl; simp [h]

/-- The document sets `user_config.auth.login_id_keys` to the object with `entries`, with one
    member at each step of the path. -/
def SetsLoginIDKeys (fmt : Format) (doc : Doc) (entries : List (String × Doc)) : Prop :=
  (doc.member fmt "user_config" >>= Doc.member fmt "auth" >>= Doc.member fmt "login_id_keys") =
    some (.map entries)

theorem newTenantConfigurationFromJSON_eq_ok {v : Validators} {doc : Doc}
    {c : TenantConfiguration} (h : newTenantConfigurationFromJSON v doc = .ok (.ok c)) :
    ∃ c₀, TenantConfiguration.codec.decode json doc loadingDefaults = .ok c₀ ∧
      c = afterUnmarshal c₀ := by
  unfold newTenantConfigurationFromJSON at h
  split at h
  · cases h
  · next c₀ hd => exact ⟨c₀, hd, (afterUnmarshalAndValidate_eq_ok.mp h).1⟩

theorem newTenantConfigurationFromYAML_eq_ok {v : Validators} {doc : Doc}
    {c : TenantConfiguration} (h : newTenantConfigurationFromYAML v doc = .ok (.ok c)) :
    ∃ c₀, TenantConfiguration.codec.decode yaml doc loadingDefaults = .ok c₀ ∧
      c = afterUnmarshal c₀ := by
  unfold newTenantConfigurationFromYAML loadTenantConfigurationFromYAML at h
  split at h
  · cases h
  · next c₀ hd => exact ⟨c₀, hd, (afterUnmarshalAndValidate_eq_ok.mp h).1⟩

/-- Decoding stores the document's login ID keys into the built-in map, which keeps its own. -/
theorem loginIDKeys_of_decode {fmt : Format} {doc : Doc} {entries : List (String × Doc)}
    {c : TenantConfiguration} (hs : SetsLoginIDKeys fmt doc entries)
    (h : TenantConfiguration.codec.decode fmt doc loadingDefaults = .ok c) (k : String) :
    (c.userConfig.auth.loginIDKeys.get? k).isSome ↔
      (defaultLoginIDKeys.get? k).isSome ∨ k ∈ entries.map Prod.fst := by
  obtain ⟨da, ⟨du, hu, ha⟩, hk⟩ := by simpa [SetsLoginIDKeys, Option.bind_eq_some] using hs
  -- user_config is the fourth field, auth the fifth, login_id_keys the first
  have huser : UserConfiguration.codec.decode fmt du defaultUserConfiguration = .ok c.userConfig :=
    Codec.struct_decode_member _ _ _ (.tail _ (.tail _ (.tail _ (.head _)))) hu h
  have hauth : AuthConfiguration.codec.decode fmt da defaultUserConfiguration.auth =
      .ok c.userConfig.auth :=
    Codec.struct_decode_member _ _ _ (.tail _ (.tail _ (.tail _ (.tail _ (.head _))))) ha huser
  exact Codec.map_decode_keys _ _ (Codec.struct_decode_member _ _ _ (.head _) hk hauth) k

theorem afterUnmarshal_loginIDKeys_get?_isSome (c : TenantConfiguration) (k : String) :
    ((afterUnmarshal c).userConfig.auth.loginIDKeys.get? k).isSome =
      (c.userConfig.auth.loginIDKeys.get? k).isSome := by
  simp [afterUnmarshal_loginIDKeys]

/-- The login ID keys of a configuration loaded from a document that sets them: the built-in
    keys stay, whichever the document lists. -/
theorem loginIDKeys_of_loaded_document (v : Validators) (doc : Doc)
    (entries : List (String × Doc)) (c : TenantConfiguration)
    (h : (SetsLoginIDKeys json doc entries ∧ newTenantConfigurationFromJSON v doc = .ok (.ok c)) ∨
      (SetsLoginIDKeys yaml doc entries ∧ newTenantConfigurationFromYAML v doc = .ok (.ok c)))
    (k : String) :
    (c.userConfig.auth.loginIDKeys.get? k).isSome ↔
      (defaultLoginIDKeys.get? k).isSome ∨ k ∈ entries.map Prod.fst := by
  rcases h with ⟨hs, h⟩ | ⟨hs, h⟩
  · obtain ⟨c₀, hd, rfl⟩ := newTenantConfigurationFromJSON_eq_ok h
    rw [afterUnmarshal_loginIDKeys_get?_isSome]
    exact loginIDKeys_of_decode hs hd k
  · obtain ⟨c₀, hd, rfl⟩ := newTenantConfigurationFromYAML_eq_ok h
    rw [afterUnmarshal_loginIDKeys_get?_isSome]
    exact loginIDKeys_of_decode hs hd k

/-- A JSON document that lists only the email key loads with the username key as well. -/
theorem loginIDKeys_of_loaded_document_email_only :
    let v : Validators := ⟨fun _ => none, fun _ => none⟩
    let entries : List (String × Doc) := [("email", .map [("type", .str "email")])]
    let doc : Doc := .map
      [("version", .str "1"), ("app_name", .str "myapp"),
       ("app_config", .map [("database_url", .str "postgres://")]),
       ("user_config",
        .map [("master_key", .str "masterkey"), ("auth", .map [("login_id_keys", .map entries)])])]
    ∃ c, SetsLoginIDKeys json doc entries ∧ newTenantConfigurationFromJSON v doc = .ok (.ok c) ∧
      "username" ∉ entries.map Prod.fst ∧
      (c.userConfig.auth.loginIDKeys.get? "username").isSome := by
  intro v entries doc
  obtain ⟨c, hc⟩ : ∃ c, newTenantConfigurationFromJSON v doc = .ok (.ok c) := ⟨_, rfl⟩
  have hs : SetsLoginIDKeys json doc entries := rfl
  exact ⟨c, hs, hc, by decide,
    (loginIDKeys_of_loaded_document v doc entries c (.inl ⟨hs, hc⟩) "username").mpr (.inl rfl)⟩

/-! ## 5. The secrets

`AfterUnmarshal` defaults the token store's secret, the OAuth state secret and the hook secret
to the master key. -/

/-- The secrets `AfterUnmarshal` defaults from the master key. -/
def derivedSecrets (c : TenantConfiguration) : List String :=
  [c.userConfig.tokenStore.secret, c.userConfig.sso.oauth.stateJWTSecret, c.userConfig.hook.secret]

/-! ## 6. The environment

`NewTenantConfigurationFromEnv` builds the configuration from scratch out of the options
`envconfig` reads. `NewTenantConfigurationFromYAMLAndEnv` falls back to that when the file cannot
be opened; otherwise it decodes the file and lets every option the environment sets replace the
file's, before `AfterUnmarshal` derives the secrets from the master key. The environment is the
result of `envconfig.Process`, and the file is the result of `open`. -/

/-- `NewTenantConfigurationFromEnv`. -/
def newTenantConfigurationFromEnv (v : Validators) (env : Except Error FromScratchOptions) :
    Except Panic (Except Error TenantConfiguration) :=
  match env with
  | .error err => .ok (.error err)
  | .ok options => newTenantConfigurationFromScratch v options

/-- One override: `if option != "" { field = option }`. -/
def overrideIfSet (option field : String) : String := if option ≠ "" then option else field

/-- "Allow override from env". -/
def overrideFromEnv (options : FromScratchOptions) (c : TenantConfiguration) :
    TenantConfiguration :=
  { c with
    appName := overrideIfSet options.appName c.appName
    appConfig :=
      { c.appConfig with databaseURL := overrideIfSet options.databaseURL c.appConfig.databaseURL }
    userConfig :=
      { c.userConfig with
        apiKey := overrideIfSet options.apiKey c.userConfig.apiKey
        masterKey := overrideIfSet options.masterKey c.userConfig.masterKey } }

/-- `NewTenantConfigurationFromYAMLAndEnv`. -/
def newTenantConfigurationFromYAMLAndEnv (v : Validators) (env : Except Error FromScratchOptions)
    (reader : Except Error Doc) : Except Panic (Except Error TenantConfiguration) :=
  match env with
  | .error err => .ok (.error err)
  | .ok options =>
    match reader with
    -- Load from env directly
    | .error _ => newTenantConfigurationFromScratch v options
    | .ok doc =>
      match loadTenantConfigurationFromYAML doc with
      | .error err => .ok (.error err)
      | .ok c => afterUnmarshalAndValidate v (overrideFromEnv options c)

@[simp] theorem overrideIfSet_of_ne {option : String} (h : option ≠ "") (field : String) :
    overrideIfSet option field = option :=
  if_pos h

/-- A configuration whose API key is its master key is never returned. -/
theorem afterUnmarshalAndValidate_ne_of_keys_eq {v : Validators} {c₀ : TenantConfiguration}
    (h : c₀.userConfig.apiKey = c₀.userConfig.masterKey) (c : TenantConfiguration) :
    afterUnmarshalAndValidate v c₀ ≠ .ok (.ok c) := by
  intro hc
  obtain ⟨rfl, hv⟩ := afterUnmarshalAndValidate_eq_ok.mp hc
  exact ((validate_eq_ok_none_iff v _).mp hv).keysDiffer h

/-- An environment that sets the API key and the master key to one value is refused, whatever
    the file holds and whether it opens. -/
theorem newTenantConfigurationFromYAMLAndEnv_same_keys (v : Validators)
    (options : FromScratchOptions) (reader : Except Error Doc)
    (hkeys : options.apiKey = options.masterKey) (hset : options.masterKey ≠ "")
    (c : TenantConfiguration) :
    newTenantConfigurationFromYAMLAndEnv v (.ok options) reader ≠ .ok (.ok c) := by
  rcases reader with _ | doc
  · exact afterUnmarshalAndValidate_ne_of_keys_eq hkeys c
  · simp only [newTenantConfigurationFromYAMLAndEnv]
    split
    · exact nofun
    · refine afterUnmarshalAndValidate_ne_of_keys_eq ?_ c
      simp [overrideFromEnv, hset, hkeys ▸ hset, hkeys]

/-- The same key for both, with a file that opens and loads. -/
theorem newTenantConfigurationFromYAMLAndEnv_same_keys_refused :
    let options : FromScratchOptions := ⟨"myapp", "postgres://", "key", "key"⟩
    options.apiKey = options.masterKey ∧ options.masterKey ≠ "" ∧
      ∀ c, newTenantConfigurationFromYAMLAndEnv ⟨fun _ => none, fun _ => none⟩ (.ok options)
        (.ok (.map [("version", .str "1")])) ≠ .ok (.ok c) := by
  intro options
  exact ⟨rfl, by decide, newTenantConfigurationFromYAMLAndEnv_same_keys _ options _ rfl
    (by decide)⟩

/-- The environment's master key replaces the file's before `AfterUnmarshal` runs: each secret
    the file leaves unset is the environment's master key, which `Validate` has checked is not
    the API key, and each secret the file sets is kept. -/
theorem newTenantConfigurationFromYAMLAndEnv_secrets (v : Validators)
    (options : FromScratchOptions) (doc : Doc) (c₀ c : TenantConfiguration)
    (hload : loadTenantConfigurationFromYAML doc = .ok c₀) (hset : options.masterKey ≠ "")
    (h : newTenantConfigurationFromYAMLAndEnv v (.ok options) (.ok doc) = .ok (.ok c)) :
    c.userConfig.masterKey = options.masterKey ∧
      List.Forall₂ (fun s s₀ => if s₀ = "" then s = options.masterKey ∧ s ≠ c.userConfig.apiKey
        else s = s₀) (derivedSecrets c) (derivedSecrets c₀) := by
  simp only [newTenantConfigurationFromYAMLAndEnv, hload] at h
  obtain ⟨rfl, hv⟩ := afterUnmarshalAndValidate_eq_ok.mp h
  have hkeys := ((validate_eq_ok_none_iff v _).mp hv).keysDiffer
  simp only [afterUnmarshal, overrideFromEnv, overrideIfSet_of_ne hset] at hkeys
  have hsecret (s₀ : String) :
      if s₀ = "" then defaultIfZero s₀ options.masterKey = options.masterKey ∧
        defaultIfZero s₀ options.masterKey ≠ overrideIfSet options.apiKey c₀.userConfig.apiKey
      else defaultIfZero s₀ options.masterKey = s₀ := by
    split_ifs with h0 <;> simp [defaultIfZero, h0, Ne.symm hkeys]
  refine ⟨overrideIfSet_of_ne hset _, ?_⟩
  simp only [derivedSecrets, afterUnmarshal, overrideFromEnv, overrideIfSet_of_ne hset]
  exact .cons (hsecret _) (.cons (hsecret _) (.cons (hsecret _) .nil))

/-- A file that sets only the hook secret, loaded with the environment's keys: the token and
    OAuth state secrets are the environment's master key, the hook secret the file's. -/
theorem newTenantConfigurationFromYAMLAndEnv_secrets_hook_set :
    let v : Validators := ⟨fun _ => none, fun _ => none⟩
    let options : FromScratchOptions := ⟨"myapp", "postgres://", "api", "master"⟩
    let doc : Doc := .map
      [("version", .str "1"), ("user_config", .map [("hook", .map [("secret", .str "hook")])])]
    ∃ c₀ c, loadTenantConfigurationFromYAML doc = .ok c₀ ∧ options.masterKey ≠ "" ∧
      newTenantConfigurationFromYAMLAndEnv v (.ok options) (.ok doc) = .ok (.ok c) ∧
      c.userConfig.masterKey = options.masterKey ∧
      List.Forall₂ (fun s s₀ => if s₀ = "" then s = options.masterKey ∧ s ≠ c.userConfig.apiKey
        else s = s₀) (derivedSecrets c) (derivedSecrets c₀) := by
  intro v options doc
  obtain ⟨c₀, hload⟩ : ∃ c₀, loadTenantConfigurationFromYAML doc = .ok c₀ := ⟨_, rfl⟩
  obtain ⟨c, hc⟩ : ∃ c, newTenantConfigurationFromYAMLAndEnv v (.ok options) (.ok doc) =
    .ok (.ok c) := ⟨_, rfl⟩
  exact ⟨c₀, c, hload, by decide, hc,
    newTenantConfigurationFromYAMLAndEnv_secrets v options doc c₀ c hload (by decide) hc⟩

end Config
end Skygear
