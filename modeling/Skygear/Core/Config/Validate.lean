import Skygear.Core.Go
import Skygear.Core.Config.AfterUnmarshal

/-!
# `TenantConfiguration.Validate` and `GetOAuthProviderByID`

`Validate` checks a configuration after `AfterUnmarshal` and returns the first error it meets,
in the order of its statements. Three of its checks are loops: over the login ID keys (whose
bounds it dereferences, so that a nil bound panics), over the keys of user verification, and
over the OAuth providers with a set of the IDs seen so far.

`name.ValidateAppName` and `validation.ValidateUserConfiguration` are declared outside `src/`;
they are the parameters `Validators`, and every result here holds for all of them.

`validate_eq_ok_none_iff` says once what a successful `Validate` means, check by check, as the
fields of `Validated`; the loops are characterised by one lemma each. The lookup of an OAuth
provider by ID then returns the provider itself for every listed provider of a validated
configuration, because the seen-set loop leaves no two providers with one ID.

Go ranges over a map in an unspecified order, and the model in key order. Which error a
failing `Validate` returns may depend on that order; whether it succeeds does not, and only
success is characterised here.
-/

set_option autoImplicit false

namespace Skygear
namespace Config

/-! ## 1. The function -/

def SMTPModeSSL : String := "ssl"

/-- `SMTPMode.IsValid`. -/
def SMTPMode.isValid (mode : String) : Bool := mode == SMTPModeNormal || mode == SMTPModeSSL

/-- The two validators `Validate` calls that are declared outside `src/`. -/
structure Validators where
  validateAppName : String → Option Error
  validateUserConfiguration : UserConfiguration → Option Error

/-- The range loop over the login ID keys: both bounds are dereferenced, and a nil one
    panics. -/
def checkLoginIDKeyRanges : List (String × LoginIDKeyConfiguration) → Except Panic (Option Error)
  | [] => .ok none
  | (_, loginIDKeyConfig) :: rest =>
    match loginIDKeyConfig.minimum, loginIDKeyConfig.maximum with
    | some minimum, some maximum =>
      if minimum > maximum ∨ maximum ≤ 0 then
        .ok (some (.new ("Invalid LoginIDKeys amount range: " ++ loginIDKeyConfig.type)))
      else checkLoginIDKeyRanges rest
    | _, _ => .error .nilDereference

/-- The loop over the keys of user verification: each must be a login ID key. -/
def checkVerifiableKeys (loginIDKeys : GoMap LoginIDKeyConfiguration) :
    List String → Option Error
  | [] => none
  | key :: rest =>
    match loginIDKeys.get? key with
    | some _ => checkVerifiableKeys loginIDKeys rest
    | none => some (.new ("Cannot verify disallowed login ID key: " ++ key))

/-- The loop over the OAuth providers, with `seenOAuthProviderID`: the set of IDs seen. -/
def checkOAuthProviderIDs (seenOAuthProviderID : GoMap Unit) :
    List OAuthProviderConfiguration → Option Error
  | [] => none
  | provider :: rest =>
    match seenOAuthProviderID.get? provider.id with
    | some _ => some (.new ("Duplicate OAuth Provider: " ++ provider.id))
    | none => checkOAuthProviderIDs (seenOAuthProviderID.insert provider.id ()) rest

/-- `TenantConfiguration.Validate`: the first failing check's error, `none` when all pass, or
    the panic of a nil login ID key bound. -/
def validate (v : Validators) (c : TenantConfiguration) : Except Panic (Option Error) :=
  let u := c.userConfig
  if c.version ≠ "1" then .ok (some (.new "Only version 1 is supported"))
  -- Validate AppConfiguration
  else if c.appConfig.databaseURL = "" then .ok (some (.new "DATABASE_URL is not set"))
  else if !SMTPMode.isValid c.appConfig.smtp.mode then .ok (some (.new "Invalid SMTP mode"))
  -- Validate AppName
  else if c.appName = "" then .ok (some (.new "APP_NAME is not set"))
  else if let some err := v.validateAppName c.appName then .ok (some err)
  -- Validate UserConfiguration
  else if let some err := v.validateUserConfiguration u then .ok (some err)
  -- Validate complex UserConfiguration
  else if u.apiKey = u.masterKey then .ok (some (.new "MASTER_KEY cannot be the same as API_KEY"))
  else
    match checkLoginIDKeyRanges u.auth.loginIDKeys.entries with
    | .error p => .error p
    | .ok (some err) => .ok (some err)
    | .ok none =>
      .ok ((checkVerifiableKeys u.auth.loginIDKeys u.userVerification.loginIDKeys.keys).or
        -- Validate OAuth
        (checkOAuthProviderIDs GoMap.empty u.sso.oauth.providers.items))

/-! ## 2. What each loop accepts -/

/-- The bounds of a login ID key are set and form a non-empty range above zero. -/
def LoginIDKeyConfiguration.InRange (config : LoginIDKeyConfiguration) : Prop :=
  ∃ minimum maximum, config.minimum = some minimum ∧ config.maximum = some maximum ∧
    minimum ≤ maximum ∧ 0 < maximum

theorem checkLoginIDKeyRanges_eq_ok_none_iff :
    ∀ l : List (String × LoginIDKeyConfiguration),
      checkLoginIDKeyRanges l = .ok none ↔ ∀ e ∈ l, e.2.InRange
  | [] => by simp [checkLoginIDKeyRanges]
  | (_, config) :: rest => by
    rw [List.forall_mem_cons, ← checkLoginIDKeyRanges_eq_ok_none_iff rest]
    rcases config with ⟨type, _ | minimum, _ | maximum⟩ <;>
      simp [checkLoginIDKeyRanges, LoginIDKeyConfiguration.InRange]
    split_ifs with h <;> simp <;> omega

theorem checkVerifiableKeys_eq_none_iff (loginIDKeys : GoMap LoginIDKeyConfiguration) :
    ∀ keys : List String,
      checkVerifiableKeys loginIDKeys keys = none ↔ ∀ key ∈ keys, (loginIDKeys.get? key).isSome
  | [] => by simp [checkVerifiableKeys]
  | key :: rest => by
    have ih := checkVerifiableKeys_eq_none_iff loginIDKeys rest
    unfold checkVerifiableKeys
    split <;> simp_all

/-- The seen-set loop passes exactly when the IDs are distinct and none was seen before. -/
theorem checkOAuthProviderIDs_eq_none_iff :
    ∀ (seen : GoMap Unit) (providers : List OAuthProviderConfiguration),
      checkOAuthProviderIDs seen providers = none ↔
        (providers.map (·.id)).Nodup ∧ ∀ p ∈ providers, seen.get? p.id = none
  | _, [] => by simp [checkOAuthProviderIDs]
  | seen, provider :: rest => by
    have ih := checkOAuthProviderIDs_eq_none_iff (seen.insert provider.id ()) rest
    unfold checkOAuthProviderIDs
    split
    · simp_all
    · rename_i hseen
      rw [ih]
      simp only [GoMap.get?_insert_eq_none, List.map_cons, List.nodup_cons, List.mem_map,
        List.forall_mem_cons, hseen, true_and, forall_and, ne_eq, not_exists, not_and]
      tauto

/-! ## 3. What `Validate` accepts -/

/-- Every check of `Validate` passes. -/
structure Validated (v : Validators) (c : TenantConfiguration) : Prop where
  version : c.version = "1"
  databaseURL : c.appConfig.databaseURL ≠ ""
  smtpMode : SMTPMode.isValid c.appConfig.smtp.mode = true
  appName : c.appName ≠ ""
  validAppName : v.validateAppName c.appName = none
  validUserConfiguration : v.validateUserConfiguration c.userConfig = none
  keysDiffer : c.userConfig.apiKey ≠ c.userConfig.masterKey
  loginIDKeyRanges : ∀ e ∈ c.userConfig.auth.loginIDKeys.entries, e.2.InRange
  verifiableKeys : ∀ key ∈ c.userConfig.userVerification.loginIDKeys.keys,
    (c.userConfig.auth.loginIDKeys.get? key).isSome
  providerIDsNodup : (c.userConfig.sso.oauth.providers.items.map (·.id)).Nodup

theorem validated_iff (v : Validators) (c : TenantConfiguration) :
    Validated v c ↔ c.version = "1" ∧ c.appConfig.databaseURL ≠ "" ∧
      SMTPMode.isValid c.appConfig.smtp.mode = true ∧ c.appName ≠ "" ∧
      v.validateAppName c.appName = none ∧ v.validateUserConfiguration c.userConfig = none ∧
      c.userConfig.apiKey ≠ c.userConfig.masterKey ∧
      checkLoginIDKeyRanges c.userConfig.auth.loginIDKeys.entries = .ok none ∧
      checkVerifiableKeys c.userConfig.auth.loginIDKeys
        c.userConfig.userVerification.loginIDKeys.keys = none ∧
      checkOAuthProviderIDs GoMap.empty c.userConfig.sso.oauth.providers.items = none := by
  simp only [checkLoginIDKeyRanges_eq_ok_none_iff, checkVerifiableKeys_eq_none_iff,
    checkOAuthProviderIDs_eq_none_iff, GoMap.get?_empty, implies_true, and_true]
  constructor
  · rintro ⟨h₁, h₂, h₃, h₄, h₅, h₆, h₇, h₈, h₉, h₁₀⟩
    exact ⟨h₁, h₂, h₃, h₄, h₅, h₆, h₇, h₈, h₉, h₁₀⟩
  · rintro ⟨h₁, h₂, h₃, h₄, h₅, h₆, h₇, h₈, h₉, h₁₀⟩
    exact ⟨h₁, h₂, h₃, h₄, h₅, h₆, h₇, h₈, h₉, h₁₀⟩

/-- `Validate` succeeds exactly when every check passes: the checks before the loops by their
    conditions, the loops by what each accepts. -/
theorem validate_eq_ok_none_iff (v : Validators) (c : TenantConfiguration) :
    validate v c = .ok none ↔ Validated v c := by
  rw [validated_iff]
  unfold validate
  cases v.validateAppName c.appName <;> cases hu : v.validateUserConfiguration c.userConfig <;>
    rcases hr : checkLoginIDKeyRanges c.userConfig.auth.loginIDKeys.entries with _ | _ | _ <;>
    simp [ite_eq_iff, hu, hr]

/-! ## 4. `GetOAuthProviderByID` -/

theorem getOAuthProviderByIDIn_of_mem {p : OAuthProviderConfiguration} :
    ∀ {providers : List OAuthProviderConfiguration}, (providers.map (·.id)).Nodup →
      p ∈ providers → getOAuthProviderByIDIn p.id providers = (p, true)
  | q :: rest, hnd, hp => by
    simp only [List.map_cons, List.nodup_cons, List.mem_map, not_exists, not_and] at hnd
    rcases List.mem_cons.mp hp with rfl | hp
    · simp [getOAuthProviderByIDIn]
    · have hne : q.id ≠ p.id := fun he => hnd.1 p hp he.symm
      simp [getOAuthProviderByIDIn, hne, getOAuthProviderByIDIn_of_mem hnd.2 hp]

theorem getOAuthProviderByIDIn_of_not_mem {id : String} :
    ∀ {providers : List OAuthProviderConfiguration}, (∀ p ∈ providers, p.id ≠ id) →
      getOAuthProviderByIDIn id providers = ({}, false)
  | [], _ => rfl
  | q :: rest, h => by
    simp only [List.mem_cons, forall_eq_or_imp] at h
    simp [getOAuthProviderByIDIn, h.1, getOAuthProviderByIDIn_of_not_mem h.2]

/-- After `AfterUnmarshal` and a successful `Validate`, the lookup by ID returns each listed
    provider itself, and the zero value and `false` for an ID no provider has. -/
theorem getOAuthProviderByID_of_validate (v : Validators) (c : TenantConfiguration)
    (h : validate v (afterUnmarshal c) = .ok none) :
    (∀ p ∈ (afterUnmarshal c).userConfig.sso.oauth.providers,
      (afterUnmarshal c).getOAuthProviderByID p.id = (p, true)) ∧
    (∀ id, (∀ p ∈ (afterUnmarshal c).userConfig.sso.oauth.providers, p.id ≠ id) →
      (afterUnmarshal c).getOAuthProviderByID id = ({}, false)) :=
  ⟨fun _ hp => getOAuthProviderByIDIn_of_mem
      ((validate_eq_ok_none_iff v _).mp h).providerIDsNodup hp,
    fun _ hid => getOAuthProviderByIDIn_of_not_mem hid⟩

/-- Two providers of one type and no ID: `AfterUnmarshal` gives both the type as ID, and
    `Validate` refuses the configuration. -/
example :
    let c : TenantConfiguration :=
      { version := "1", appName := "myapp", appConfig := { databaseURL := "postgres://db" }
        userConfig :=
          { apiKey := "api", masterKey := "master"
            sso := { oauth :=
              { providers := .mk [{ type := "google" }, { type := "google" }] } } } }
    validate ⟨fun _ => none, fun _ => none⟩ (afterUnmarshal c) =
      .ok (some (.new "Duplicate OAuth Provider: google")) := by
  decide

/-- Validators that accept everything, a provider with its ID defaulted from its type and one
    with an ID of its own. -/
theorem getOAuthProviderByID_of_validate_two_providers :
    let v : Validators := ⟨fun _ => none, fun _ => none⟩
    let c : TenantConfiguration :=
      { version := "1", appName := "myapp", appConfig := { databaseURL := "postgres://db" }
        userConfig :=
          { apiKey := "api", masterKey := "master"
            sso := { oauth :=
              { providers := .mk [{ type := "google" }, { id := "fb", type := "facebook" }] } } } }
    validate v (afterUnmarshal c) = .ok none ∧
      (afterUnmarshal c).getOAuthProviderByID "google" =
        ({ id := "google", type := "google", scope := "profile email" }, true) := by
  intro v c
  have hv : validate v (afterUnmarshal c) = .ok none := by decide
  exact ⟨hv, (getOAuthProviderByID_of_validate v c hv).1
    { id := "google", type := "google", scope := "profile email" } (by decide)⟩

/-! ## 5. The login ID keys after `AfterUnmarshal`

`AfterUnmarshal` sets both bounds of every login ID key, so the range loop of `Validate`, which
dereferences them, cannot panic on a configuration that went through it; the defaults also
decide which keys with no maximum pass that loop. -/

/-- `AfterUnmarshal`'s defaults set both bounds of a login ID key. -/
theorem defaultLoginIDKey_bounds_isSome (config : LoginIDKeyConfiguration) :
    (defaultLoginIDKey config).minimum.isSome ∧ (defaultLoginIDKey config).maximum.isSome := by
  rcases config with ⟨_, _ | _, _ | _⟩ <;> simp [defaultLoginIDKey]

/-- Over keys whose bounds are all set, the range loop does not panic. -/
theorem checkLoginIDKeyRanges_ne_error :
    ∀ l : List (String × LoginIDKeyConfiguration),
      (∀ e ∈ l, e.2.minimum.isSome ∧ e.2.maximum.isSome) → ∀ p, checkLoginIDKeyRanges l ≠ .error p
  | [], _, _ => nofun
  | (_, config) :: rest, h, p => by
    rw [List.forall_mem_cons] at h
    obtain ⟨minimum, hmin⟩ : ∃ m, config.minimum = some m := Option.isSome_iff_exists.mp h.1.1
    obtain ⟨maximum, hmax⟩ : ∃ m, config.maximum = some m := Option.isSome_iff_exists.mp h.1.2
    simp only [checkLoginIDKeyRanges, hmin, hmax]
    split_ifs
    · exact nofun
    · exact checkLoginIDKeyRanges_ne_error rest h.2 p

/-- `Validate` panics only in the range loop. -/
theorem validate_ne_error {v : Validators} {c : TenantConfiguration}
    (h : ∀ p, checkLoginIDKeyRanges c.userConfig.auth.loginIDKeys.entries ≠ .error p) (p : Panic) :
    validate v c ≠ .error p := by
  intro hv
  dsimp only [validate] at hv
  split_ifs at hv
  repeat' split at hv
  all_goals first | exact h _ ‹_› | cases hv

/-- A key whose maximum is unset passes the range check after the defaults exactly when its
    minimum is unset or not negative: the default maximum is 1 over a zero minimum, and the
    minimum itself otherwise. -/
theorem checkLoginIDKeyRanges_defaultLoginIDKey (k : String) {config : LoginIDKeyConfiguration}
    (h : config.maximum = none) :
    checkLoginIDKeyRanges [(k, defaultLoginIDKey config)] = .ok none ↔
      config.minimum = none ∨ ∃ m, config.minimum = some m ∧ 0 ≤ m := by
  obtain ⟨type, minimum, maximum⟩ := config
  subst h
  rw [checkLoginIDKeyRanges_eq_ok_none_iff]
  cases minimum with
  | none => simp [defaultLoginIDKey, LoginIDKeyConfiguration.InRange]
  | some m => simp [defaultLoginIDKey, LoginIDKeyConfiguration.InRange]; omega

/-- After `AfterUnmarshal` every login ID key has both bounds, so neither the range loop nor
    the rest of `Validate` panics; and a key whose maximum was unset passes the range check
    exactly when its minimum was unset or is not negative. -/
theorem loginIDKeys_bounds_of_afterUnmarshal (c : TenantConfiguration) :
    (∀ k config, (afterUnmarshal c).userConfig.auth.loginIDKeys.get? k = some config →
      config.minimum.isSome ∧ config.maximum.isSome) ∧
    (∀ p, checkLoginIDKeyRanges (afterUnmarshal c).userConfig.auth.loginIDKeys.entries ≠
      .error p) ∧
    (∀ v p, validate v (afterUnmarshal c) ≠ .error p) ∧
    ∀ k config config', c.userConfig.auth.loginIDKeys.get? k = some config →
      (afterUnmarshal c).userConfig.auth.loginIDKeys.get? k = some config' →
      config.maximum = none →
      (checkLoginIDKeyRanges [(k, config')] = .ok none ↔
        config.minimum = none ∨ ∃ m, config.minimum = some m ∧ 0 ≤ m) := by
  have hbounds : ∀ k config, (afterUnmarshal c).userConfig.auth.loginIDKeys.get? k = some config →
      config.minimum.isSome ∧ config.maximum.isSome := fun k config h => by
    rw [afterUnmarshal_loginIDKeys, GoMap.get?_mapValues] at h
    obtain ⟨config₀, -, rfl⟩ := Option.map_eq_some'.mp h
    exact defaultLoginIDKey_bounds_isSome config₀
  have hloop := checkLoginIDKeyRanges_ne_error _ fun e he => hbounds e.1 e.2 (GoMap.get?_of_mem he)
  refine ⟨hbounds, hloop, fun _ => validate_ne_error hloop, fun k config config' hc h' hmax => ?_⟩
  rw [afterUnmarshal_loginIDKeys, GoMap.get?_mapValues, hc, Option.map_some'] at h'
  cases h'
  exact checkLoginIDKeyRanges_defaultLoginIDKey k hmax

end Config
end Skygear
