import Skygear.Core.Config.Tenant

/-!
# `TenantConfiguration.AfterUnmarshal`

Every loader runs `AfterUnmarshal` on the decoded configuration: it defaults secrets to the
master key, propagates the application name and the top-level URL prefix, removes one trailing
slash from each URL prefix, fills in the bounds of each login ID key, the defaults of user
verification, the ID and scope of each OAuth provider, the hook secret and timeouts.

`afterUnmarshal` is the Go function as the record it leaves: each `if x == zero { x = d }` is
the update `x := defaultIfZero x d`, and each loop over a map or a slice is the loop's effect on
every entry.

The result: a second pass changes nothing exactly when, after the
first, no URL prefix ends in a slash and no sub-prefix is empty while the top-level one is set.
Every other default is a fixed point after one pass; the trimming removes one slash only, and a
sub-prefix that the first pass trims to empty is filled from the top-level prefix by the second.
-/

set_option autoImplicit false

namespace Skygear
namespace Config

/-! ## 1. Helpers -/

/-- Go's `if x == zero { x = d }`, for the zero value of the type. -/
def defaultIfZero {α : Type} [Inhabited α] [DecidableEq α] (x d : α) : α :=
  if x = default then d else x

@[simp] theorem defaultIfZero_idem {α : Type} [Inhabited α] [DecidableEq α] (x d : α) :
    defaultIfZero (defaultIfZero x d) d = defaultIfZero x d := by
  unfold defaultIfZero; split_ifs <;> simp_all

/-- `strings.HasSuffix(url, "/")`. -/
def hasTrailingSlash (url : String) : Bool := url.toList.getLast? == some '/'

/-- `removeTrailingSlash`: `url[:len(url)-1]` when the URL ends in a slash. -/
def removeTrailingSlash (url : String) : String :=
  if hasTrailingSlash url then ⟨url.toList.dropLast⟩ else url

/-- Trimming changes a URL exactly when it ends in a slash. -/
theorem removeTrailingSlash_eq_self (url : String) :
    removeTrailingSlash url = url ↔ hasTrailingSlash url = false := by
  unfold removeTrailingSlash
  split_ifs with h
  · simp only [h, Bool.true_eq_false, iff_false]
    intro he
    have hne : url.toList ≠ [] := by
      intro hn; simp [hasTrailingSlash, String.toList] at h hn; simp [hn] at h
    have := congrArg (·.toList.length) he
    simp only [String.toList, List.length_dropLast] at this
    have : 0 < url.data.length := List.length_pos.mpr hne
    omega
  · simpa using h

/-! ## 2. The function -/

/-- The bounds of one login ID key: a nil minimum is 0, a nil maximum is 1 when the minimum is 0
    and the minimum otherwise. -/
def defaultLoginIDKey (config : LoginIDKeyConfiguration) : LoginIDKeyConfiguration :=
  let config := { config with minimum := some (config.minimum.getD 0) }
  match config.maximum with
  | some _ => config
  | none =>
    { config with
      maximum := some (if config.minimum.getD 0 = 0 then 1 else config.minimum.getD 0) }

/-- The defaults of one user verification key. -/
def defaultUserVerificationKey (config : UserVerificationKeyConfiguration) :
    UserVerificationKeyConfiguration :=
  { config with
    codeFormat := defaultIfZero config.codeFormat UserVerificationCodeFormatComplex
    expiry := defaultIfZero config.expiry 3600  -- 1 hour
    providerConfig :=
      { config.providerConfig with
        sender := defaultIfZero config.providerConfig.sender "no-reply@skygeario.com"
        subject := defaultIfZero config.providerConfig.subject "Verification instruction" } }

/-- The default scope of an OAuth provider type; no default for other types. -/
def defaultScope : String → String
  | "google" => "profile email"
  | "facebook" => "default email"
  | "instagram" => "basic"
  | "linkedin" => "r_liteprofile r_emailaddress"
  | "azureadv2" => "openid profile email"
  | _ => ""

/-- One iteration of the provider loop: the ID defaults to the type, the scope to the type's
    default scope. -/
def defaultOAuthProvider (provider : OAuthProviderConfiguration) : OAuthProviderConfiguration :=
  { provider with
    id := defaultIfZero provider.id provider.type
    scope := defaultIfZero provider.scope (defaultScope provider.type) }

/-- A sub-prefix after `AfterUnmarshal`: propagated from the top-level prefix when empty, then
    trimmed. -/
def settleSubPrefix (top sub : String) : String := removeTrailingSlash (defaultIfZero sub top)

/-- `TenantConfiguration.AfterUnmarshal`, as the record it leaves. Its statements assign
    distinct fields, and only the trimming of the URL prefixes reads what an earlier statement
    (the propagation) wrote, so each field is given by the statements that assign it, in their
    order. -/
def afterUnmarshal (c : TenantConfiguration) : TenantConfiguration :=
  let u := c.userConfig
  { c with
    appConfig :=
      { c.appConfig with
        -- Set default smtp mode
        smtp := { c.appConfig.smtp with mode := defaultIfZero c.appConfig.smtp.mode SMTPModeNormal }
        -- Set default hook timeout
        hook :=
          { syncHookTimeout := defaultIfZero c.appConfig.hook.syncHookTimeout 5
            syncHookTotalTimeout := defaultIfZero c.appConfig.hook.syncHookTotalTimeout 10 } }
    userConfig :=
      { u with
        -- Remove trailing slash in URLs
        urlPrefix := removeTrailingSlash u.urlPrefix
        -- Set default value for login ID keys config
        auth := { u.auth with loginIDKeys := u.auth.loginIDKeys.rangeWriteBack defaultLoginIDKey }
        -- Default token secret to master key
        tokenStore := { secret := defaultIfZero u.tokenStore.secret u.masterKey }
        forgotPassword :=
          { u.forgotPassword with
            -- Propagate AppName
            appName := defaultIfZero u.forgotPassword.appName c.appName
            -- Propagate URLPrefix, then remove the trailing slash
            urlPrefix := settleSubPrefix u.urlPrefix u.forgotPassword.urlPrefix }
        welcomeEmail :=
          { u.welcomeEmail with
            urlPrefix := settleSubPrefix u.urlPrefix u.welcomeEmail.urlPrefix
            -- Set default welcome email destination
            destination := defaultIfZero u.welcomeEmail.destination WelcomeEmailDestinationFirst }
        sso :=
          { oauth :=
            { urlPrefix := settleSubPrefix u.urlPrefix u.sso.oauth.urlPrefix
              -- Default oauth state secret to master key
              stateJWTSecret := defaultIfZero u.sso.oauth.stateJWTSecret u.masterKey
              -- Set type to id, and default scope for OAuth Provider
              providers := u.sso.oauth.providers.map defaultOAuthProvider } }
        userVerification :=
          { urlPrefix := settleSubPrefix u.urlPrefix u.userVerification.urlPrefix
            -- Set default user verification settings
            criteria := defaultIfZero u.userVerification.criteria UserVerificationCriteriaAny
            loginIDKeys :=
              u.userVerification.loginIDKeys.rangeWriteBack defaultUserVerificationKey }
        -- Set default hook secret
        hook := { secret := defaultIfZero u.hook.secret u.masterKey } } }

/-- The login ID keys after `AfterUnmarshal`: the write-back loop has set every entry to its
    defaults. -/
theorem afterUnmarshal_loginIDKeys (c : TenantConfiguration) :
    (afterUnmarshal c).userConfig.auth.loginIDKeys =
      c.userConfig.auth.loginIDKeys.mapValues defaultLoginIDKey :=
  GoMap.rangeWriteBack_eq_mapValues defaultLoginIDKey _

/-! ## 3. A second pass

Each default that does not touch a URL prefix is a fixed point after one pass; these are the
per-entry facts for the three loops. -/

@[simp] theorem defaultLoginIDKey_idem (config : LoginIDKeyConfiguration) :
    defaultLoginIDKey (defaultLoginIDKey config) = defaultLoginIDKey config := by
  rcases config with ⟨type, _ | min, _ | max⟩ <;> simp [defaultLoginIDKey]

@[simp] theorem defaultUserVerificationKey_idem (config : UserVerificationKeyConfiguration) :
    defaultUserVerificationKey (defaultUserVerificationKey config) =
      defaultUserVerificationKey config := by
  simp [defaultUserVerificationKey]

@[simp] theorem defaultOAuthProvider_idem (provider : OAuthProviderConfiguration) :
    defaultOAuthProvider (defaultOAuthProvider provider) = defaultOAuthProvider provider := by
  simp [defaultOAuthProvider]

theorem rangeWriteBack_idem {α : Type} (f : α → α) (hf : ∀ x, f (f x) = f x) (m : GoMap α) :
    (m.rangeWriteBack f).rangeWriteBack f = m.rangeWriteBack f := by
  simp only [GoMap.rangeWriteBack_eq_mapValues, GoMap.mapValues_mapValues]
  congr 1
  funext x
  exact hf x

/-- The sub-prefixes `AfterUnmarshal` propagates the top-level prefix to. -/
def subPrefixes (c : TenantConfiguration) : List String :=
  [c.userConfig.forgotPassword.urlPrefix, c.userConfig.welcomeEmail.urlPrefix,
    c.userConfig.sso.oauth.urlPrefix, c.userConfig.userVerification.urlPrefix]

/-- Nothing is left for the URL part of `AfterUnmarshal` to do: no URL prefix ends in a slash,
    and no sub-prefix is empty while the top-level prefix is set. -/
def URLPrefixesSettled (c : TenantConfiguration) : Prop :=
  hasTrailingSlash c.userConfig.urlPrefix = false ∧
    ∀ sub ∈ subPrefixes c, hasTrailingSlash sub = false ∧ (sub = "" → c.userConfig.urlPrefix = "")

/-- Under a top-level prefix that trimming leaves alone, a sub-prefix is settled exactly when it
    ends in no slash and is not empty unless the top-level prefix is. -/
theorem settleSubPrefix_eq_self {top : String} (sub : String)
    (htop : hasTrailingSlash top = false) :
    settleSubPrefix top sub = sub ↔ hasTrailingSlash sub = false ∧ (sub = "" → top = "") := by
  unfold settleSubPrefix defaultIfZero
  by_cases hs : sub = ""
  · subst hs
    simp [(removeTrailingSlash_eq_self top).mpr htop, hasTrailingSlash]
  · simp [hs, removeTrailingSlash_eq_self]

/-- The URL part of `AfterUnmarshal` on its own: the top-level prefix trimmed, each sub-prefix
    propagated and trimmed. -/
def settleURLPrefixes (c : TenantConfiguration) : TenantConfiguration :=
  let u := c.userConfig
  { c with
    userConfig :=
      { u with
        urlPrefix := removeTrailingSlash u.urlPrefix
        forgotPassword :=
          { u.forgotPassword with
            urlPrefix := settleSubPrefix u.urlPrefix u.forgotPassword.urlPrefix }
        welcomeEmail :=
          { u.welcomeEmail with
            urlPrefix := settleSubPrefix u.urlPrefix u.welcomeEmail.urlPrefix }
        sso :=
          { oauth :=
            { u.sso.oauth with urlPrefix := settleSubPrefix u.urlPrefix u.sso.oauth.urlPrefix } }
        userVerification :=
          { u.userVerification with
            urlPrefix := settleSubPrefix u.urlPrefix u.userVerification.urlPrefix } } }

/-- A second pass of `AfterUnmarshal` only settles the URL prefixes again: every other default
    is a fixed point after one pass. -/
theorem afterUnmarshal_afterUnmarshal (c : TenantConfiguration) :
    afterUnmarshal (afterUnmarshal c) = settleURLPrefixes (afterUnmarshal c) := by
  simp only [afterUnmarshal, settleURLPrefixes, defaultIfZero_idem,
    rangeWriteBack_idem _ defaultLoginIDKey_idem,
    rangeWriteBack_idem _ defaultUserVerificationKey_idem, GoSlice.map_map, Function.comp_def,
    defaultOAuthProvider_idem]

/-- Settling the URL prefixes changes nothing exactly when they are settled. -/
theorem settleURLPrefixes_eq_self_iff (c : TenantConfiguration) :
    settleURLPrefixes c = c ↔ URLPrefixesSettled c := by
  obtain ⟨_, _, _, ⟨_, _, top, _, _, _, ⟨_, _, _, _, _⟩, ⟨_, _, _, _⟩, ⟨⟨_, _, _⟩⟩, ⟨_, _, _⟩, _⟩,
    _⟩ := c
  simp only [settleURLPrefixes, URLPrefixesSettled, subPrefixes, TenantConfiguration.mk.injEq,
    UserConfiguration.mk.injEq, ForgotPasswordConfiguration.mk.injEq,
    WelcomeEmailConfiguration.mk.injEq, SSOConfiguration.mk.injEq, OAuthConfiguration.mk.injEq,
    UserVerificationConfiguration.mk.injEq, List.mem_cons, List.mem_singleton, forall_eq_or_imp,
    forall_eq, List.not_mem_nil, false_imp_iff, implies_true, and_true, true_and]
  by_cases hT : hasTrailingSlash top = false
  · simp [(removeTrailingSlash_eq_self _).mpr hT, settleSubPrefix_eq_self _ hT, hT]
  · simp [removeTrailingSlash_eq_self, hT]

/-- A second pass of `AfterUnmarshal` changes nothing exactly when the first left the URL
    prefixes settled: every other default is a fixed point after one pass. -/
theorem afterUnmarshal_idem_iff (c : TenantConfiguration) :
    afterUnmarshal (afterUnmarshal c) = afterUnmarshal c ↔
      URLPrefixesSettled (afterUnmarshal c) := by
  rw [afterUnmarshal_afterUnmarshal]
  exact settleURLPrefixes_eq_self_iff _

/-- A top-level prefix ending in two slashes loses one slash per pass. -/
theorem afterUnmarshal_twice_trims_again :
    let c : TenantConfiguration := { userConfig := { urlPrefix := "http://localhost:3000//" } }
    afterUnmarshal (afterUnmarshal c) ≠ afterUnmarshal c := by
  decide

end Config
end Skygear
