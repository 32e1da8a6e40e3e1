import Mathlib.Tactic.FinCases
import Skygear.Core.Encoding.Reflect
import Skygear.Core.Config.Tenant

/-!
# The configuration's fields and tags

Each configuration struct is the list of its fields with the names of their `json` tags (the
`yaml` tags carry the same names), in declaration order: this is all that reflection reads, and
`Codec.struct` turns it into the struct's decoder and encoder. Every tag has `omitempty`.

The laws each list obeys (`Fields`) are checked here, struct by struct: each setter changes its
own field only, the fields cover the struct, and the names are distinct lower-case names. Each
struct's codec is an abbreviation of `Codec.struct`, so that the facts stated once about
`Codec.struct` (that `omitempty` never leaves a struct out, its zero value) apply to it.
-/

set_option autoImplicit false

namespace Skygear
namespace Config

open Encoding

/-! ## 1. Application configuration -/

def SMTPConfiguration.fields : Fields SMTPConfiguration where
  list :=
    [field "port" Codec.int (·.port) fun c v => { c with port := v },
     field "mode" Codec.string (·.mode) fun c v => { c with mode := v }]
  get_set _ hf _ _ := by fin_cases hf <;> rfl
  set_get _ hf _ := by fin_cases hf <;> rfl
  independent := by
    repeat' constructor
    all_goals intro _ hg; fin_cases hg <;> exact ⟨fun _ _ => rfl, fun _ _ => rfl⟩
  names := by decide
  names_folded _ hf := by fin_cases hf <;> decide
  cover _ _ := by simp [field]

abbrev SMTPConfiguration.codec : Codec SMTPConfiguration :=
  Codec.struct {} SMTPConfiguration.fields "config.SMTPConfiguration"


def HookAppConfiguration.fields : Fields HookAppConfiguration where
  list :=
    [field "sync_hook_timeout_second" Codec.int (·.syncHookTimeout)
       fun c v => { c with syncHookTimeout := v },
     field "sync_hook_total_timeout_second" Codec.int (·.syncHookTotalTimeout)
       fun c v => { c with syncHookTotalTimeout := v }]
  get_set _ hf _ _ := by fin_cases hf <;> rfl
  set_get _ hf _ := by fin_cases hf <;> rfl
  independent := by
    repeat' constructor
    all_goals intro _ hg; fin_cases hg <;> exact ⟨fun _ _ => rfl, fun _ _ => rfl⟩
  names := by decide
  names_folded _ hf := by fin_cases hf <;> decide
  cover _ _ := by simp [field]

abbrev HookAppConfiguration.codec : Codec HookAppConfiguration :=
  Codec.struct {} HookAppConfiguration.fields "config.HookAppConfiguration"


def AppConfiguration.fields : Fields AppConfiguration where
  list :=
    [field "database_url" Codec.string (·.databaseURL) fun c v => { c with databaseURL := v },
     field "smtp" SMTPConfiguration.codec (·.smtp) fun c v => { c with smtp := v },
     field "hook" HookAppConfiguration.codec (·.hook) fun c v => { c with hook := v }]
  get_set _ hf _ _ := by fin_cases hf <;> rfl
  set_get _ hf _ := by fin_cases hf <;> rfl
  independent := by
    repeat' constructor
    all_goals intro _ hg; fin_cases hg <;> exact ⟨fun _ _ => rfl, fun _ _ => rfl⟩
  names := by decide
  names_folded _ hf := by fin_cases hf <;> decide
  cover _ _ := by simp [field]

abbrev AppConfiguration.codec : Codec AppConfiguration :=
  Codec.struct {} AppConfiguration.fields "config.AppConfiguration"


/-! ## 2. User configuration -/

def CORSConfiguration.fields : Fields CORSConfiguration where
  list :=
    [field "origin" Codec.string (·.origin) fun c v => { c with origin := v }]
  get_set _ hf _ _ := by fin_cases hf; rfl
  set_get _ hf _ := by fin_cases hf; rfl
  independent := List.pairwise_singleton _ _
  names := by decide
  names_folded _ hf := by fin_cases hf; decide
  cover _ _ := by simp [field]

abbrev CORSConfiguration.codec : Codec CORSConfiguration :=
  Codec.struct {} CORSConfiguration.fields "config.CORSConfiguration"


def LoginIDKeyConfiguration.fields : Fields LoginIDKeyConfiguration where
  list :=
    [field "type" Codec.string (·.type) fun c v => { c with type := v },
     field "minimum" (Codec.ptr Codec.int) (·.minimum) fun c v => { c with minimum := v },
     field "maximum" (Codec.ptr Codec.int) (·.maximum) fun c v => { c with maximum := v }]
  get_set _ hf _ _ := by fin_cases hf <;> rfl
  set_get _ hf _ := by fin_cases hf <;> rfl
  independent := by
    repeat' constructor
    all_goals intro _ hg; fin_cases hg <;> exact ⟨fun _ _ => rfl, fun _ _ => rfl⟩
  names := by decide
  names_folded _ hf := by fin_cases hf <;> decide
  cover _ _ := by simp [field]

abbrev LoginIDKeyConfiguration.codec : Codec LoginIDKeyConfiguration :=
  Codec.struct {} LoginIDKeyConfiguration.fields "config.LoginIDKeyConfiguration"


def AuthConfiguration.fields : Fields AuthConfiguration where
  list :=
    [field "login_id_keys"
       (Codec.map LoginIDKeyConfiguration.codec "map[string]config.LoginIDKeyConfiguration")
       (·.loginIDKeys) fun c v => { c with loginIDKeys := v },
     field "allowed_realms" (Codec.slice Codec.string "[]string")
       (·.allowedRealms) fun c v => { c with allowedRealms := v }]
  get_set _ hf _ _ := by fin_cases hf <;> rfl
  set_get _ hf _ := by fin_cases hf <;> rfl
  independent := by
    repeat' constructor
    all_goals intro _ hg; fin_cases hg <;> exact ⟨fun _ _ => rfl, fun _ _ => rfl⟩
  names := by decide
  names_folded _ hf := by fin_cases hf <;> decide
  cover _ _ := by simp [field]

abbrev AuthConfiguration.codec : Codec AuthConfiguration :=
  Codec.struct {} AuthConfiguration.fields "config.AuthConfiguration"


def TokenStoreConfiguration.fields : Fields TokenStoreConfiguration where
  list :=
    [field "secret" Codec.string (·.secret) fun c v => { c with secret := v }]
  get_set _ hf _ _ := by fin_cases hf; rfl
  set_get _ hf _ := by fin_cases hf; rfl
  independent := List.pairwise_singleton _ _
  names := by decide
  names_folded _ hf := by fin_cases hf; decide
  cover _ _ := by simp [field]

abbrev TokenStoreConfiguration.codec : Codec TokenStoreConfiguration :=
  Codec.struct {} TokenStoreConfiguration.fields "config.TokenStoreConfiguration"


def ForgotPasswordConfiguration.fields : Fields ForgotPasswordConfiguration where
  list :=
    [field "app_name" Codec.string (·.appName) fun c v => { c with appName := v },
     field "url_prefix" Codec.string (·.urlPrefix) fun c v => { c with urlPrefix := v },
     field "sender" Codec.string (·.sender) fun c v => { c with sender := v },
     field "subject" Codec.string (·.subject) fun c v => { c with subject := v },
     field "reset_url_lifetime" Codec.int
       (·.resetURLLifetime) fun c v => { c with resetURLLifetime := v }]
  get_set _ hf _ _ := by fin_cases hf <;> rfl
  set_get _ hf _ := by fin_cases hf <;> rfl
  independent := by
    repeat' constructor
    all_goals intro _ hg; fin_cases hg <;> exact ⟨fun _ _ => rfl, fun _ _ => rfl⟩
  names := by decide
  names_folded _ hf := by fin_cases hf <;> decide
  cover _ _ := by simp [field]

abbrev ForgotPasswordConfiguration.codec : Codec ForgotPasswordConfiguration :=
  Codec.struct {} ForgotPasswordConfiguration.fields "config.ForgotPasswordConfiguration"


def WelcomeEmailConfiguration.fields : Fields WelcomeEmailConfiguration where
  list :=
    [field "url_prefix" Codec.string (·.urlPrefix) fun c v => { c with urlPrefix := v },
     field "sender" Codec.string (·.sender) fun c v => { c with sender := v },
     field "subject" Codec.string (·.subject) fun c v => { c with subject := v },
     field "destination" Codec.string (·.destination) fun c v => { c with destination := v }]
  get_set _ hf _ _ := by fin_cases hf <;> rfl
  set_get _ hf _ := by fin_cases hf <;> rfl
  independent := by
    repeat' constructor
    all_goals intro _ hg; fin_cases hg <;> exact ⟨fun _ _ => rfl, fun _ _ => rfl⟩
  names := by decide
  names_folded _ hf := by fin_cases hf <;> decide
  cover _ _ := by simp [field]

abbrev WelcomeEmailConfiguration.codec : Codec WelcomeEmailConfiguration :=
  Codec.struct {} WelcomeEmailConfiguration.fields "config.WelcomeEmailConfiguration"


def OAuthProviderConfiguration.fields : Fields OAuthProviderConfiguration where
  list :=
    [field "id" Codec.string (·.id) fun c v => { c with id := v },
     field "type" Codec.string (·.type) fun c v => { c with type := v },
     field "scope" Codec.string (·.scope) fun c v => { c with scope := v }]
  get_set _ hf _ _ := by fin_cases hf <;> rfl
  set_get _ hf _ := by fin_cases hf <;> rfl
  independent := by
    repeat' constructor
    all_goals intro _ hg; fin_cases hg <;> exact ⟨fun _ _ => rfl, fun _ _ => rfl⟩
  names := by decide
  names_folded _ hf := by fin_cases hf <;> decide
  cover _ _ := by simp [field]

abbrev OAuthProviderConfiguration.codec : Codec OAuthProviderConfiguration :=
  Codec.struct {} OAuthProviderConfiguration.fields "config.OAuthProviderConfiguration"


def OAuthConfiguration.fields : Fields OAuthConfiguration where
  list :=
    [field "url_prefix" Codec.string (·.urlPrefix) fun c v => { c with urlPrefix := v },
     field "state_jwt_secret" Codec.string
       (·.stateJWTSecret) fun c v => { c with stateJWTSecret := v },
     field "providers"
       (Codec.slice OAuthProviderConfiguration.codec "[]config.OAuthProviderConfiguration")
       (·.providers) fun c v => { c with providers := v }]
  get_set _ hf _ _ := by fin_cases hf <;> rfl
  set_get _ hf _ := by fin_cases hf <;> rfl
  independent := by
    repeat' constructor
    all_goals intro _ hg; fin_cases hg <;> exact ⟨fun _ _ => rfl, fun _ _ => rfl⟩
  names := by decide
  names_folded _ hf := by fin_cases hf <;> decide
  cover _ _ := by simp [field]

abbrev OAuthConfiguration.codec : Codec OAuthConfiguration :=
  Codec.struct {} OAuthConfiguration.fields "config.OAuthConfiguration"


def SSOConfiguration.fields : Fields SSOConfiguration where
  list :=
    [field "oauth" OAuthConfiguration.codec (·.oauth) fun c v => { c with oauth := v }]
  get_set _ hf _ _ := by fin_cases hf; rfl
  set_get _ hf _ := by fin_cases hf; rfl
  independent := List.pairwise_singleton _ _
  names := by decide
  names_folded _ hf := by fin_cases hf; decide
  cover _ _ := by simp [field]

abbrev SSOConfiguration.codec : Codec SSOConfiguration :=
  Codec.struct {} SSOConfiguration.fields "config.SSOConfiguration"


def UserVerificationProviderConfiguration.fields :
    Fields UserVerificationProviderConfiguration where
  list :=
    [field "subject" Codec.string (·.subject) fun c v => { c with subject := v },
     field "sender" Codec.string (·.sender) fun c v => { c with sender := v }]
  get_set _ hf _ _ := by fin_cases hf <;> rfl
  set_get _ hf _ := by fin_cases hf <;> rfl
  independent := by
    repeat' constructor
    all_goals intro _ hg; fin_cases hg <;> exact ⟨fun _ _ => rfl, fun _ _ => rfl⟩
  names := by decide
  names_folded _ hf := by fin_cases hf <;> decide
  cover _ _ := by simp [field]

abbrev UserVerificationProviderConfiguration.codec : Codec UserVerificationProviderConfiguration :=
  Codec.struct {} UserVerificationProviderConfiguration.fields
    "config.UserVerificationProviderConfiguration"


def UserVerificationKeyConfiguration.fields : Fields UserVerificationKeyConfiguration where
  list :=
    [field "code_format" Codec.string (·.codeFormat) fun c v => { c with codeFormat := v },
     field "expiry" Codec.int (·.expiry) fun c v => { c with expiry := v },
     field "provider_config" UserVerificationProviderConfiguration.codec
       (·.providerConfig) fun c v => { c with providerConfig := v }]
  get_set _ hf _ _ := by fin_cases hf <;> rfl
  set_get _ hf _ := by fin_cases hf <;> rfl
  independent := by
    repeat' constructor
    all_goals intro _ hg; fin_cases hg <;> exact ⟨fun _ _ => rfl, fun _ _ => rfl⟩
  names := by decide
  names_folded _ hf := by fin_cases hf <;> decide
  cover _ _ := by simp [field]

abbrev UserVerificationKeyConfiguration.codec : Codec UserVerificationKeyConfiguration :=
  Codec.struct {} UserVerificationKeyConfiguration.fields "config.UserVerificationKeyConfiguration"


def UserVerificationConfiguration.fields : Fields UserVerificationConfiguration where
  list :=
    [field "url_prefix" Codec.string (·.urlPrefix) fun c v => { c with urlPrefix := v },
     field "criteria" Codec.string (·.criteria) fun c v => { c with criteria := v },
     field "login_id_keys"
       (Codec.map UserVerificationKeyConfiguration.codec
         "map[string]config.UserVerificationKeyConfiguration")
       (·.loginIDKeys) fun c v => { c with loginIDKeys := v }]
  get_set _ hf _ _ := by fin_cases hf <;> rfl
  set_get _ hf _ := by fin_cases hf <;> rfl
  independent := by
    repeat' constructor
    all_goals intro _ hg; fin_cases hg <;> exact ⟨fun _ _ => rfl, fun _ _ => rfl⟩
  names := by decide
  names_folded _ hf := by fin_cases hf <;> decide
  cover _ _ := by simp [field]

abbrev UserVerificationConfiguration.codec : Codec UserVerificationConfiguration :=
  Codec.struct {} UserVerificationConfiguration.fields "config.UserVerificationConfiguration"


def HookUserConfiguration.fields : Fields HookUserConfiguration where
  list :=
    [field "secret" Codec.string (·.secret) fun c v => { c with secret := v }]
  get_set _ hf _ _ := by fin_cases hf; rfl
  set_get _ hf _ := by fin_cases hf; rfl
  independent := List.pairwise_singleton _ _
  names := by decide
  names_folded _ hf := by fin_cases hf; decide
  cover _ _ := by simp [field]

abbrev HookUserConfiguration.codec : Codec HookUserConfiguration :=
  Codec.struct {} HookUserConfiguration.fields "config.HookUserConfiguration"


def UserConfiguration.fields : Fields UserConfiguration where
  list :=
    [field "api_key" Codec.string (·.apiKey) fun c v => { c with apiKey := v },
     field "master_key" Codec.string (·.masterKey) fun c v => { c with masterKey := v },
     field "url_prefix" Codec.string (·.urlPrefix) fun c v => { c with urlPrefix := v },
     field "cors" CORSConfiguration.codec (·.cors) fun c v => { c with cors := v },
     field "auth" AuthConfiguration.codec (·.auth) fun c v => { c with auth := v },
     field "token_store" TokenStoreConfiguration.codec
       (·.tokenStore) fun c v => { c with tokenStore := v },
     field "forgot_password" ForgotPasswordConfiguration.codec
       (·.forgotPassword) fun c v => { c with forgotPassword := v },
     field "welcome_email" WelcomeEmailConfiguration.codec
       (·.welcomeEmail) fun c v => { c with welcomeEmail := v },
     field "sso" SSOConfiguration.codec (·.sso) fun c v => { c with sso := v },
     field "user_verification" UserVerificationConfiguration.codec
       (·.userVerification) fun c v => { c with userVerification := v },
     field "hook" HookUserConfiguration.codec (·.hook) fun c v => { c with hook := v }]
  get_set _ hf _ _ := by fin_cases hf <;> rfl
  set_get _ hf _ := by fin_cases hf <;> rfl
  independent := by
    repeat' constructor
    all_goals intro _ hg; fin_cases hg <;> exact ⟨fun _ _ => rfl, fun _ _ => rfl⟩
  names := by decide
  names_folded _ hf := by fin_cases hf <;> decide
  cover _ _ := by simp [field]

abbrev UserConfiguration.codec : Codec UserConfiguration :=
  Codec.struct {} UserConfiguration.fields "config.UserConfiguration"


/-! ## 3. The tenant configuration -/

def DeploymentRoute.fields : Fields DeploymentRoute where
  list :=
    [field "version" Codec.string (·.version) fun c v => { c with version := v },
     field "path" Codec.string (·.path) fun c v => { c with path := v },
     field "type" Codec.string (·.type) fun c v => { c with type := v },
     field "type_config" (Codec.map Codec.dyn "map[string]interface {}")
       (·.typeConfig) fun c v => { c with typeConfig := v }]
  get_set _ hf _ _ := by fin_cases hf <;> rfl
  set_get _ hf _ := by fin_cases hf <;> rfl
  independent := by
    repeat' constructor
    all_goals intro _ hg; fin_cases hg <;> exact ⟨fun _ _ => rfl, fun _ _ => rfl⟩
  names := by decide
  names_folded _ hf := by fin_cases hf <;> decide
  cover _ _ := by simp [field]

abbrev DeploymentRoute.codec : Codec DeploymentRoute :=
  Codec.struct {} DeploymentRoute.fields "config.DeploymentRoute"


def TenantConfiguration.fields : Fields TenantConfiguration where
  list :=
    [field "version" Codec.string (·.version) fun c v => { c with version := v },
     field "app_name" Codec.string (·.appName) fun c v => { c with appName := v },
     field "app_config" AppConfiguration.codec (·.appConfig) fun c v => { c with appConfig := v },
     field "user_config" UserConfiguration.codec
       (·.userConfig) fun c v => { c with userConfig := v },
     field "deployment_routes" (Codec.slice DeploymentRoute.codec "[]config.DeploymentRoute")
       (·.deploymentRoutes) fun c v => { c with deploymentRoutes := v }]
  get_set _ hf _ _ := by fin_cases hf <;> rfl
  set_get _ hf _ := by fin_cases hf <;> rfl
  independent := by
    repeat' constructor
    all_goals intro _ hg; fin_cases hg <;> exact ⟨fun _ _ => rfl, fun _ _ => rfl⟩
  names := by decide
  names_folded _ hf := by fin_cases hf <;> decide
  cover _ _ := by simp [field]

abbrev TenantConfiguration.codec : Codec TenantConfiguration :=
  Codec.struct {} TenantConfiguration.fields "config.TenantConfiguration"


end Config
end Skygear
