import Skygear.Core.GoMap
import Skygear.Core.GoSlice
import Skygear.Core.Encoding.Doc

/-!
# `TenantConfiguration` (`pkg/core/config/tenant.go`)

The tenant configuration is loaded from JSON or YAML onto built-in defaults, completed by
`AfterUnmarshal`, checked by `Validate`, and persisted through `Value` and `Scan`. This module is
the data: the configuration record, Go's zero values as the record's defaults, and the two
default configurations the loaders decode onto.

Only the fields that some function of the model reads apart from the codec are kept — the ones
with a non-zero built-in default, the ones `AfterUnmarshal` defaults, propagates or trims, and
the ones `Validate` checks — and the deployment routes, whose `type_config` is the one
`interface{}` field and the one the codec treats differently for JSON and YAML. Every other field
holds its type's zero value by default and is read by nothing but the codec: a string, an
integer, a boolean, or a slice (`hooks`, `excluded_keywords`, `allowed_callback_urls`). The codec
treats each such field as it treats a kept field of its kind — a slice set to an empty list, for
one, is left out by `Value` and comes back nil from `Scan`, as the kept slices are — so a
statement about the kept fields says the same of those under the same conditions.

Slices and maps keep whether they are nil: the built-in defaults are nil except the two the
source writes as literals, the login ID keys and the allowed realms.
-/

set_option autoImplicit false

namespace Skygear
namespace Config

instance {α : Type} [Repr α] : Repr (GoMap α) := ⟨fun m _ => repr m.entries⟩

/-! ## 1. The record -/

structure SMTPConfiguration where
  port : Int := 0
  mode : String := ""
  deriving DecidableEq, Repr

structure HookAppConfiguration where
  syncHookTimeout : Int := 0
  syncHookTotalTimeout : Int := 0
  deriving DecidableEq, Repr

/-- `AppConfiguration`: configuration kept secret from the developer. -/
structure AppConfiguration where
  databaseURL : String := ""
  smtp : SMTPConfiguration := {}
  hook : HookAppConfiguration := {}
  deriving DecidableEq, Repr

structure CORSConfiguration where
  origin : String := ""
  deriving DecidableEq, Repr

/-- One entry of `login_id_keys`: the bounds are Go `*int`, nil when unset. -/
structure LoginIDKeyConfiguration where
  type : String := ""
  minimum : Option Int := none
  maximum : Option Int := none
  deriving DecidableEq, Repr

structure AuthConfiguration where
  loginIDKeys : GoMap LoginIDKeyConfiguration := GoMap.nil
  allowedRealms : GoSlice String := .nil
  deriving DecidableEq, Repr

structure TokenStoreConfiguration where
  secret : String := ""
  deriving DecidableEq, Repr

structure ForgotPasswordConfiguration where
  appName : String := ""
  urlPrefix : String := ""
  sender : String := ""
  subject : String := ""
  resetURLLifetime : Int := 0
  deriving DecidableEq, Repr

structure WelcomeEmailConfiguration where
  urlPrefix : String := ""
  sender : String := ""
  subject : String := ""
  destination : String := ""
  deriving DecidableEq, Repr

structure OAuthProviderConfiguration where
  id : String := ""
  type : String := ""
  scope : String := ""
  deriving DecidableEq, Repr

structure OAuthConfiguration where
  urlPrefix : String := ""
  stateJWTSecret : String := ""
  providers : GoSlice OAuthProviderConfiguration := .nil
  deriving DecidableEq, Repr

structure SSOConfiguration where
  oauth : OAuthConfiguration := {}
  deriving DecidableEq, Repr

structure UserVerificationProviderConfiguration where
  subject : String := ""
  sender : String := ""
  deriving DecidableEq, Repr

structure UserVerificationKeyConfiguration where
  codeFormat : String := ""
  expiry : Int := 0
  providerConfig : UserVerificationProviderConfiguration := {}
  deriving DecidableEq, Repr

structure UserVerificationConfiguration where
  urlPrefix : String := ""
  criteria : String := ""
  loginIDKeys : GoMap UserVerificationKeyConfiguration := GoMap.nil
  deriving DecidableEq, Repr

structure HookUserConfiguration where
  secret : String := ""
  deriving DecidableEq, Repr

/-- `UserConfiguration`: user-editable configuration. -/
structure UserConfiguration where
  apiKey : String := ""
  masterKey : String := ""
  urlPrefix : String := ""
  cors : CORSConfiguration := {}
  auth : AuthConfiguration := {}
  tokenStore : TokenStoreConfiguration := {}
  forgotPassword : ForgotPasswordConfiguration := {}
  welcomeEmail : WelcomeEmailConfiguration := {}
  sso : SSOConfiguration := {}
  userVerification : UserVerificationConfiguration := {}
  hook : HookUserConfiguration := {}
  deriving DecidableEq, Repr

structure DeploymentRoute where
  version : String := ""
  path : String := ""
  type : String := ""
  typeConfig : GoMap Encoding.Dyn := GoMap.nil
  deriving DecidableEq, Repr

structure TenantConfiguration where
  version : String := ""
  appName : String := ""
  appConfig : AppConfiguration := {}
  userConfig : UserConfiguration := {}
  deploymentRoutes : GoSlice DeploymentRoute := .nil
  deriving DecidableEq, Repr

/-! ## 2. Constants and defaults -/

def LoginIDKeyTypeRaw : String := "raw"
def WelcomeEmailDestinationFirst : String := "first"
def SMTPModeNormal : String := "normal"
def UserVerificationCriteriaAny : String := "any"
def UserVerificationCodeFormatComplex : String := "complex"

/-- `metadata.Email` and `metadata.Phone` are declared outside `src/`; the repository's tests
    spell the login ID key types they stand for "email" and "phone". -/
def metadataEmail : String := "email"
def metadataPhone : String := "phone"

def defaultAppConfiguration : AppConfiguration where
  databaseURL := "postgres://postgres:@localhost/postgres?sslmode=disable"
  smtp := { port := 25, mode := "normal" }

/-- The default login ID keys: `username`, `email` and `phone`. -/
def defaultLoginIDKeys : GoMap LoginIDKeyConfiguration :=
  ((GoMap.empty.insert "username" { type := LoginIDKeyTypeRaw }).insert "email"
    { type := metadataEmail }).insert "phone" { type := metadataPhone }

def defaultUserConfiguration : UserConfiguration where
  cors := { origin := "*" }
  auth := { loginIDKeys := defaultLoginIDKeys, allowedRealms := .mk ["default"] }
  forgotPassword :=
    { sender := "no-reply@skygeario.com", subject := "Reset password instruction",
      resetURLLifetime := 43200 }
  welcomeEmail :=
    { sender := "no-reply@skygeario.com", subject := "Welcome!",
      destination := WelcomeEmailDestinationFirst }

/-- What the loaders decode onto: `TenantConfiguration{AppConfig: defaultAppConfiguration(),
    UserConfig: defaultUserConfiguration()}`. -/
def loadingDefaults : TenantConfiguration where
  appConfig := defaultAppConfiguration
  userConfig := defaultUserConfiguration

/-! ## 3. `GetOAuthProviderByID` -/

/-- `GetOAuthProviderByID`: the first provider with the ID, or the zero value and `false`. -/
def getOAuthProviderByIDIn (id : String) :
    List OAuthProviderConfiguration → OAuthProviderConfiguration × Bool
  | [] => ({}, false)
  | provider :: rest =>
    if provider.id = id then (provider, true) else getOAuthProviderByIDIn id rest

def TenantConfiguration.getOAuthProviderByID (c : TenantConfiguration) (id : String) :
    OAuthProviderConfiguration × Bool :=
  getOAuthProviderByIDIn id c.userConfig.sso.oauth.providers.items

end Config
end Skygear
