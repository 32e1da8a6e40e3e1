import Skygear.Core.Config.Load

/-!
# Persisting a loaded configuration

`Value` writes a configuration as JSON with `omitempty` on every field, and `Scan` reads it back
with the JSON loader, which decodes onto the built-in defaults and runs `AfterUnmarshal` again.
So a field left out because it is empty comes back with the built-in default — a zero value that
is not the default, and a slice or map that is empty without being nil, come back changed — and
a URL prefix that `AfterUnmarshal` would still trim is trimmed again.

The round trip holds in this form: a loaded configuration comes back unchanged when every
field with a non-zero built-in default holds a non-zero value, every slice or map with a nil
default is nil when it is empty, its URL prefixes are settled, and the values of its deployment
routes' `type_config` are ones JSON can carry, which YAML's integers, infinities, NaN and nested
mappings are not. `Persistable` collects these conditions. The proof goes through each struct's
fields, onto the value the loaders decode it onto.
-/

set_option autoImplicit false

namespace Skygear
namespace Config

open Encoding

/-! ## 1. Each struct, onto what the loaders decode it onto -/

theorem SMTPConfiguration.codec_roundTrips (s : SMTPConfiguration) (hport : s.port ≠ 0)
    (hmode : s.mode ≠ "") : SMTPConfiguration.codec.RoundTrips s { port := 25, mode := "normal" } :=
  Codec.struct_roundTrips _ _ _
    (by simp [SMTPConfiguration.fields, field, Field.RoundTrips, hport, hmode])

theorem HookAppConfiguration.codec_roundTrips (h : HookAppConfiguration) :
    HookAppConfiguration.codec.RoundTrips h {} :=
  Codec.struct_roundTrips _ _ _ (by simp [HookAppConfiguration.fields, field, Field.RoundTrips])

theorem AppConfiguration.codec_roundTrips (a : AppConfiguration) (hurl : a.databaseURL ≠ "")
    (hport : a.smtp.port ≠ 0) (hmode : a.smtp.mode ≠ "") :
    AppConfiguration.codec.RoundTrips a defaultAppConfiguration :=
  Codec.struct_roundTrips _ _ _ (by
    simp [AppConfiguration.fields, field, Field.RoundTrips, defaultAppConfiguration, hurl,
      SMTPConfiguration.codec_roundTrips _ hport hmode, HookAppConfiguration.codec_roundTrips])

theorem CORSConfiguration.codec_roundTrips (c : CORSConfiguration) (h : c.origin ≠ "") :
    CORSConfiguration.codec.RoundTrips c { origin := "*" } :=
  Codec.struct_roundTrips _ _ _ (by simp [CORSConfiguration.fields, field, Field.RoundTrips, h])

theorem LoginIDKeyConfiguration.codec_roundTrips (k : LoginIDKeyConfiguration) :
    LoginIDKeyConfiguration.codec.RoundTrips k {} :=
  Codec.struct_roundTrips _ _ _
    (by simp [LoginIDKeyConfiguration.fields, field, Field.RoundTrips])

/-- The login ID keys come back when they include the built-in ones: JSON stores the entries
    into the built-in map and keeps its others. -/
theorem AuthConfiguration.codec_roundTrips (a : AuthConfiguration)
    (hkeys : ∀ k, (defaultLoginIDKeys.get? k).isSome → (a.loginIDKeys.get? k).isSome)
    (hrealms : a.allowedRealms.items ≠ []) :
    AuthConfiguration.codec.RoundTrips a
      { loginIDKeys := defaultLoginIDKeys, allowedRealms := .mk ["default"] } := by
  have hne : a.loginIDKeys.isEmpty = false :=
    GoMap.isEmpty_eq_false_of_get? (hkeys "username" rfl)
  have hmap := Codec.map_roundTrips LoginIDKeyConfiguration.codec
    "map[string]config.LoginIDKeyConfiguration" hkeys
    fun _ v _ => LoginIDKeyConfiguration.codec_roundTrips v
  have hslice := @Codec.slice_roundTrips _ Codec.string "[]string" a.allowedRealms (.mk ["default"])
    (Codec.itemsRoundTrip_of_forall Codec.string (by simp) ["default"])
  exact Codec.struct_roundTrips _ _ _
    (by simp [AuthConfiguration.fields, field, Field.RoundTrips, hne, hmap, hslice, hrealms])

theorem TokenStoreConfiguration.codec_roundTrips (t : TokenStoreConfiguration) :
    TokenStoreConfiguration.codec.RoundTrips t {} :=
  Codec.struct_roundTrips _ _ _
    (by simp [TokenStoreConfiguration.fields, field, Field.RoundTrips])

theorem ForgotPasswordConfiguration.codec_roundTrips (f : ForgotPasswordConfiguration)
    (hsender : f.sender ≠ "") (hsubject : f.subject ≠ "") (hlifetime : f.resetURLLifetime ≠ 0) :
    ForgotPasswordConfiguration.codec.RoundTrips f
      { sender := "no-reply@skygeario.com", subject := "Reset password instruction",
        resetURLLifetime := 43200 } :=
  Codec.struct_roundTrips _ _ _ (by
    simp [ForgotPasswordConfiguration.fields, field, Field.RoundTrips, hsender, hsubject,
      hlifetime])

theorem WelcomeEmailConfiguration.codec_roundTrips (w : WelcomeEmailConfiguration)
    (hsender : w.sender ≠ "") (hsubject : w.subject ≠ "") (hdestination : w.destination ≠ "") :
    WelcomeEmailConfiguration.codec.RoundTrips w
      { sender := "no-reply@skygeario.com", subject := "Welcome!",
        destination := WelcomeEmailDestinationFirst } :=
  Codec.struct_roundTrips _ _ _ (by
    simp [WelcomeEmailConfiguration.fields, field, Field.RoundTrips, hsender, hsubject,
      hdestination])

theorem OAuthProviderConfiguration.codec_roundTrips (p : OAuthProviderConfiguration) :
    OAuthProviderConfiguration.codec.RoundTrips p {} :=
  Codec.struct_roundTrips _ _ _
    (by simp [OAuthProviderConfiguration.fields, field, Field.RoundTrips])

/-- The providers come back when they are nil if empty: `omitempty` leaves an empty slice out,
    and the decoder leaves the field nil. -/
theorem OAuthConfiguration.codec_roundTrips (o : OAuthConfiguration)
    (hproviders : o.providers.items = [] → o.providers = .nil) :
    OAuthConfiguration.codec.RoundTrips o {} := by
  have hslice := @Codec.slice_roundTrips _ OAuthProviderConfiguration.codec
    "[]config.OAuthProviderConfiguration" o.providers .nil
    (Codec.itemsRoundTrip_nil _ fun p _ => OAuthProviderConfiguration.codec_roundTrips p)
  exact Codec.struct_roundTrips _ _ _
    (by simpa [OAuthConfiguration.fields, field, Field.RoundTrips, hslice] using hproviders)

theorem SSOConfiguration.codec_roundTrips (s : SSOConfiguration)
    (hproviders : s.oauth.providers.items = [] → s.oauth.providers = .nil) :
    SSOConfiguration.codec.RoundTrips s {} :=
  Codec.struct_roundTrips _ _ _ (by
    simp [SSOConfiguration.fields, field, Field.RoundTrips,
      OAuthConfiguration.codec_roundTrips _ hproviders])

theorem UserVerificationProviderConfiguration.codec_roundTrips
    (p : UserVerificationProviderConfiguration) :
    UserVerificationProviderConfiguration.codec.RoundTrips p {} :=
  Codec.struct_roundTrips _ _ _
    (by simp [UserVerificationProviderConfiguration.fields, field, Field.RoundTrips])

theorem UserVerificationKeyConfiguration.codec_roundTrips (k : UserVerificationKeyConfiguration) :
    UserVerificationKeyConfiguration.codec.RoundTrips k {} :=
  Codec.struct_roundTrips _ _ _ (by
    simp [UserVerificationKeyConfiguration.fields, field, Field.RoundTrips,
      UserVerificationProviderConfiguration.codec_roundTrips])

/-- The keys come back when they are nil if empty. -/
theorem UserVerificationConfiguration.codec_roundTrips (u : UserVerificationConfiguration)
    (hkeys : u.loginIDKeys.entries = [] → u.loginIDKeys = GoMap.nil) :
    UserVerificationConfiguration.codec.RoundTrips u {} := by
  have hmap := @Codec.map_roundTrips _ UserVerificationKeyConfiguration.codec
    "map[string]config.UserVerificationKeyConfiguration" u.loginIDKeys GoMap.nil
    (by simp) fun _ k _ => UserVerificationKeyConfiguration.codec_roundTrips k
  exact Codec.struct_roundTrips _ _ _
    (by simpa [UserVerificationConfiguration.fields, field, Field.RoundTrips, hmap] using hkeys)

theorem HookUserConfiguration.codec_roundTrips (h : HookUserConfiguration) :
    HookUserConfiguration.codec.RoundTrips h {} :=
  Codec.struct_roundTrips _ _ _ (by simp [HookUserConfiguration.fields, field, Field.RoundTrips])

theorem UserConfiguration.codec_roundTrips (u : UserConfiguration) (hcors : u.cors.origin ≠ "")
    (hkeys : ∀ k, (defaultLoginIDKeys.get? k).isSome → (u.auth.loginIDKeys.get? k).isSome)
    (hrealms : u.auth.allowedRealms.items ≠ [])
    (hforgot : u.forgotPassword.sender ≠ "" ∧ u.forgotPassword.subject ≠ "" ∧
      u.forgotPassword.resetURLLifetime ≠ 0)
    (hwelcome : u.welcomeEmail.sender ≠ "" ∧ u.welcomeEmail.subject ≠ "" ∧
      u.welcomeEmail.destination ≠ "")
    (hproviders : u.sso.oauth.providers.items = [] → u.sso.oauth.providers = .nil)
    (hverify : u.userVerification.loginIDKeys.entries = [] →
      u.userVerification.loginIDKeys = GoMap.nil) :
    UserConfiguration.codec.RoundTrips u defaultUserConfiguration :=
  Codec.struct_roundTrips _ _ _ (by
    simp [UserConfiguration.fields, field, Field.RoundTrips, defaultUserConfiguration,
      CORSConfiguration.codec_roundTrips _ hcors,
      AuthConfiguration.codec_roundTrips _ hkeys hrealms,
      TokenStoreConfiguration.codec_roundTrips,
      ForgotPasswordConfiguration.codec_roundTrips _ hforgot.1 hforgot.2.1 hforgot.2.2,
      WelcomeEmailConfiguration.codec_roundTrips _ hwelcome.1 hwelcome.2.1 hwelcome.2.2,
      SSOConfiguration.codec_roundTrips _ hproviders,
      UserVerificationConfiguration.codec_roundTrips _ hverify,
      HookUserConfiguration.codec_roundTrips])

/-- What a deployment route needs to come back: its `type_config` is nil if empty, and holds
    values JSON can carry. -/
def DeploymentRoute.Persistable (r : DeploymentRoute) : Prop :=
  (r.typeConfig.entries = [] → r.typeConfig = GoMap.nil) ∧
    ∀ k x, r.typeConfig.get? k = some x → x.isJson = true

theorem DeploymentRoute.codec_roundTrips (r : DeploymentRoute) (h : r.Persistable) :
    DeploymentRoute.codec.RoundTrips r {} := by
  have hmap := @Codec.map_roundTrips _ Codec.dyn "map[string]interface {}" r.typeConfig
    GoMap.nil (by simp) fun k x hx => Codec.dyn_roundTrips (h.2 k x hx) _
  exact Codec.struct_roundTrips _ _ _
    (by simpa [DeploymentRoute.fields, field, Field.RoundTrips, hmap] using h.1)

theorem TenantConfiguration.codec_roundTrips (c : TenantConfiguration)
    (happ : AppConfiguration.codec.RoundTrips c.appConfig defaultAppConfiguration)
    (huser : UserConfiguration.codec.RoundTrips c.userConfig defaultUserConfiguration)
    (hnil : c.deploymentRoutes.items = [] → c.deploymentRoutes = .nil)
    (hroutes : ∀ r ∈ c.deploymentRoutes, r.Persistable) :
    TenantConfiguration.codec.RoundTrips c loadingDefaults := by
  have hslice := @Codec.slice_roundTrips _ DeploymentRoute.codec "[]config.DeploymentRoute"
    c.deploymentRoutes .nil
    (Codec.itemsRoundTrip_nil _ fun r hr => DeploymentRoute.codec_roundTrips r (hroutes r hr))
  exact Codec.struct_roundTrips _ _ _
    (by simpa [TenantConfiguration.fields, field, Field.RoundTrips, loadingDefaults, happ, huser,
      hslice] using hnil)

/-! ## 2. The round trip -/

/-- An explicitly empty list of deployment routes is loaded as a made, empty slice, left out by
    `Value` as empty, and read back by `Scan` as nil. -/
example :
    let v : Validators := ⟨fun _ => none, fun _ => none⟩
    let doc : Doc := .map
      [("version", .str "1"), ("app_name", .str "myapp"),
       ("app_config", .map [("database_url", .str "postgres://")]),
       ("user_config", .map [("master_key", .str "masterkey")]), ("deployment_routes", .seq [])]
    ∃ c, newTenantConfigurationFromJSON v doc = .ok (.ok c) ∧ c.deploymentRoutes = .mk [] ∧
      ∃ bytes, c.value = .ok bytes ∧ ∃ c', c.scan v bytes = .ok (.ok c') ∧
        c'.deploymentRoutes = .nil :=
  ⟨_, rfl, rfl, _, rfl, _, rfl, rfl⟩

/-- What `Value` followed by `Scan` needs of a loaded configuration: each field with a non-zero
    built-in default holds a non-zero value (`Validate` and `AfterUnmarshal` see to the database
    URL, the SMTP mode and the welcome email's destination), each slice or map with a nil default
    is nil when it is empty, the URL prefixes are settled, and the deployment routes'
    `type_config` values are ones JSON can carry. -/
structure Persistable (c : TenantConfiguration) : Prop where
  smtpPort : c.appConfig.smtp.port ≠ 0
  corsOrigin : c.userConfig.cors.origin ≠ ""
  loginIDKeys :
    ∀ k, (defaultLoginIDKeys.get? k).isSome → (c.userConfig.auth.loginIDKeys.get? k).isSome
  allowedRealms : c.userConfig.auth.allowedRealms.items ≠ []
  forgotPasswordSender : c.userConfig.forgotPassword.sender ≠ ""
  forgotPasswordSubject : c.userConfig.forgotPassword.subject ≠ ""
  resetURLLifetime : c.userConfig.forgotPassword.resetURLLifetime ≠ 0
  welcomeEmailSender : c.userConfig.welcomeEmail.sender ≠ ""
  welcomeEmailSubject : c.userConfig.welcomeEmail.subject ≠ ""
  urlPrefixes : URLPrefixesSettled c
  providers :
    c.userConfig.sso.oauth.providers.items = [] → c.userConfig.sso.oauth.providers = .nil
  verificationKeys : c.userConfig.userVerification.loginIDKeys.entries = [] →
    c.userConfig.userVerification.loginIDKeys = GoMap.nil
  deploymentRoutes : c.deploymentRoutes.items = [] → c.deploymentRoutes = .nil
  routes : ∀ r ∈ c.deploymentRoutes, r.Persistable

end Config
end Skygear
