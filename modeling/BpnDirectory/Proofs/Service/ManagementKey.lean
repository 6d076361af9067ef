import BpnDirectory.Proofs.Access.Authority
import BpnDirectory.Proofs.Http.FieldText
import BpnDirectory.Proofs.Text.Blank
import BpnDirectory.Service.Startup

namespace BpnDirectory
namespace Service

/-!
Keys for management that can be shown.

The key of the settings is kept as the environment has it, and only its octets are counted.
The key of a request is what its header field says in readable characters, without the blanks
around them.  So settings may pass the check with a key that no request can show.
-/

open Access (Admission Credential Gate Identity Scope Surface apiKey? bearerToken? filledText?)
open Http (Headers IsReadable fieldText?)
open Time (Instant)

/-! ## The key of the settings -/

theorem managementApiKey_of_ofEnvironment {environment : Environment} {settings : Settings}
    (read : Settings.ofEnvironment environment = .ok settings) :
    settings.access.managementApiKey = environment.filled? "BDRS_MANAGEMENT_API_KEY" := by
  unfold Settings.ofEnvironment at read
  iterate 18 rcases bind_eq_ok.mp read with ⟨_, _, read⟩
  cases read
  rfl

theorem managementApiKey_of_readSettings {environment : Environment} {settings : Settings}
    (read : readSettings environment = .ok settings) :
    settings.access.managementApiKey = environment.filled? "BDRS_MANAGEMENT_API_KEY" := by
  rcases bind_eq_ok.mp (mapError_eq_ok_iff.mp read) with ⟨found, made, passed⟩
  rcases bind_eq_ok.mp passed with ⟨_, _, same⟩
  cases same
  exact managementApiKey_of_ofEnvironment (mapError_eq_ok_iff.mp made)

/-- A key of the settings is more than blanks. -/
theorem ne_empty_of_managementApiKey {environment : Environment} {settings : Settings}
    {key : String} (read : readSettings environment = .ok settings)
    (configured : settings.access.managementApiKey = some key) : key ≠ "" := by
  rintro rfl
  rw [managementApiKey_of_readSettings read] at configured
  have filled := (Option.filter_eq_some_iff.mp configured).2
  cases filled

/-! ## The key of a request -/

/-- Whether a text can be shown as it is: all of its characters can be read, and none of them is
taken away as a blank at one of its ends. -/
def IsShowable (key : String) : Prop :=
  (∀ c ∈ key.toList, IsReadable c) ∧ Text.trim key = key

instance (key : String) : Decidable (IsShowable key) :=
  have : Decidable (∀ c ∈ key.toList, IsReadable c) := List.decidableBAll IsReadable key.toList
  inferInstanceAs (Decidable ((∀ c ∈ key.toList, IsReadable c) ∧ Text.trim key = key))

/-- Whether a request shows a text as its key, and no bearer token that would go before it. -/
def ShowsKey (headers : Headers) (key : String) : Prop :=
  bearerToken? headers = none ∧ headers.find? "x-api-key" = some (Text.Utf8.octets key)

/-- Whatever key a request shows can be shown as it is. -/
theorem isShowable_of_apiKey {headers : Headers} {key : String}
    (shown : apiKey? headers = some key) : IsShowable key := by
  rcases Option.bind_eq_some_iff.mp shown with ⟨text, given, filled⟩
  rcases Option.bind_eq_some_iff.mp given with ⟨value, _, read⟩
  have readable := Http.isReadable_of_fieldText? read
  unfold filledText? at filled
  dsimp only at filled
  split at filled
  · cases filled
  · cases filled
    exact ⟨fun c member => readable c (Text.mem_of_mem_trim member), Text.trim_trim text⟩

/-- A key that can be shown is read from a request as it is. -/
theorem apiKey_of_showsKey {headers : Headers} {key : String} (shows : ShowsKey headers key)
    (showable : IsShowable key) (filled : key ≠ "") : apiKey? headers = some key := by
  have read : headers.text? "x-api-key" = some key := by
    rw [Headers.text?, shows.2, Option.bind_some]
    exact Http.fieldText?_octets_eq_some_iff.mpr ⟨rfl, showable.1⟩
  rw [apiKey?, read, Option.bind_some, filledText?, showable.2, if_neg]
  exact fun blank => filled (String.isEmpty_iff.mp blank)

/-! ## The gate -/

/-- Whether the gate lets a request in as one of somebody who may write. -/
def LetsWrite (gate : Gate) (now : Instant) (surface : Surface) (headers : Headers) : Prop :=
  ∃ identity, (gate.authorize now (Credential.ofHeaders? headers) surface.required
    surface.name).1 = .ok ⟨identity, .readWrite⟩

theorem letsWrite_iff {gate : Gate} {now : Instant} {surface : Surface} {headers : Headers}
    (unborne : bearerToken? headers = none) :
    LetsWrite gate now surface headers ↔ ∃ key, apiKey? headers = some key ∧ gate.IsKey key := by
  unfold LetsWrite Gate.authorize Credential.ofHeaders?
  rw [unborne]
  cases apiKey? headers with
  | none => simp [Gate.identify, Access.unauthorized, Except.bind]
  | some key =>
      dsimp only [Option.map, Gate.identify]
      have admitted : gate.letIn surface.required surface.name .ofApiKey =
          .ok ⟨.ofApiKey, .readWrite⟩ := rfl
      by_cases holds : gate.holdsKey key = true
      · rw [if_pos holds]
        have isKey := Access.Gate.holdsKey_iff.mp holds
        simpa [Except.bind, admitted] using isKey
      · rw [if_neg holds]
        have other := mt Access.Gate.holdsKey_iff.mpr holds
        simpa [Access.unauthorized, Except.bind] using other

/-- The key of the settings lets those write who show it exactly if it can be shown.  With any
other key, whoever has no bearer token may not write, whatever they show. -/
theorem letsWrite_iff_isShowable {environment : Environment} {settings : Settings} {key : String}
    (read : readSettings environment = .ok settings)
    (configured : settings.access.managementApiKey = some key) (keys : KeyRing)
    (scheme : Token.PublicKeyCheck) (now : Instant) (surface : Surface) :
    (∀ headers, ShowsKey headers key →
      (LetsWrite (gate settings.access keys scheme) now surface headers ↔ IsShowable key)) ∧
    ∀ headers, bearerToken? headers = none →
      LetsWrite (gate settings.access keys scheme) now surface headers → IsShowable key := by
  have isKey_iff (shown : String) :
      (gate settings.access keys scheme).IsKey shown ↔ shown = key := by
    constructor
    · rintro ⟨expected, kept, same⟩
      cases configured.symm.trans kept
      exact Text.Utf8.octets_inj.mp same
    · rintro rfl
      exact ⟨shown, configured, rfl⟩
  have onlyShowable : ∀ headers, bearerToken? headers = none →
      LetsWrite (gate settings.access keys scheme) now surface headers → IsShowable key := by
    intro headers unborne lets
    rcases (letsWrite_iff unborne).mp lets with ⟨shown, given, isKey⟩
    cases (isKey_iff shown).mp isKey
    exact isShowable_of_apiKey given
  refine ⟨fun headers shows => ⟨onlyShowable headers shows.1, fun showable => ?_⟩, onlyShowable⟩
  have given := apiKey_of_showsKey shows showable (ne_empty_of_managementApiKey read configured)
  exact (letsWrite_iff shows.1).mpr ⟨key, given, (isKey_iff key).mpr rfl⟩

/-- An environment that sets nothing but the key. -/
def keyed (key : String) : Environment := .ofList [("BDRS_MANAGEMENT_API_KEY", key)]

def keyFields (key : String) : Headers := .addText .none "x-api-key" key

theorem showsKey_keyFields (key : String) : ShowsKey (keyFields key) key := ⟨rfl, rfl⟩

theorem exists_settings (key : String) (accepted : (readSettings (keyed key)).isOk = true)
    (filled : Text.isFilled key = true) : ∃ settings,
      readSettings (keyed key) = .ok settings ∧ settings.access.managementApiKey = some key := by
  cases read : readSettings (keyed key) with
  | error failure => simp [read, Except.isOk, Except.toBool] at accepted
  | ok settings =>
      refine ⟨settings, rfl, ?_⟩
      rw [managementApiKey_of_readSettings read]
      exact Option.filter_eq_some_iff.mpr ⟨rfl, filled⟩

theorem plain_key_letsWrite : ∃ settings,
    readSettings (keyed "0123456789abcdef") = .ok settings ∧
      settings.access.managementApiKey = some "0123456789abcdef" ∧
      LetsWrite (gate settings.access .empty fun _ _ _ _ => false) ⟨⟨2024, 2, 29⟩, 0, 0⟩ .management
        (keyFields "0123456789abcdef") := by
  rcases exists_settings "0123456789abcdef" (by decide +kernel) (by decide) with
    ⟨settings, read, configured⟩
  have decides := letsWrite_iff_isShowable read configured .empty (fun _ _ _ _ => false)
    ⟨⟨2024, 2, 29⟩, 0, 0⟩ .management
  exact ⟨settings, read, configured,
    (decides.1 _ (showsKey_keyFields _)).mpr (by decide +kernel)⟩

/-- A key that ends in a blank passes the check of the settings, and nobody can show it. -/
theorem not_every_key_letsWrite :
    ¬ ∀ (environment : Environment) (settings : Settings) (key : String),
      readSettings environment = .ok settings →
      settings.access.managementApiKey = some key →
      ∀ (keys : KeyRing) (scheme : Token.PublicKeyCheck) (now : Instant) (surface : Surface)
        (headers : Headers), ShowsKey headers key →
          LetsWrite (gate settings.access keys scheme) now surface headers := by
  intro usable
  rcases exists_settings "0123456789abcdef " (by decide +kernel) (by decide) with
    ⟨settings, read, configured⟩
  rcases (letsWrite_iff (showsKey_keyFields _).1).mp (usable _ settings _ read configured .empty
    (fun _ _ _ _ => false) ⟨⟨2024, 2, 29⟩, 0, 0⟩ .management _ (showsKey_keyFields _)) with
    ⟨shown, given, expected, kept, same⟩
  cases configured.symm.trans kept
  have showable := isShowable_of_apiKey given
  rw [Text.Utf8.octets_inj.mp same] at showable
  exact absurd showable (by decide +kernel)

end Service
end BpnDirectory
