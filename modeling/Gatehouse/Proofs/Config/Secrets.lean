import Gatehouse.Proofs.Config.Parts
import Gatehouse.Proofs.Config.Spelling

/-!
# Secrets from the environment

The service token and the keys of the providers can be set by variables of the environment.

* `Secret.loaded_iff`: what is loaded is the value of the variable as a text, whatever the files and the
  other variables set, and that is the value itself exactly if it is spelled as it is printed;
* `Secret.zeros_lost`: a token with zeros in front is not.
-/

namespace Gatehouse.Config

/-! ## 1. Places of secrets -/

/-- The secrets that can be set. -/
inductive Secret where
  | serviceToken
  | openAiKey
  | anthropicKey
  deriving DecidableEq, Repr

namespace Secret

/-- The variable that sets the secret. -/
def name : Secret → String
  | serviceToken => "AI_GATEWAY__AUTH__SERVICE_TOKEN"
  | openAiKey => "AI_GATEWAY__PROVIDERS__OPENAI__API_KEY"
  | anthropicKey => "AI_GATEWAY__PROVIDERS__ANTHROPIC__API_KEY"

/-- The place of the secret among the settings. -/
def place : Secret → List String
  | serviceToken => ["auth", "service_token"]
  | openAiKey => ["providers", "openai", "api_key"]
  | anthropicKey => ["providers", "anthropic", "api_key"]

/-- The secret in settings. -/
def of : Secret → Settings → String
  | serviceToken => fun s => s.serviceToken
  | openAiKey => fun s => s.openAi.apiKey
  | anthropicKey => fun s => s.anthropic.apiKey

theorem steps?_name (secret : Secret) :
    Environment.steps? secret.name = some (secret.place.map .name) := by
  cases secret <;> decide +kernel

theorem readsText (secret : Secret) : ReadsText Settings.reader secret.place secret.of := by
  have hkey := ReadsText.inside isPart_apiKey .here
  cases secret with
  | serviceToken =>
    have htoken := ReadsText.inside isPart_auth (.inside isPart_serviceToken .here)
    exact htoken
  | openAiKey =>
    have hopenAi := ReadsText.inside isPart_providers (.inside isPart_openAi hkey)
    exact hopenAi
  | anthropicKey =>
    have hanthropic := ReadsText.inside isPart_providers (.inside isPart_anthropic hkey)
    exact hanthropic

end Secret

/-! ## 2. Loading -/

theorem load_eq_ok {files : List (String × List UInt8)} {environment : List (String × String)}
    {s : Settings} : Settings.load files environment = .ok s ↔
      ∃ general own, layerOf files "default" = .ok general ∧ layerOf files "local" = .ok own ∧
        Settings.reader (withLayer (withLayer (withLayer Tree.empty general) own)
          (environmentEntries environment)) = .ok s := by
  constructor
  · intro h
    obtain ⟨general, hgeneral, h⟩ := bind_eq_ok.1 h
    obtain ⟨own, hown, h⟩ := bind_eq_ok.1 h
    refine ⟨general, own, hgeneral, hown, ?_⟩
    simp only [List.foldl_cons, List.foldl_nil] at h
    split at h
    · rename_i s' hs'
      exact hs'.trans (congrArg _ (Except.ok.inj h))
    · exact nomatch h
  · rintro ⟨general, own, hgeneral, hown, h⟩
    refine bind_eq_ok.2 ⟨general, hgeneral, bind_eq_ok.2 ⟨own, hown, ?_⟩⟩
    simp only [List.foldl_cons, List.foldl_nil, h]
    rfl

/-! ## 3. Secrets in the environment -/

/-- **A secret in the environment is loaded as the text that is printed for its value**, whatever is in
    the files and whatever the other variables set apart from it. That is the value itself exactly if it
    is spelled as it is printed. Setting a secret does not keep other settings from being loaded. -/
theorem Secret.loaded_iff (secret : Secret) (value : String) (files : List (String × List UInt8))
    (before behind : List (String × String))
    (h : ∀ e ∈ before ++ behind, ∀ steps, Environment.steps? e.1 = some steps →
      Tree.Apart steps secret.place) :
    ((∃ s, Settings.load files (before ++ behind) = .ok s) →
      ∃ s, Settings.load files (before ++ (secret.name, value) :: behind) = .ok s) ∧
    ∀ s, Settings.load files (before ++ (secret.name, value) :: behind) = .ok s →
      text (.scalar none (.ofVariable value)) = .ok (secret.of s) ∧
      (secret.of s = value ↔ Verbatim value) := by
  have hcarries := carries_environment secret.steps?_name h value
  obtain ⟨passed, hpassed, hverbatim⟩ := exists_text_ofVariable value
  constructor
  · rintro ⟨s, hs⟩
    obtain ⟨general, own, hgeneral, hown, hs⟩ := load_eq_ok.1 hs
    obtain ⟨s', hs'⟩ := secret.readsText.succeeds (hcarries _) ⟨passed, hpassed _⟩
      fun t ht => ⟨s, Option.some.inj ht ▸ hs⟩
    exact ⟨s', load_eq_ok.2 ⟨general, own, hgeneral, hown, hs'⟩⟩
  · intro s hs
    obtain ⟨general, own, hgeneral, hown, hs⟩ := load_eq_ok.1 hs
    have htext := secret.readsText.text_of_carries (hcarries _) hs
    have hsame : passed = secret.of s := Except.ok.inj ((hpassed _).symm.trans htext)
    exact ⟨hsame ▸ hpassed none, hsame ▸ hverbatim⟩

/-- A token with zeros in front, set among other variables, is lost. -/
theorem Secret.loaded_iff_zeros :
    (∀ e ∈ [("AI_GATEWAY__SERVER__PORT", "9000")] ++ [("HOME", "/")], ∀ steps,
      Environment.steps? e.1 = some steps → Tree.Apart steps serviceToken.place) ∧
    ∃ s, Settings.load [] [("AI_GATEWAY__SERVER__PORT", "9000"), (serviceToken.name, "007"),
      ("HOME", "/")] = .ok s ∧ s.serviceToken ≠ "007" := by
  have happart : ∀ e ∈ [("AI_GATEWAY__SERVER__PORT", "9000")] ++ [("HOME", "/")], ∀ steps,
      Environment.steps? e.1 = some steps → Tree.Apart steps serviceToken.place := by
    have hport : Environment.steps? "AI_GATEWAY__SERVER__PORT" =
        some [.name "server", .name "port"] := by decide +kernel
    have hhome : Environment.steps? "HOME" = none := by decide +kernel
    refine List.forall_mem_cons.2 ⟨fun steps hsteps => ?_,
      List.forall_mem_singleton.2 fun steps hsteps => ?_⟩
    · rw [← Option.some.inj (hport.symm.trans hsteps)]
      exact .here _ _ (by decide)
    · exact nomatch hhome.symm.trans hsteps
  have hwithout : Settings.load [] ([("AI_GATEWAY__SERVER__PORT", "9000")] ++ [("HOME", "/")]) =
      .ok ⟨⟨"0.0.0.0", 9000⟩, "", "strict", .blank, .blank⟩ := by decide +kernel
  have hlost : ¬ Verbatim "007" := by
    intro hv
    have hseven : Number.integer? "007" = some 7 := by decide +kernel
    have hprinted := hv.whole (by decide +kernel) 7 hseven
    exact absurd ((Number.toString_integer?_iff hseven).2 hprinted) (by decide)
  obtain ⟨hloads, hvalue⟩ := loaded_iff serviceToken "007" [] _ _ happart
  obtain ⟨s, hs⟩ := hloads ⟨_, hwithout⟩
  exact ⟨happart, s, hs, fun hsame => hlost ((hvalue s hs).2.1 hsame)⟩

/-- **A token that looks like a number is loaded as another one.** -/
theorem Secret.zeros_lost :
    (Settings.load [] [("AI_GATEWAY__AUTH__SERVICE_TOKEN", "007")]).toOption.map
      (fun s => s.serviceToken) = some "7" := by
  decide +kernel

end Gatehouse.Config
