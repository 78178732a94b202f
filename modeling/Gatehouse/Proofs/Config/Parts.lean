import Gatehouse.Proofs.Config.Places

/-!
# Parts of settings

A reader of a record reads its fields one by one, each by a reader of its own, and goes wrong if one of
them does.

* `IsRecord` says which fields a reader reads, for the four readers of records that there are;
* `IsRecord.succeeds`: a table is read if the field that was set is, and the others were before;
* `IsPart`, `ReadsText`: what a reader makes of a text at a place;
* `ReadsText.text_of_carries`, `ReadsText.succeeds`: a text that a tree carries is read as it would be
  alone, and does no harm to the rest.
-/

namespace Gatehouse.Config

open Config.Tree (part)

/-! ## 1. What succeeds -/

theorem bind_eq_ok {ε α β : Type} {x : Except ε α} {f : α → Except ε β} {b : β} :
    (x >>= f) = .ok b ↔ ∃ a, x = .ok a ∧ f a = .ok b := by
  cases x with
  | error e => exact ⟨nofun, nofun⟩
  | ok a => exact ⟨fun h => ⟨a, rfl, h⟩, fun ⟨_, ha, h⟩ => Except.ok.inj ha ▸ h⟩

theorem pure_eq_ok {ε α : Type} {a b : α} : (pure a : Except ε α) = .ok b ↔ a = b :=
  ⟨Except.ok.inj, congrArg Except.ok⟩

theorem inside_eq_ok {α : Type} {step : Tree.Step} {x : Except Problem α} {a : α} :
    inside step x = .ok a ↔ x = .ok a := by
  cases x with
  | error p => cases p <;> exact ⟨nofun, nofun⟩
  | ok b => rfl

/-! ## 2. Fields -/

/-- A field of a record: its place among all, its name, its reader, and what it is if it is missing. -/
structure Field where
  {α : Type}
  place : Nat
  name : String
  reader : Reader α
  default : α

/-- The field in a record. -/
def Field.read (f : Field) (r : Record) : Except Problem f.α := r.read f.place f.name f.reader f.default

theorem Field.read_named_of_lookup (f : Field) {entries : List (String × Tree)} {v : Tree} {b : f.α}
    (h : entries.lookup f.name = some v) :
    f.read (.named entries) = .ok b ↔ f.reader v = .ok b := by
  rw [read, Record.read, h]
  exact inside_eq_ok

theorem Field.read_named_of_missing (f : Field) {entries : List (String × Tree)}
    (h : entries.lookup f.name = none) : f.read (.named entries) = .ok f.default := by
  rw [read, Record.read, h]

/-- What has a value under a name is a table. -/
theorem Tree.exists_of_get? {t v : Tree} {name : String} (h : t.get? name = some v) :
    ∃ origin entries, t = .table origin entries ∧ entries.lookup name = some v := by
  cases t with
  | scalar origin value => exact nomatch h
  | list origin items => exact nomatch h
  | table origin entries => exact ⟨origin, entries, rfl, h⟩

/-- The reader reads a record of these fields: it succeeds if it succeeds with each. -/
def IsRecord {α : Type} (reader : Reader α) (expected : String) (fields : List Field) : Prop :=
  ∀ t, (∃ a, reader t = .ok a) ↔
    ∃ r, Record.ofTree expected t = .ok r ∧ ∀ f ∈ fields, ∃ b, f.read r = .ok b

/-- **A table is read if one of its parts is**, and its other parts are those of a tree that was read. -/
theorem IsRecord.succeeds {α : Type} {reader : Reader α} {expected : String} {fields : List Field}
    (h : IsRecord reader expected fields) {t : Option Tree} {u v : Tree} {name : String}
    (ht : ∀ t', t = some t' → ∃ a, reader t' = .ok a) (hv : u.get? name = some v)
    (hothers : ∀ other, other ≠ name → u.get? other = part t other)
    (hname : ∀ f ∈ fields, f.name = name → ∃ b, f.reader v = .ok b) : ∃ a, reader u = .ok a := by
  obtain ⟨origin, entries, rfl, hlookup⟩ := Tree.exists_of_get? hv
  refine (h _).2 ⟨.named entries, rfl, fun f hf => ?_⟩
  by_cases hset : f.name = name
  · obtain ⟨b, hb⟩ := hname f hf hset
    exact ⟨b, (f.read_named_of_lookup (hset ▸ hlookup)).2 hb⟩
  · have hsame : entries.lookup f.name = part t f.name := hothers f.name hset
    -- A field that was not set is missing, or it is read here as it was before. A list that was in the
    -- way has no part under a name, whatever was read of it.
    cases hpart : part t f.name with
    | none => exact ⟨f.default, f.read_named_of_missing (hsame.trans hpart)⟩
    | some w =>
      obtain ⟨t', rfl, hget⟩ := Option.bind_eq_some_iff.1 hpart
      obtain ⟨r, hr, hfields⟩ := (h t').1 (ht t' rfl)
      obtain ⟨b, hb⟩ := hfields f hf
      obtain ⟨_, before, rfl, hbefore⟩ := Tree.exists_of_get? hget
      cases hr
      exact ⟨b, (f.read_named_of_lookup (hsame.trans hpart)).2
        ((f.read_named_of_lookup hbefore).1 hb)⟩

/-! ## 3. Parts -/

/-- **The reader reads the part** under the name by a reader of its own, and gives what that one makes of
    it in what it makes of the whole. -/
structure IsPart {α β : Type} (whole : Reader α) (name : String) (inner : Reader β) (proj : α → β) :
    Prop where
  value : ∀ {u v a}, u.get? name = some v → whole u = .ok a → inner v = .ok (proj a)
  succeeds : ∀ {t : Option Tree} {u v}, (∀ t', t = some t' → ∃ a, whole t' = .ok a) →
    u.get? name = some v → (∀ other, other ≠ name → u.get? other = part t other) →
    (∃ b, inner v = .ok b) → ∃ a, whole u = .ok a

theorem IsRecord.isPart {α β : Type} {whole : Reader α} {expected : String} {fields : List Field}
    (h : IsRecord whole expected fields) {place : Nat} {name : String} {inner : Reader β} {default : β}
    {proj : α → β} (hname : ∀ f ∈ fields, f.name = name → f = ⟨place, name, inner, default⟩)
    (hread : ∀ t a, whole t = .ok a → ∃ r, Record.ofTree expected t = .ok r ∧
      r.read place name inner default = .ok (proj a)) : IsPart whole name inner proj where
  value {u v a} hv ha := by
    obtain ⟨r, hr, hproj⟩ := hread u a ha
    obtain ⟨origin, entries, rfl, hlookup⟩ := Tree.exists_of_get? hv
    cases hr
    exact ((⟨place, name, inner, default⟩ : Field).read_named_of_lookup hlookup).1 hproj
  succeeds ht hv hothers hb := by
    refine h.succeeds ht hv hothers fun f hf hset => ?_
    rw [hname f hf hset]
    exact hb

/-- The reader reads a text at the place, and gives it in what it makes of the whole. -/
inductive ReadsText : {α : Type} → Reader α → (place : List String) → (α → String) → Prop where
  | here : ReadsText text [] id
  | inside {α β : Type} {whole : Reader α} {inner : Reader β} {proj : α → β} {of : β → String}
      {name : String} {place : List String} : IsPart whole name inner proj →
      ReadsText inner place of → ReadsText whole (name :: place) (of ∘ proj)

variable {α : Type} {reader : Reader α} {place : List String} {of : α → String}

/-- **What is made of the whole gives the text that the tree carries.** -/
theorem ReadsText.text_of_carries (h : ReadsText reader place of) {x u : Tree} {t : Option Tree}
    (hu : Tree.Carries x place t u) {a : α} (ha : reader u = .ok a) : text x = .ok (of a) := by
  induction h generalizing t u with
  | here =>
    have hsame : u = x := hu
    rw [← hsame, ha]
    rfl
  | inside hpart _ ih =>
    obtain ⟨-, -, v, hv, hcarries⟩ := hu
    exact ih hcarries (hpart.value hv ha)

/-- **A text that the tree carries does no harm**: the whole is read if it was before. -/
theorem ReadsText.succeeds (h : ReadsText reader place of) {x u : Tree} {t : Option Tree}
    (hu : Tree.Carries x place t u) (hx : ∃ s, text x = .ok s)
    (ht : ∀ t', t = some t' → ∃ a, reader t' = .ok a) : ∃ a, reader u = .ok a := by
  induction h generalizing t u with
  | here =>
    have hsame : u = x := hu
    rwa [hsame]
  | @inside _ _ whole inner proj _ name _ hpart _ ih =>
    obtain ⟨-, hothers, v, hv, hcarries⟩ := hu
    refine hpart.succeeds ht hv hothers (ih hcarries fun w hw => ?_)
    obtain ⟨t', rfl, hget⟩ := Option.bind_eq_some_iff.1 hw
    obtain ⟨a, ha⟩ := ht t' rfl
    exact ⟨proj a, hpart.value hget ha⟩

/-! ## 4. The four records -/

theorem tokenReader_eq_ok {t : Tree} {token : String} : tokenReader t = .ok token ↔
    ∃ r, Record.ofTree "AuthConfig" t = .ok r ∧ r.read 0 "service_token" text "" = .ok token :=
  bind_eq_ok

theorem providerReader_eq_ok {t : Tree} {p : Provider.Settings} : providerReader t = .ok p ↔
    ∃ r, Record.ofTree "ProviderConfig" t = .ok r ∧ r.read 0 "api_key" text "" = .ok p.apiKey ∧
      r.read 1 "base_url" (optional text) none = .ok p.baseUrl ∧
      r.read 2 "timeout_secs" (optional whole) none = .ok p.timeoutSeconds ∧
      r.read 3 "stream_timeout_secs" (optional whole) none = .ok p.streamTimeoutSeconds ∧
      r.read 4 "models" (list text) [] = .ok p.models := by
  simp only [providerReader, bind_eq_ok, pure_eq_ok]
  constructor
  · rintro ⟨r, hr, key, hkey, base, hbase, seconds, hseconds, stream, hstream, models, hmodels, rfl⟩
    exact ⟨r, hr, hkey, hbase, hseconds, hstream, hmodels⟩
  · rintro ⟨r, hr, hkey, hbase, hseconds, hstream, hmodels⟩
    exact ⟨r, hr, _, hkey, _, hbase, _, hseconds, _, hstream, _, hmodels, rfl⟩

theorem providersReader_eq_ok {t : Tree} {p : Provider.Settings × Provider.Settings} :
    providersReader t = .ok p ↔
      ∃ r, Record.ofTree "ProvidersConfig" t = .ok r ∧
        r.read 0 "openai" providerReader .blank = .ok p.1 ∧
        r.read 1 "anthropic" providerReader .blank = .ok p.2 := by
  simp only [providersReader, bind_eq_ok, pure_eq_ok]
  constructor
  · rintro ⟨r, hr, openAi, hopenAi, anthropic, hanthropic, rfl⟩
    exact ⟨r, hr, hopenAi, hanthropic⟩
  · rintro ⟨r, hr, hopenAi, hanthropic⟩
    exact ⟨r, hr, _, hopenAi, _, hanthropic, rfl⟩

theorem settingsReader_eq_ok {t : Tree} {s : Settings} : Settings.reader t = .ok s ↔
    ∃ r, Record.ofTree "Config" t = .ok r ∧ r.read 0 "server" Server.reader .standard = .ok s.server ∧
      r.read 1 "auth" tokenReader "" = .ok s.serviceToken ∧
      r.read 2 "safety" levelReader standardLevel = .ok s.defaultLevel ∧
      r.read 3 "providers" providersReader (.blank, .blank) = .ok (s.openAi, s.anthropic) := by
  simp only [Settings.reader, bind_eq_ok, pure_eq_ok]
  constructor
  · rintro ⟨r, hr, server, hserver, token, htoken, level, hlevel, providers, hproviders, rfl⟩
    exact ⟨r, hr, hserver, htoken, hlevel, hproviders⟩
  · rintro ⟨r, hr, hserver, htoken, hlevel, hproviders⟩
    exact ⟨r, hr, _, hserver, _, htoken, _, hlevel, _, hproviders, rfl⟩

theorem isRecord_token : IsRecord tokenReader "AuthConfig" [⟨0, "service_token", text, ""⟩] := by
  intro t
  simp only [tokenReader_eq_ok, List.forall_mem_singleton, Field.read]
  exact ⟨fun ⟨s, r, hr, hs⟩ => ⟨r, hr, s, hs⟩, fun ⟨r, hr, s, hs⟩ => ⟨s, r, hr, hs⟩⟩

theorem isRecord_provider : IsRecord providerReader "ProviderConfig"
    [⟨0, "api_key", text, ""⟩, ⟨1, "base_url", optional text, none⟩,
      ⟨2, "timeout_secs", optional whole, none⟩, ⟨3, "stream_timeout_secs", optional whole, none⟩,
      ⟨4, "models", list text, []⟩] := by
  intro t
  simp only [providerReader_eq_ok, List.forall_mem_cons, List.not_mem_nil, false_imp_iff, implies_true,
    and_true, Field.read]
  constructor
  · rintro ⟨p, r, hr, hkey, hbase, hseconds, hstream, hmodels⟩
    exact ⟨r, hr, ⟨_, hkey⟩, ⟨_, hbase⟩, ⟨_, hseconds⟩, ⟨_, hstream⟩, ⟨_, hmodels⟩⟩
  · rintro ⟨r, hr, ⟨key, hkey⟩, ⟨base, hbase⟩, ⟨seconds, hseconds⟩, ⟨stream, hstream⟩,
      ⟨models, hmodels⟩⟩
    exact ⟨⟨key, base, seconds, stream, models⟩, r, hr, hkey, hbase, hseconds, hstream, hmodels⟩

theorem isRecord_providers : IsRecord providersReader "ProvidersConfig"
    [⟨0, "openai", providerReader, .blank⟩, ⟨1, "anthropic", providerReader, .blank⟩] := by
  intro t
  simp only [providersReader_eq_ok, List.forall_mem_cons, List.not_mem_nil, false_imp_iff, implies_true,
    and_true, Field.read]
  constructor
  · rintro ⟨p, r, hr, hopenAi, hanthropic⟩
    exact ⟨r, hr, ⟨_, hopenAi⟩, ⟨_, hanthropic⟩⟩
  · rintro ⟨r, hr, ⟨openAi, hopenAi⟩, ⟨anthropic, hanthropic⟩⟩
    exact ⟨(openAi, anthropic), r, hr, hopenAi, hanthropic⟩

theorem isRecord_settings : IsRecord Settings.reader "Config"
    [⟨0, "server", Server.reader, .standard⟩, ⟨1, "auth", tokenReader, ""⟩,
      ⟨2, "safety", levelReader, standardLevel⟩,
      ⟨3, "providers", providersReader, (.blank, .blank)⟩] := by
  intro t
  simp only [settingsReader_eq_ok, List.forall_mem_cons, List.not_mem_nil, false_imp_iff, implies_true,
    and_true, Field.read]
  constructor
  · rintro ⟨s, r, hr, hserver, htoken, hlevel, hproviders⟩
    exact ⟨r, hr, ⟨_, hserver⟩, ⟨_, htoken⟩, ⟨_, hlevel⟩, ⟨_, hproviders⟩⟩
  · rintro ⟨r, hr, ⟨server, hserver⟩, ⟨token, htoken⟩, ⟨level, hlevel⟩, ⟨providers, hproviders⟩⟩
    exact ⟨⟨server, token, level, providers.1, providers.2⟩, r, hr, hserver, htoken, hlevel, hproviders⟩

/-! ## 5. Parts of the settings -/

theorem isPart_serviceToken : IsPart tokenReader "service_token" text id :=
  isRecord_token.isPart (by simp) fun _ _ ha => tokenReader_eq_ok.1 ha

theorem isPart_apiKey : IsPart providerReader "api_key" text (·.apiKey) :=
  isRecord_provider.isPart (by simp) fun _ _ ha =>
    let ⟨r, hr, hkey, _⟩ := providerReader_eq_ok.1 ha
    ⟨r, hr, hkey⟩

theorem isPart_openAi : IsPart providersReader "openai" providerReader Prod.fst :=
  isRecord_providers.isPart (by simp) fun _ _ ha =>
    let ⟨r, hr, hopenAi, _⟩ := providersReader_eq_ok.1 ha
    ⟨r, hr, hopenAi⟩

theorem isPart_anthropic : IsPart providersReader "anthropic" providerReader Prod.snd :=
  isRecord_providers.isPart (by simp) fun _ _ ha =>
    let ⟨r, hr, _, hanthropic⟩ := providersReader_eq_ok.1 ha
    ⟨r, hr, hanthropic⟩

theorem isPart_auth : IsPart Settings.reader "auth" tokenReader (·.serviceToken) :=
  isRecord_settings.isPart (by simp) fun _ _ ha =>
    let ⟨r, hr, _, htoken, _⟩ := settingsReader_eq_ok.1 ha
    ⟨r, hr, htoken⟩

theorem isPart_providers :
    IsPart Settings.reader "providers" providersReader (fun s => (s.openAi, s.anthropic)) :=
  isRecord_settings.isPart (by simp) fun _ _ ha =>
    let ⟨r, hr, _, _, _, hproviders⟩ := settingsReader_eq_ok.1 ha
    ⟨r, hr, hproviders⟩

end Gatehouse.Config
