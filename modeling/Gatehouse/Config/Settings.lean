import Gatehouse.Config.Environment
import Gatehouse.Config.JsonFile
import Gatehouse.Config.Key
import Gatehouse.Config.Reading
import Gatehouse.Config.YamlFile
import Gatehouse.Gateway.Service

/-!
# Settings of the gateway

Settings are read from two files, `default` and `local`, and from the environment, each laid over the
one before. What is not set has a default.

* `Settings.load` reads the settings;
* `Settings.registry` and `Settings.service` set up what they describe.
-/

namespace Gatehouse.Config

/-- Where the service listens. -/
structure Server where
  host : String
  tcpPort : UInt16
  deriving DecidableEq, Repr

/-- The settings of the gateway. -/
structure Settings where
  server : Server
  serviceToken : String
  defaultLevel : String
  openAi : Provider.Settings
  anthropic : Provider.Settings
  deriving DecidableEq, Repr

/-- Why settings could not be loaded. -/
inductive LoadFault where
  /-- A file is not written in the format it is named for. -/
  | file (name : String)
  | setting (p : Problem)
  deriving DecidableEq, Repr

/-! ## 1. Parts -/

/-- Where the service listens unless it is told otherwise. -/
def Server.standard : Server := ⟨"0.0.0.0", 8000⟩

/-- Reads where the service listens. -/
def Server.reader : Reader Server := fun t => do
  let r ← Record.ofTree "ServerConfig" t
  return ⟨← r.read 0 "host" text standard.host, ← r.read 1 "port" word16 standard.tcpPort⟩

/-- Reads the service token. -/
def tokenReader : Reader String := fun t => do
  (← Record.ofTree "AuthConfig" t).read 0 "service_token" text ""

/-- The safety level of requests that name none, unless another is set. -/
def standardLevel : String := "strict"

/-- Reads the safety level of requests that name none. -/
def levelReader : Reader String := fun t => do
  (← Record.ofTree "SafetyConfig" t).read 0 "default_level" text standardLevel

/-- Reads the settings of one provider. -/
def providerReader : Reader Provider.Settings := fun t => do
  let r ← Record.ofTree "ProviderConfig" t
  return ⟨← r.read 0 "api_key" text "", ← r.read 1 "base_url" (optional text) none,
    ← r.read 2 "timeout_secs" (optional whole) none,
    ← r.read 3 "stream_timeout_secs" (optional whole) none, ← r.read 4 "models" (list text) []⟩

/-- Reads the settings of both providers. -/
def providersReader : Reader (Provider.Settings × Provider.Settings) := fun t => do
  let r ← Record.ofTree "ProvidersConfig" t
  return (← r.read 0 "openai" providerReader .blank, ← r.read 1 "anthropic" providerReader .blank)

/-- Reads all settings. -/
def Settings.reader : Reader Settings := fun t => do
  let r ← Record.ofTree "Config" t
  let server ← r.read 0 "server" Server.reader .standard
  let token ← r.read 1 "auth" tokenReader ""
  let level ← r.read 2 "safety" levelReader standardLevel
  let (openAi, anthropic) ← r.read 3 "providers" providersReader (.blank, .blank)
  return ⟨server, token, level, openAi, anthropic⟩

/-! ## 2. Layers -/

/-- The tree with one more layer, given by keys and what is set at the places they name. -/
def withLayer (below : Tree) (entries : List (String × Tree)) : Tree :=
  entries.foldl (fun below (key, t) => t.set (Key.steps key) (some below)) below

/-- How settings can be written in a file, by the end of its name. -/
def formats : List (String × (Origin → String → Option Tree)) :=
  [(".json", Tree.ofJsonText?), (".yaml", Tree.ofYamlText?), (".yml", Tree.ofYamlText?)]

/-- The layer in a file of some format. A file that is no text is passed over, and so is what it holds
    if that is no table. -/
def fileLayer (name : String) (parse : Origin → String → Option Tree) (bytes : List UInt8) :
    Except LoadFault (List (String × Tree)) :=
  match Text.Utf8.decode? bytes with
  | none => .ok []
  | some chars =>
    match parse (.file ("config/" ++ name)) (String.ofList chars) with
    | some (.table _ entries) => .ok entries
    | some _ => .ok []
    | none => .error (.file name)

/-- The layer in the file of a name, in the first format it is there in. A file that has the bare name
    is of no format, and stands in the way of the others. -/
def layerOf (files : List (String × List UInt8)) (name : String) :
    Except LoadFault (List (String × Tree)) :=
  if (files.lookup name).isSome then .ok []
  else match formats.findSome? (fun (ending, parse) =>
    (files.lookup (name ++ ending)).map (fileLayer (name ++ ending) parse)) with
  | some layer => layer
  | none => .ok []

namespace Settings

/-- **Loads the settings** from files and from the variables of the environment. -/
def load (files : List (String × List UInt8)) (environment : List (String × String)) :
    Except LoadFault Settings := do
  let general ← layerOf files "default"
  let own ← layerOf files "local"
  let tree := [general, own, environmentEntries environment].foldl withLayer Tree.empty
  match reader tree with
  | .ok s => return s
  | .error p => throw (.setting p)

/-! ## 3. What the settings describe -/

/-- The providers, each at the end of a line. -/
def registry (s : Settings) (line : Provider.Vendor → Provider.Line) :
    Except Provider.RegistryError Provider.Registry := do
  let provider (v : Provider.Vendor) (p : Provider.Settings) : Provider :=
    .ofEngine (.remote (.ofSettings v p (line v)))
  let r ← Provider.Registry.empty.register Provider.Vendor.openAi.name (provider .openAi s.openAi)
  r.register Provider.Vendor.anthropic.name (provider .anthropic s.anthropic)

/-- The check of callers. -/
def token (s : Settings) : Gateway.ServiceToken := .ofConfigured s.serviceToken

/-- The service. -/
def service (s : Settings) (line : Provider.Vendor → Provider.Line) :
    Except Provider.RegistryError Gateway.Service :=
  (s.registry line).map (fun r => ⟨⟨r, s.defaultLevel⟩, s.token⟩)

end Settings

end Gatehouse.Config
