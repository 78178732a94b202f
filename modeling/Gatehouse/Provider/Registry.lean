import Gatehouse.Provider.Basic

/-!
# The registry of providers

Providers are registered under names, each name once. The registry keeps them in the order of their
names, which is the order of the code points, whatever order they were registered in. Each
registration holds a provider of its own: closing what stands under one name leaves what stands
under the others as it is.

* `Registry.register` and `Registry.get` are refused for a name that is taken or unknown;
* `Registry.list` and `Registry.configured` list the names in order;
* `Registry.closeAll` closes every provider, whether others fail to close or not.
-/

namespace Gatehouse.Provider

/-- Why the registry refused an operation. -/
inductive RegistryError where
  | alreadyRegistered (name : String)
  | notRegistered (name : String)
  deriving DecidableEq, Repr

/-- The words for a refused operation. -/
def RegistryError.message : RegistryError → String
  | .alreadyRegistered name => "Provider '" ++ name ++ "' already registered"
  | .notRegistered name => "Provider '" ++ name ++ "' not registered"

/-- Providers by name, in the order of the names. No two entries are the same provider. -/
structure Registry where
  entries : List (String × Provider)

namespace Registry

/-- No providers. -/
def empty : Registry := ⟨[]⟩

/-- The provider under a name. -/
def find? (r : Registry) (name : String) : Option Provider := r.entries.lookup name

/-- The entries with one more, in the place its name belongs. -/
def insert (name : String) (p : Provider) : List (String × Provider) → List (String × Provider)
  | [] => [(name, p)]
  | (n, q) :: rest =>
    if name < n then (name, p) :: (n, q) :: rest else (n, q) :: insert name p rest

/-- Registers a provider under a name. -/
def register (r : Registry) (name : String) (p : Provider) : Except RegistryError Registry :=
  match r.find? name with
  | some _ => .error (.alreadyRegistered name)
  | none => .ok ⟨insert name p r.entries⟩

/-- The provider under a name, or a refusal. -/
def get (r : Registry) (name : String) : Except RegistryError Provider :=
  match r.find? name with
  | some p => .ok p
  | none => .error (.notRegistered name)

/-- The registry with the provider under a name changed. -/
def update (r : Registry) (name : String) (f : Provider → Provider) : Registry :=
  ⟨r.entries.map (fun (n, p) => if n = name then (n, f p) else (n, p))⟩

/-- The names and the models offered under them. -/
def list (r : Registry) : List (String × List String) := r.entries.map (fun (n, p) => (n, p.models))

/-- The names of the providers that have credentials. -/
def configured (r : Registry) : List String :=
  (r.entries.filter (fun (_, p) => p.isConfigured)).map Prod.fst

/-- Closes every provider, once for each name it is registered under. -/
def closeAll (r : Registry) : Registry := ⟨r.entries.map (fun (n, p) => (n, p.close.2))⟩

end Registry

end Gatehouse.Provider
