import Gatehouse.Config.Tree
import Gatehouse.Yaml.Document

/-!
# Settings written as YAML

A mapping is a table, and an unquoted scalar is what it looks like. The words for infinities and for no
number that are written with a point in front cannot be settings.
-/

namespace Gatehouse.Config

/-- An unquoted scalar as a setting. -/
def Scalar.ofPlain? (text : String) : Option Scalar :=
  match Yaml.plainValue text with
  | .null => some .null
  | .bool b => some (.bool b)
  | .int n => some (.int n)
  | .real s => (Number.real? s).map .real
  | .text s => some (.text s)

namespace Tree

mutual

/-- The settings in a YAML value. -/
def ofYaml? (origin : Origin) : Yaml.Node → Option Tree
  | .absent => some (.scalar origin .null)
  | .plain s => (Scalar.ofPlain? s).map (.scalar origin)
  | .quoted s => some (.scalar origin (.text s))
  | .list items => (ofYamlItems? origin items).map (.list origin)
  | .mapping entries => (ofYamlEntries? origin entries).map (.table origin)

/-- The settings in the items of a list. -/
def ofYamlItems? (origin : Origin) : List Yaml.Node → Option (List Tree)
  | [] => some []
  | n :: ns =>
    match ofYaml? origin n, ofYamlItems? origin ns with
    | some u, some us => some (u :: us)
    | _, _ => none

/-- The settings in the entries of a mapping. -/
def ofYamlEntries? (origin : Origin) : List (String × Yaml.Node) → Option (List (String × Tree))
  | [] => some []
  | (name, n) :: rest =>
    match ofYaml? origin n, ofYamlEntries? origin rest with
    | some u, some us => some ((name, u) :: us)
    | _, _ => none

end

/-- The settings in a YAML text. -/
def ofYamlText? (origin : Origin) (text : String) : Option Tree :=
  (Yaml.readDocument text).bind (ofYaml? origin)

end Tree

end Gatehouse.Config
