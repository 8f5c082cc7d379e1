import Assay.Settings
import Assay.Number
import Assay.Toml.Reader

/-!
# Settings from documents

A TOML document may set either limit.  Keys that are no settings do not count.
-/

namespace Assay.Settings

def depthOf? : Option Toml → Option Nat
  | none => some standard.maxDepth
  | some (.integer i) => if 0 ≤ i ∧ i < 2 ^ 64 then some i.toNat else none
  | some _ => none

def boundOf? : Option Toml → Option Int64
  | none => some standard.intBound
  | some (.integer i) => int64? i
  | some _ => none

def ofTable? (entries : Toml.Table) : Option Settings := do
  let depth ← depthOf? (entries.lookup "max_depth")
  let bound ← boundOf? (entries.lookup "int_bound")
  some ⟨depth, bound⟩

def ofDocument (text : String) : Except SettingsError Settings :=
  match (Toml.parse? text).bind ofTable? with
  | some settings => settings.validate
  | none => .error .malformed

end Assay.Settings
