import LiveTemplates.Config.Setting
import LiveTemplates.Config.Yaml.Node

set_option autoImplicit false

/-! # Settings in YAML files

The only document of a file is its table. Keys are texts, whole numbers, numbers and truth values as
they are written. What is not what its tag says counts as nothing, and numbers without digits that
are not written in the common way cannot be read. -/

namespace LiveTemplates

namespace Yaml

/-- The text of a key. -/
def keyText? : Option Content → Option String
  | some (.text text) => some text
  | some (.whole i) => some (toString i)
  | some (.truth b) => some (toString b)
  | some (.number text) => some text
  | _ => none

/-- The setting that a scalar is. -/
def Content.setting? (origin : Option String) : Content → Option Setting
  | .nothing | .unfit => some (.scalar origin .nothing)
  | .truth b => some (.scalar origin (.bool b))
  | .whole i => some (.scalar origin (.whole i))
  | .number digits => (Double.parse? digits).map fun x => .scalar origin (.real x)
  | .text s => some (.scalar origin (.text s))

mutual

/-- The setting that a node is. -/
def Node.setting? (origin : Option String) : Node → Option Setting
  | .scalar content => content.setting? origin
  | .sequence items => (itemSettings? origin items).map (.list origin)
  | .mapping entries => (entrySettings? origin entries []).map (.table origin)

/-- The settings that items are. -/
def Node.itemSettings? (origin : Option String) : List Node → Option (List Setting)
  | [] => some []
  | node :: rest => do
    let item ← node.setting? origin
    let items ← itemSettings? origin rest
    return item :: items

/-- The settings that entries are, added to those before. -/
def Node.entrySettings? (origin : Option String) :
    List (Option Content × Node) → List (String × Setting) → Option (List (String × Setting))
  | [], entries => some entries
  | (key, node) :: rest, entries => do
    let name ← keyText? key
    let value ← node.setting? origin
    entrySettings? origin rest (Dictionary.insert name value entries)

end

/-- What a file holds; an empty table if it holds no document. -/
def parse? (origin : Option String) (text : String) : Option Setting := do
  match ← document? text with
  | none => return .table origin []
  | some root => root.setting? origin

end Yaml

end LiveTemplates
