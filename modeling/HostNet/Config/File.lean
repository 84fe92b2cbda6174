import HostNet.Config.Network
import HostNet.Document.Yaml.Reader
import HostNet.Error
import HostNet.Layout

namespace HostNet.Config.Network

def ofYaml? (text : String) : Option Network := (Document.Yaml.read? text).bind ofDocument?

def yamlExtensions : List String := ["yaml","yml"]

-- Whether a file is one of YAML. No letter beyond ASCII has a letter of these extensions as its lower case.
def isYaml (path : String) : Bool :=
  (Path.extension? path).any fun extension => yamlExtensions.contains extension.toLower

-- The extension of a file tells its format.
def ofFile (files : Files) (path : String) : Except Error Network := do
  let text ← (files.read path).mapError .file
  match if isYaml path then ofYaml? text else ofJson? text with
  | some n => return n
  | none => throw .malformed

-- A file below the root of a layout has to declare the network that it is named for.
def load (layout : Layout) (files : Files) (network : String) : Except Error Network := do
  let path := layout.declaration network
  let n ← ofFile files path
  if n.name = network then return n
  throw (.config (.otherNetwork path n.name network))

end HostNet.Config.Network
