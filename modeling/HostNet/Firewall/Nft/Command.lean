import HostNet.Document.Json.Reader
import HostNet.Document.Record
import HostNet.Firewall.Nft.Ops
import HostNet.Text.Blank

namespace HostNet.Firewall.Nft.Command

def program : String := "nft"

def listedOf? (d : Document) : Option Listed := do
  let fields ← d.fields? ["chain","handle","comment"] 2
  return ⟨← fields.required "chain" Document.asText?,← fields.required "handle" (Document.asNat? 64),
    ← fields.optional "comment" Document.asText?⟩

def itemOf? (d : Document) : Option (Option Listed) := do
  let fields ← d.fields? ["rule"] 0
  fields.optional "rule" listedOf?

def listing? (text : String) : Option (List Listed) := do
  let fields ← (← Document.Json.read? text).fields? ["nftables"] 0
  let items ← fields.withDefault "nftables" [] (Document.asList? itemOf?)
  return items.filterMap id

def run (runner : Runner σ) (arguments : List String) (input : Option String) :
    Step σ ToolError Finished := do
  let f ← Step.mapError (fun e => .failed ("failed to run nft: " ++ e.message))
    (runner ⟨program,arguments,input⟩)
  let said := Text.trim f.errors
  if f.success then return f
  else if Text.occursIn "No such file or directory".toList said.toList then throw (.notFound said)
  else throw (.failed said)

def listRules (runner : Runner σ) (chain : String) : Step σ ToolError (List Listed) := do
  let f ← run runner ["--json","list","chain",family,table,chain] none
  match listing? f.output with
  | some rules => return rules
  | none => throw (.failed "could not parse nft output")

def apply (runner : Runner σ) (t : Transaction) : Step σ ToolError Unit := do
  let _ ← run runner ["-f","-"] (some t.script)

-- Whether the tool can be used, which is so if it finds nothing wrong with a small script.
def supported (runner : Runner σ) : StateM σ Bool := fun s =>
  match runner ⟨program,["--check","-f","-"],some "add table ip supports_nftables_test\n"⟩ s with
  | .ok f s => (f.success,s)
  | .error _ s => (false,s)

def ops (runner : Runner σ) : Ops σ where
  supported := supported runner
  listRules := listRules runner
  run := apply runner

end HostNet.Firewall.Nft.Command
