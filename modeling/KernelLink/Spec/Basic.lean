import KernelLink.FileTree
import KernelLink.Json.Decoder
import KernelLink.Table

namespace KernelLink

/-- How a kernel is launched and shown. -/
structure KernelSpec where
  argv : List String
  displayName : String
  language : String
  interruptMode : Option String
  env : Table String
  metadata : Option Payload
  /-- The directory that the spec was loaded from. -/
  resourceDir : Path

namespace KernelSpec

def record : Record KernelSpec where
  title := "KernelSpec"
  blank := ⟨[], "", "", none, [], none, ""⟩
  fields := [
    .of "argv" .required (.list .text) fun s l => { s with argv := l },
    .of "display_name" .required .text fun s t => { s with displayName := t },
    .of "language" .defaulted .text fun s t => { s with language := t },
    .of "interrupt_mode" .optional (.optional .text) fun s t => { s with interruptMode := t },
    .of "env" .defaulted (.members .text) fun s l => { s with env := Table.ofLast l },
    .of "metadata" .optional (.optional .payload) fun s p => { s with metadata := p }]

/-- The spec that a text holds. -/
def parse (text : Bytes) (resourceDir : Path) : Except Fault KernelSpec := do
  let spec ← record.decoder.parse text
  .ok { spec with resourceDir := resourceDir }

/-- The spec as JSON, without what it does not have. -/
def toJson (s : KernelSpec) : Json :=
  .object ([("argv", .array (s.argv.map .text)), ("display_name", .text s.displayName),
    ("language", .text s.language)] ++
    (match s.interruptMode with
      | some mode => [("interrupt_mode", .text mode)]
      | none => []) ++
    [("env", .object (s.env.map fun (key, value) => (key, .text value)))] ++
    (match s.metadata with
      | some p => [("metadata", p.json)]
      | none => []))

end KernelSpec
end KernelLink
