import KernelLink.Json.Decoder

namespace KernelLink

/-- The content of an `execute_request`. -/
structure ExecuteRequest where
  code : String
  silent : Bool
  storeHistory : Bool
  /-- An object. -/
  userExpressions : Payload
  allowStdin : Bool
  stopOnError : Bool

namespace ExecuteRequest

/-- A request that runs code as a user at a prompt would, without letting the kernel ask for
input. -/
def new (code : String) : ExecuteRequest := ⟨code, false, true, .empty, false, true⟩

def record : Record ExecuteRequest where
  title := "JupyterExecuteRequest"
  blank := ⟨"", false, false, .empty, false, false⟩
  fields := [
    .of "code" .required .text fun r s => { r with code := s },
    .of "silent" .required .boolean fun r b => { r with silent := b },
    .of "store_history" .required .boolean fun r b => { r with storeHistory := b },
    .of "user_expressions" .required .object fun r p => { r with userExpressions := p },
    .of "allow_stdin" .required .boolean fun r b => { r with allowStdin := b },
    .of "stop_on_error" .required .boolean fun r b => { r with stopOnError := b }]

/-- The request as JSON, its fields in the order of declaration. -/
def toJson (r : ExecuteRequest) : Json :=
  .object [("code", .text r.code), ("silent", .bool r.silent),
    ("store_history", .bool r.storeHistory), ("user_expressions", r.userExpressions.json),
    ("allow_stdin", .bool r.allowStdin), ("stop_on_error", .bool r.stopOnError)]

/-- The request as the content of a message. -/
def content (r : ExecuteRequest) : Payload := .ofJson r.toJson

end ExecuteRequest

/-- The content of a request to shut down for good. -/
def shutdownContent : Payload := .ofJson (.object [("restart", .bool false)])

end KernelLink
