import KernelLink.ExecutionLog
import KernelLink.Failure
import KernelLink.Spec.Lookup

namespace KernelLink

/-- Why the program gives up: what it says, and what lies behind that, the nearest first. -/
structure Complaint where
  message : String
  causes : List String
  deriving DecidableEq, Repr

/-- What a run of the program says. -/
structure Report where
  output : String
  /-- Lines about settings that make no sense. -/
  warnings : List String
  /-- Lines about code that failed. -/
  errors : List String
  complaint : Option Complaint
  deriving DecidableEq, Repr

namespace Complaint

def ofFailure (f : Failure) : Complaint := ⟨f.message, f.causes⟩

/-- A complaint of its own about a failure. -/
def about (message : String) (f : Failure) : Complaint := ⟨message, f.message :: f.causes⟩

/-- A complaint of its own about a fault of the system. -/
def aboutFault (message : String) (fault : SystemFault) : Complaint := ⟨message, [fault.describe]⟩

/-- The complaint as it is shown. Causes are numbered if there is more than one. -/
def text (c : Complaint) : String :=
  let shown :=
    match c.causes with
    | [] => ""
    | [cause] => "\n\nCaused by:\n    " ++ cause
    | causes => "\n\nCaused by:" ++ String.join (causes.zipIdx.map fun (cause, i) =>
        "\n    " ++ toString i ++ ": " ++ cause)
  "Error: " ++ c.message ++ shown ++ "\n"

end Complaint

namespace Report

/-- A run that went well and says nothing but that. -/
def saying (output : String) : Report := ⟨output, [], [], none⟩

def complaining (c : Complaint) : Report := ⟨"", [], [], some c⟩

/-- What is written to the standard error stream. -/
def errorText (r : Report) : String :=
  String.join ((r.warnings ++ r.errors).map (· ++ "\n")) ++
    (r.complaint.map Complaint.text).getD ""

def exitCode (r : Report) : Nat := if r.complaint.isSome then 1 else 0

end Report

def logLevels : List String := ["trace", "debug", "info", "warn", "error"]

/-- The warning about a log level that is not known. -/
def logWarnings (level : String) : List String :=
  if logLevels.contains level then []
  else ["Invalid log level '" ++ level ++ "'; using 'info'"]

/-- A text with blanks behind it up to a width. -/
def padded (width : Nat) (s : String) : String :=
  s ++ String.ofList (List.replicate (width - s.length) ' ')

/-- The list of the kernels that are installed. -/
def listing (kernels : Table Path) : String :=
  if kernels.isEmpty then "No kernels found\n"
  else String.join (kernels.map fun (name, directory) => padded 20 name ++ " " ++ directory ++ "\n")

/-- What a run of code has written: streams as they are, results and displays as plain text. -/
def outputOf (entry : ExecutionEntry) : String :=
  String.join (entry.responses.map fun m =>
    match m.msgType with
    | "stream" => (m.text? "text").getD ""
    | "execute_result" => ((m.data? "text/plain").bind Json.text?).elim "" (· ++ "\n")
    | "display_data" => ((m.data? "text/plain").bind Json.text?).elim "" (· ++ "\n")
    | _ => "")

/-- The texts without those that repeat the one before. -/
def withoutRepeats : List String → List String
  | [] => []
  | [last] => [last]
  | first :: second :: rest =>
    if first = second then withoutRepeats (second :: rest)
    else first :: withoutRepeats (second :: rest)

/-- The complaint about code that failed, if any did. -/
def failedCode (errors : List String) : Option Complaint :=
  if errors.isEmpty then none
  else
    let plural := if errors.length = 1 then "" else "s"
    some ⟨toString errors.length ++ " error" ++ plural ++ " while running code", []⟩

end KernelLink
