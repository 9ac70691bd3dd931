import KernelLink.Connection.Info
import KernelLink.Failure

namespace KernelLink

/-- A source of free ports: what it answers when it is asked for the n-th time. -/
abbrev PortPicker := Nat → Option Nat

namespace Ports

/-- A free port that is not reserved, and how often the picker has been asked. A picker that keeps
naming reserved ports is given up after `patience` more tries. -/
def find (picker : PortPicker) (label : String) (reserved : List Nat) :
    Nat → Nat → Except Failure Nat × Nat
  | patience, asked =>
    match picker asked with
    | none =>
      (.error (.processStart ("Failed to pick " ++ label ++
        " port; no free ports available or port range exhausted")), asked + 1)
    | some port =>
      if reserved.contains port then
        match patience with
        | 0 =>
          (.error (.processStart ("Failed to pick unreserved " ++ label ++ " port after 10 tries")),
            asked + 1)
        | patience + 1 => find picker label reserved patience (asked + 1)
      else (.ok port, asked + 1)

/-- One of the ports of a connection. -/
structure Slot where
  label : String
  get : ConnectionInfo → Nat
  set : ConnectionInfo → Nat → ConnectionInfo

def slots : List Slot := [
  ⟨"shell", (·.shellPort), fun i n => { i with shellPort := n }⟩,
  ⟨"iopub", (·.iopubPort), fun i n => { i with iopubPort := n }⟩,
  ⟨"stdin", (·.stdinPort), fun i n => { i with stdinPort := n }⟩,
  ⟨"heartbeat", (·.hbPort), fun i n => { i with hbPort := n }⟩,
  ⟨"control", (·.controlPort), fun i n => { i with controlPort := n }⟩]

/-- Fills the slots that hold no port. What has been filled stays when a later slot fails. -/
def fill (picker : PortPicker) :
    List Slot → List Nat → ConnectionInfo → Nat → Except Failure Unit × ConnectionInfo × Nat
  | [], _, info, asked => (.ok (), info, asked)
  | slot :: rest, reserved, info, asked =>
    if slot.get info ≠ 0 then fill picker rest reserved info asked
    else
      match find picker slot.label reserved 10 asked with
      | (.ok port, asked) =>
        fill picker rest (reserved ++ [port]) (slot.set info port) asked
      | (.error failure, asked) => (.error failure, info, asked)

/-- Gives every port that is still zero a free one. -/
def assign (picker : PortPicker) (info : ConnectionInfo) (asked : Nat) :
    Except Failure Unit × ConnectionInfo × Nat :=
  fill picker slots (info.ports.filter (· ≠ 0)) info asked

end Ports
end KernelLink
