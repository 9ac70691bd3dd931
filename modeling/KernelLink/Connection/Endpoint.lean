import KernelLink.Failure
import KernelLink.FileTree
import KernelLink.Text.Digits

namespace KernelLink

/-- What a socket connects to. -/
inductive Endpoint where
  | tcp (host : String) (port : Nat)
  | ipc (path : Path)
  deriving DecidableEq, Repr

namespace Endpoint

/-- The name of a transport in lower case, and the address behind it, which has to be there and to
stand on one line. -/
def splitTransport (cs : List Char) : Option (List Char × List Char) :=
  let name := cs.takeWhile fun c => 'a' ≤ c && c ≤ 'z'
  match cs.drop name.length with
  | ':' :: '/' :: '/' :: address =>
    if name = [] ∨ address = [] ∨ address.contains '\n' then none else some (name, address)
  | _ => none

/-- The host and the digits of the port, behind the last colon. -/
def splitPort (address : List Char) : Option (List Char × List Char) :=
  let digits := (address.reverse.takeWhile isDecimalDigit).reverse
  match address.reverse.drop digits.length with
  | ':' :: host => if digits = [] ∨ host = [] then none else some (host.reverse, digits)
  | _ => none

/-- The port that some digits name. -/
def port? (digits : List Char) : Option Nat :=
  if digits.all Char.isDigit then
    let port := digits.foldl (fun n c => 10 * n + (c.toNat - 48)) 0
    if port < 65536 then some port else none
  else none

/-- The endpoint that an address names. -/
def parse (address : String) : Except TransportFault Endpoint :=
  match splitTransport address.toList with
  | none => .error .noTransport
  | some (name, rest) =>
    match String.ofList name with
    | "tcp" =>
      match splitPort rest with
      | none => .error .noHostAndPort
      | some (host, digits) =>
        match port? digits with
        | none => .error .portOutOfRange
        | some port => .ok (.tcp (String.ofList host) port)
    | "ipc" => .ok (.ipc (String.ofList rest))
    | other => .error (.unknownTransport other)

end Endpoint
end KernelLink
