import KernelLink.Connection.Ports
import KernelLink.FileTree
import KernelLink.Uuid

namespace KernelLink

/-- How many random octets a generated key has. -/
def keyLength : Nat := 32

/-- A connection file: what it holds, where it lies, and whether this object wrote it. -/
structure ConnectionFile where
  info : ConnectionInfo
  path : Path
  written : Bool
  deriving DecidableEq, Repr

/-- The surroundings of a connection file: the files, and the free ports with how often they have
been asked for. -/
structure Disk where
  tree : FileTree
  picker : PortPicker
  asked : Nat

namespace ConnectionFile

/-- A file that nothing has been written to. -/
def ofInfo (info : ConnectionInfo) (path : Path) : ConnectionFile := ⟨info, path, false⟩

/-- Reads a file that somebody else wrote. -/
def ofFile (tree : FileTree) (path : Path) : Except Failure ConnectionFile :=
  match tree.status path with
  | .error fault => .error (.io fault)
  | .ok .directory => .error (.json (.io SystemFault.isDirectory.describe))
  | .ok (.file content) =>
    match ConnectionInfo.record.decoder.parse content with
    | .ok info => .ok ⟨info, path, false⟩
    | .error fault => .error (.json fault)

/-- Takes a new key from random octets. -/
def generateKey (f : ConnectionFile) (octets : Bytes) : ConnectionFile :=
  { f with info := { f.info with key := keyText octets, signatureScheme := "hmac-sha256" } }

/-- Whether a kernel can be launched here with this connection. -/
def validate (f : ConnectionFile) : Except Failure Unit :=
  if f.info.transport ≠ "tcp" then .error (.config (.transport f.info.transport))
  else if !isLocalAddress f.info.ip then .error (.config (.address f.info.ip))
  else if f.info.signatureScheme ≠ "hmac-sha256" then
    .error (.config (.scheme f.info.signatureScheme))
  else .ok ()

def assignPorts (f : ConnectionFile) (disk : Disk) : Except Failure Unit × ConnectionFile × Disk :=
  let (result, info, asked) := Ports.assign disk.picker f.info disk.asked
  (result, { f with info := info }, { disk with asked := asked })

/-- Writes the file with all its ports, unless it has been written and is still there. The file is
opened first, so that what it held before is lost, and it stays if its text cannot be written. -/
def write (f : ConnectionFile) (disk : Disk) : Except Failure Unit × ConnectionFile × Disk :=
  if f.written && disk.tree.hasNode f.path then (.ok (), f, disk)
  else
    match f.validate with
    | .error failure => (.error failure, f, disk)
    | .ok () =>
      match f.assignPorts disk with
      | (.error failure, f, disk) => (.error failure, f, disk)
      | (.ok (), f, disk) =>
        match disk.tree.create f.path with
        | .error fault => (.error (.io fault), f, disk)
        | .ok (place, tree) =>
          match tree.fill place [] f.info.fileText with
          | (.error fault, tree) =>
            (.error (.json (.io fault.describe)), f, { disk with tree := tree })
          | (.ok (), tree) => (.ok (), { f with written := true }, { disk with tree := tree })

/-- Removes the file if this object wrote it. -/
def cleanup (f : ConnectionFile) (disk : Disk) : ConnectionFile × Disk :=
  if !f.written then (f, disk)
  else
    match disk.tree.remove f.path with
    | .ok tree => ({ f with written := false }, { disk with tree := tree })
    | .error _ => ({ f with written := false }, disk)

end ConnectionFile
end KernelLink
