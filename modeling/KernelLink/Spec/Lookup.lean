import KernelLink.Spec.Basic

namespace KernelLink

/-- What a search for kernel specs sees of a file system. -/
structure FileView where
  /-- The names in a directory, in the order in which the system tells them. -/
  list (directory : Path) : Option (List String)
  isFile (file : Path) : Bool
  read (file : Path) : Except SystemFault Bytes

def FileTree.view (t : FileTree) : FileView := ⟨t.list?, t.isFile, t.read⟩

/-- Kernel names are made of ASCII letters, digits, points, dashes and underscores. -/
def isKernelName (name : String) : Bool :=
  name ≠ "" && name.toList.all fun c => c.isAlphanum || c = '.' || c = '-' || c = '_'

/-- The directories to search for kernel specs; later ones come first in rank. -/
structure SpecSearch where
  dirs : List Path

namespace SpecSearch

def specFile (directory : Path) : Path := Path.join directory "kernel.json"

/-- The kernels in one directory: the names that are looked up, with the directories they mean. -/
def kernelsIn (view : FileView) (dir : Path) : List (String × Path) :=
  ((view.list dir).getD []).filterMap fun name =>
    let path := Path.join dir name
    if view.isFile (specFile path) && isKernelName name then some (name.toLower, path) else none

/-- Every kernel that is installed, by its name in lower case. -/
def find (search : SpecSearch) (view : FileView) : Table Path :=
  Table.ofLast (search.dirs.flatMap (kernelsIn view))

/-- The spec in a directory. It has to name a program. -/
def load (view : FileView) (name : String) (directory : Path) : Except Failure KernelSpec :=
  match view.read (specFile directory) with
  | .error fault => .error (.invalidSpec name fault.describe)
  | .ok content =>
    if (Bytes.toString? content).isNone then
      .error (.invalidSpec name SystemFault.notUtf8.describe)
    else
      match KernelSpec.parse content directory with
      | .error fault => .error (.invalidSpec name fault.describe)
      | .ok spec => if spec.argv = [] then .error (.invalidSpec name "argv is empty") else .ok spec

/-- Every spec that can be loaded, by the name of its kernel. -/
def all (search : SpecSearch) (view : FileView) : Table KernelSpec :=
  (search.find view).filterMap fun (name, directory) =>
    match load view name directory with
    | .ok spec => some (name, spec)
    | .error _ => none

/-- The spec of a kernel. -/
def get (search : SpecSearch) (view : FileView) (name : String) : Except Failure KernelSpec :=
  if !isKernelName name then .error (.noSuchKernel name)
  else
    match (search.find view).lookup name.toLower with
    | some directory => load view name directory
    | none => .error (.noSuchKernel name)

/-- What of the environment decides where kernels are searched for. -/
structure Places where
  /-- Data directories, separated by colons, the first in rank first. -/
  jupyterPath : Option String
  /-- The data directory that is preferred to the user's own. -/
  jupyterDataDir : Option Path
  /-- The user's own data directory. -/
  userData : Option Path

/-- The standard search: the system's directories, those of the path, then the user's. -/
def standard (places : Places) : SpecSearch :=
  let listed := (places.jupyterPath.map (·.splitOn ":")).getD []
  let own := (places.jupyterDataDir.or places.userData).toList
  ⟨(["/usr/share/jupyter", "/usr/local/share/jupyter"] ++ listed.reverse ++ own).map
    fun dir => Path.join dir "kernels"⟩

end SpecSearch
end KernelLink
