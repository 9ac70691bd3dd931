import KernelLink.CommandLine.Run

namespace KernelLink

/-- The octets of a file, if it can be read. -/
def fileContent? (path : String) : IO (Option Bytes) := do
  try
    let content ← IO.FS.readBinFile path
    return some content.toList
  catch _ => return none

/-- The names in a directory, if it can be listed. -/
def namesIn? (path : String) : IO (Option (List String)) := do
  try
    let entries ← (← IO.FS.realPath path).readDir
    return some (entries.toList.map (·.fileName))
  catch _ => return none

/-- Adds a file to a tree, if there is one. -/
def takeFile (tree : FileTree) (path : Path) : IO FileTree := do
  match ← fileContent? path with
  | some content => return tree.addFile path content
  | none => return tree

/-- Adds a directory to a tree, if there is one. -/
def takeDirectory (tree : FileTree) (path : Path) : IO FileTree := do
  match ← namesIn? path with
  | some _ => return tree.addDirectory path
  | none => return tree

/-- Adds the kernel specs in a directory to a tree. -/
def takeSpecs (tree : FileTree) (directory : Path) : IO FileTree := do
  let names := ((← namesIn? directory).getD []).map (Path.join directory)
  let tree ← names.foldlM takeDirectory tree
  names.foldlM (fun tree place => takeFile tree (SpecSearch.specFile place)) tree

/-- The directory that holds a path. -/
def above (path : Path) : Path :=
  "/" ++ "/".intercalate (FileTree.names path).dropLast

/-- The user's own data directory. -/
def userData : IO (Option Path) := do
  let home ← IO.getEnv "HOME"
  let base := (← IO.getEnv "XDG_DATA_HOME").or (home.map (Path.join · ".local/share"))
  return base.map (Path.join · "jupyter")

/-- What of the system the program can see: the kernel specs, the files that it is told of, and the
directories for those that it is to make. -/
def surroundings (a : Arguments) : IO Surroundings := do
  let here := toString (← IO.currentDir)
  let places : SpecSearch.Places :=
    ⟨← IO.getEnv "JUPYTER_PATH", ← IO.getEnv "JUPYTER_DATA_DIR", ← userData⟩
  let temporary := (← IO.getEnv "TMPDIR").getD "/tmp"
  let tree ← (SpecSearch.standard places).dirs.foldlM takeSpecs FileTree.empty
  let tree ← (a.file.toList.map (Path.join here)).foldlM takeFile tree
  let made := (a.logFile.toList ++ a.connectionFile.toList).map (Path.join here)
  let tree ← (temporary :: made.map above).foldlM takeDirectory tree
  let names := ["HOME", "PATH", "USER"]
  let inherited ← names.filterMapM fun name => do
    return (← IO.getEnv name).map fun value => (name, value)
  let seed ← IO.getRandomBytes 32
  return {
    tree := tree
    here := here
    temporary := temporary
    network := Network.cutOff tree
    places := places
    logLevel := ← IO.getEnv "RUST_LOG"
    inherited := inherited
    username := defaultUsername (← IO.getEnv "USER") (← IO.getEnv "USERNAME")
    picker := fun n => some (40000 + n)
    source := fun n => Sha256.digest (seed.toList ++ Bytes.ofString (toString n)) }

/-- Lists the kernels that are installed, or rehearses how code is run in one of them. -/
def runProgram (words : List String) : IO UInt32 := do
  match Arguments.parse words with
  | none =>
    IO.eprintln "error: the arguments make no sense"
    return 2
  | some a =>
    let w ← surroundings a
    let (report, tree) := CommandLine.run a w
    for path in a.logFile do
      if tree.isFile (Path.join w.here path) then IO.FS.writeFile path ""
    IO.print report.output
    IO.eprint report.errorText
    return UInt32.ofNat report.exitCode

end KernelLink

def main (words : List String) : IO UInt32 := KernelLink.runProgram words
