import OnDemandTls.CommandLine.Run
import Std.Time.DateTime.Timestamp

namespace OnDemandTls

/-!
# The program

The files that a command may read are read before it, the command is run on
them, and what it has changed is written afterwards.  This machine has no
network: no authority is reached, and no listener is added.
-/

namespace Main

/-- What is said about a damaged document. -/
def damagedWords : String := "malformed document"

/-- The environment of the program. -/
def environment : IO (String → Option String) := do
  let values ← Machine.environmentNames.mapM fun name => return (name, ← IO.getEnv name)
  return fun name => (values.lookup name).join

/-- The machine that the program runs on. -/
def machine : IO Machine := do
  let now ← Std.Time.Timestamp.now
  return {
    environment := ← environment
    now := now.toSecondsSinceUnixEpoch.val
    network := .secluded fun _ _ => .error (.other "Operation not supported (os error 95)") }

/-- The place of some names on the disk. -/
def place (names : List String) : String :=
  "/" ++ FileTree.join names

/-- A tree with what stands under a path and above it. -/
def discover
    (tree : FileTree)
    (path : String) :
    IO FileTree := do
  let top ← IO.currentDir
  let names := tree.locate path
  let mut found := tree
  for length in List.range names.length do
    let above := names.take (length + 1)
    let here := top / place above
    if ← here.isDir then
      found := found.place above .directory
    else if ← here.pathExists then
      found := found.place above (.file (← IO.FS.readBinFile here) FileTree.newFileMode)
  return found

/-- Who may use a file of a mode. -/
def rights (mode : Nat) : IO.FileRight :=
  let access (shift : Nat) : IO.AccessRight :=
    { read := mode.testBit (shift + 2)
      write := mode.testBit (shift + 1)
      execution := mode.testBit shift }
  { user := access 6, group := access 3, other := access 0 }

/-- Put a node on the disk. -/
def deposit
    (path : String)
    (node : FileNode) :
    IO Unit := do
  match node with
  | .directory => IO.FS.createDirAll path
  | .file content mode =>
      IO.FS.writeBinFile path content
      IO.setAccessRights path (rights mode)
  | .brokenLink => pure ()

/-- Whether a node is as it was. -/
def isSame : FileNode → FileNode → Bool
  | .directory, .directory => true
  | .brokenLink, .brokenLink => true
  | .file content mode, .file before modeBefore => content == before && mode == modeBefore
  | _, _ => false

/-- Put on the disk what has changed. -/
def depositChanges
    (before after : FileTree) :
    IO Unit := do
  for (path, node) in after.nodes.toList do
    unless ((before.nodes.get? path).map (isSame node)).getD false do
      deposit ("/" ++ path) node
  for path in before.nodes.keys do
    unless after.nodes.contains path do
      IO.FS.removeFile ("/" ++ path)

/-- The files that a command line may read. -/
def files
    (machine : Machine)
    (arguments : List String) :
    IO FileTree := do
  let directory := (← IO.currentDir).toString
  let tree := { FileTree.empty with workingDirectory := FileTree.empty.locate directory }
  let tree ← discover tree directory
  match Invocation.read machine.environment arguments with
  | .error _ => return tree
  | .ok invocation =>
      let tree ← discover tree (machine.configPath invocation)
      match machine.config invocation tree with
      | .error _ => return tree
      | .ok config => (Machine.dataPaths config).foldlM discover tree

end Main

end OnDemandTls

/-- Run a command line. -/
def main (arguments : List String) : IO UInt32 := do
  let machine ← OnDemandTls.Main.machine
  let tree ← OnDemandTls.Main.files machine arguments
  let outcome := machine.run OnDemandTls.Main.damagedWords arguments tree
  OnDemandTls.Main.depositChanges tree outcome.tree
  IO.print outcome.output
  unless outcome.complaint = "" do
    IO.eprintln outcome.complaint
  return UInt32.ofNat outcome.exitCode
