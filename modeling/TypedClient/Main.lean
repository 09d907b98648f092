import TypedClient.Command.Run

/-!
The command line program. It reads the files that a command looks at into a file tree, runs the
command on that tree, and writes what the run has changed.
-/

namespace TypedClient.Program

def readEntry (path : Path) : IO (List (Path × FileEntry)) := do
  let place := (← IO.currentDir) / String.ofList path.text
  if ← place.isDir then return [(path, .folder)]
  else if ← place.pathExists then
    let bytes ← IO.FS.readBinFile place
    return [(path, .file bytes.toList)]
  else return []

def readPaths (tree : FileTree) (paths : List Path) : IO FileTree := do
  let entries ← (paths.flatMap Path.ancestors).mapM readEntry
  return tree.addAll entries.flatten

def readTree (words : List Text) : IO FileTree := do
  let here := Path.ofText (← IO.currentDir).toString.toList
  let tree ← readPaths (.empty here.parts) (Command.namedPaths words)
  readPaths tree (Command.settingsPaths tree words)

def writeEntry (place : Place) (entry : FileEntry) : IO Unit := do
  let name := String.ofList (Path.mk ['/'] place).text
  match entry with
  | .folder => IO.FS.createDirAll name
  | .file bytes => IO.FS.writeBinFile name ⟨bytes.toArray⟩

def usageText : String :=
  "usage: typed-client (generate | types | services | inspect) DOCUMENT [OPTIONS]"

def printLines (print : String → IO Unit) (lines : List Text) : IO Unit :=
  lines.forM fun line => print (String.ofList line)

def run (words : List String) : IO UInt32 := do
  let words := words.map String.toList
  let tree ← readTree words
  let (outcome, changed) := Command.runWords tree words
  (FileTree.changes tree changed).forM fun (place, entry) => writeEntry place entry
  match outcome with
  | .usage =>
    IO.eprintln usageText
    return 2
  | .help =>
    IO.println usageText
    return 0
  | .ran ending output warnings =>
    printLines IO.println output
    printLines IO.eprintln warnings
    match ending with
    | .done => return 0
    | .failed message =>
      IO.eprintln (String.ofList ("Error: " ++ message))
      return 1
    | .escaped _ => return 1

end TypedClient.Program

def main (words : List String) : IO UInt32 :=
  TypedClient.Program.run words
