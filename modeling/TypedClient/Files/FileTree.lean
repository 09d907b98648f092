import TypedClient.Files.Path
import TypedClient.Text.Blank
import TypedClient.Text.Utf8

/-!
A file system as a value: folders and files by their places. Paths without a root start at the
working folder, which is there together with the folders around it. What was written earlier keeps
its position in the list of entries.
-/

namespace TypedClient

inductive FileEntry where
  | folder
  | file (bytes : List UInt8)
  deriving DecidableEq, Repr

abbrev Place := List Text

structure FileTree where
  workingFolder : Place
  entries : List (Place × FileEntry)
  deriving DecidableEq, Repr

inductive FileFault where
  | missing
  | notFolder
  | isFolder
  | alreadyFile
  | nameTooLong
  | nullCharacter
  deriving DecidableEq, Repr

def FileFault.message? : FileFault → Option Text
  | nullCharacter => some "embedded null byte"
  | _ => none

def nameTooLong (name : Text) : Bool :=
  255 < (Utf8.encode name).length

def Path.fault? (path : Path) : Option FileFault :=
  if '\x00' ∈ path.text then some .nullCharacter
  else if 4095 < (Utf8.encode path.text).length then some .nameTooLong
  else none

namespace FileTree

def empty (workingFolder : Place) : FileTree :=
  ⟨workingFolder, []⟩

def entry? (tree : FileTree) (place : Place) : Option FileEntry :=
  if place.isPrefixOf tree.workingFolder then some .folder
  else tree.entries.lookup place

def isFolder (tree : FileTree) (place : Place) : Bool :=
  tree.entry? place == some .folder

def startOf (tree : FileTree) (path : Path) : Place :=
  if path.root.isEmpty then tree.workingFolder else []

def step (here : Place) (part : Text) : Place :=
  if part = ".." then here.dropLast else here ++ [part]

def walk (tree : FileTree) (here : Place) : List Text → Except FileFault Place
  | [] => .ok here
  | part :: rest =>
    match tree.entry? here with
    | none => .error .missing
    | some (.file _) => .error .notFolder
    | some .folder =>
      if nameTooLong part then .error .nameTooLong else walk tree (step here part) rest

def locate (tree : FileTree) (path : Path) : Except FileFault Place :=
  match path.fault? with
  | some fault => .error fault
  | none => tree.walk (tree.startOf path) path.parts

def find? (tree : FileTree) (path : Path) : Option FileEntry :=
  match tree.locate path with
  | .ok place => tree.entry? place
  | .error _ => none

def put (tree : FileTree) (place : Place) (entry : FileEntry) : FileTree :=
  { tree with entries := go tree.entries }
where
  go : List (Place × FileEntry) → List (Place × FileEntry)
    | [] => [(place, entry)]
    | (p, old) :: rest => if p = place then (p, entry) :: rest else (p, old) :: go rest

def makeFoldersFrom (tree : FileTree) (here : Place) : List Text → Except FileFault FileTree
  | [] => .ok tree
  | part :: rest =>
    let next := step here part
    if nameTooLong part then .error .nameTooLong
    else match tree.entry? next with
      | some .folder => makeFoldersFrom tree next rest
      | some (.file _) => .error (if rest.isEmpty then .alreadyFile else .notFolder)
      | none => makeFoldersFrom (tree.put next .folder) next rest

def makeFolders (tree : FileTree) (path : Path) : Except FileFault FileTree :=
  match path.fault? with
  | some fault => .error fault
  | none => tree.makeFoldersFrom (tree.startOf path) path.parts

/-- The folder of the file must be there already. -/
def writeFile (tree : FileTree) (path : Path) (bytes : List UInt8) : Except FileFault FileTree :=
  match tree.locate path with
  | .error fault => .error fault
  | .ok place =>
    match tree.entry? place.dropLast with
    | none => .error .missing
    | some (.file _) => .error .notFolder
    | some .folder =>
      if tree.isFolder place then .error .isFolder else .ok (tree.put place (.file bytes))

def readBytes (tree : FileTree) (path : Path) : Except FileFault (List UInt8) :=
  match tree.locate path with
  | .error fault => .error fault
  | .ok place =>
    match tree.entry? place with
    | none => .error .missing
    | some .folder => .error .isFolder
    | some (.file bytes) => .ok bytes

def add (tree : FileTree) (path : Path) (entry : FileEntry) : FileTree :=
  match tree.makeFolders path.parent with
  | .ok tree => tree.put (path.parts.foldl step (tree.startOf path)) entry
  | .error _ => tree

def addAll (tree : FileTree) (entries : List (Path × FileEntry)) : FileTree :=
  entries.foldl (fun tree (path, entry) => tree.add path entry) tree

def files (tree : FileTree) : List (Text × List UInt8) :=
  tree.entries.filterMap fun (place, entry) =>
    match tree.workingFolder.isPrefixOf place, entry with
    | true, .file bytes =>
      some ((['/'] : Text).intercalate (place.drop tree.workingFolder.length), bytes)
    | _, _ => none

def changes (before after : FileTree) : List (Place × FileEntry) :=
  after.entries.filter (· ∉ before.entries)

end FileTree

/-- One byte order mark at the beginning is passed over, and line breaks are made uniform. -/
def decodeText? (bytes : List UInt8) : Option Text :=
  let content := match bytes with
    | 0xEF :: 0xBB :: 0xBF :: rest => rest
    | bytes => bytes
  (Utf8.decode? content).map Text.unifyLineBreaks

end TypedClient
