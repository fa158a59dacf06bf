import Foreman.Config.File

set_option autoImplicit false

namespace Foreman

inductive PathFault where
  | missing
  | notFolder
  | isFolder
  | longName
  | nulCharacter
deriving DecidableEq, Repr

def PathFault.text : PathFault → String
  | .missing => "No such file or directory (os error 2)"
  | .notFolder => "Not a directory (os error 20)"
  | .isFolder => "Is a directory (os error 21)"
  | .longName => "File name too long (os error 36)"
  | .nulCharacter => "file name contained an unexpected NUL byte"

abbrev Folder := List (String × String)

namespace Folder

def find? (folder : Folder) (name : String) : Option String :=
  (List.find? (fun entry => entry.1 == name) folder).map Prod.snd

def split : List Char → List (List Char)
  | [] => [[]]
  | c :: rest =>
      if c = '/' then [] :: split rest
      else
        match split rest with
        | [] => [[c]]
        | name :: more => (c :: name) :: more

def names (path : String) : List String :=
  (split path.toList).map String.ofList

def document? (folder : Folder) (way : List String) : Option String :=
  (List.find? (fun entry => names entry.1 == way) folder).map Prod.snd

def reaches (folder : Folder) (way : List String) : Bool :=
  folder.any fun entry => way.isPrefixOf (names entry.1)

-- Where a path has come to: to a folder below the start or below the root of the machine, to one
-- above the start, of which nothing is known, or to a file.
inductive Place where
  | below (way : List String)
  | rooted (way : List String)
  | above
  | file (document : String)
deriving DecidableEq, Repr

def rootFolders : List String :=
  ["bin", "boot", "dev", "etc", "home", "lib", "media", "mnt", "opt", "proc", "root", "run", "sbin",
   "srv", "sys", "tmp", "usr", "var"]

-- One name further. The null device of the machine is an empty file.
def enter (folder : Folder) (place : Place) (name : String) : Except PathFault Place :=
  match place with
  | .below way =>
      let way := way ++ [name]
      match folder.document? way with
      | some document => .ok (.file document)
      | none => if folder.reaches way then .ok (.below way) else .error .missing
  | .rooted way =>
      if way = [] ∧ rootFolders.contains name then .ok (.rooted [name])
      else if way = ["dev"] ∧ name = "null" then .ok (.file "")
      else .error .missing
  | .above => .error .missing
  | .file _ => .error .notFolder

def leave : Place → Except PathFault Place
  | .below way => .ok (if way = [] then .above else .below way.dropLast)
  | .rooted way => .ok (.rooted way.dropLast)
  | .above => .ok .above
  | .file _ => .error .notFolder

def stay : Place → Except PathFault Place
  | .file _ => .error .notFolder
  | place => .ok place

def longestName : Nat := 255

def longestPath : Nat := 4095

def step (folder : Folder) (place : Place) (name : String) : Except PathFault Place :=
  if name = "" ∨ name = "." then stay place
  else if name = ".." then leave place
  else
    match folder.enter place name with
    | .error .missing =>
        .error (if longestName < name.utf8ByteSize then .longName else .missing)
    | entered => entered

def walk (folder : Folder) (path : String) : Except PathFault Place :=
  if path.toList.contains '\x00' then .error .nulCharacter
  else if path.isEmpty then .error .missing
  else if longestPath < path.utf8ByteSize then .error .longName
  else
    let start := if path.toList.head? = some '/' then .rooted [] else .below []
    (names path).foldlM (step folder) start

def read (folder : Folder) (path : String) : Settings.FileContent :=
  match folder.walk path with
  | .ok (.file document) => .content document
  | .ok _ => .failed PathFault.isFolder.text
  | .error fault => .failed fault.text

end Folder

end Foreman
