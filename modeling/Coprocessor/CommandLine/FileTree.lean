import Coprocessor.Bytes
import Coprocessor.SystemError
import Coprocessor.Text.Lines

/-!
# Trees of files

Files lie in directories, which lie in others up to the root. A path leads from the
root, if it begins with a slash, or else from the directory that is worked in; it
names one directory after the other and the file at last. `FileTree.read` follows it.
-/

namespace Coprocessor.CommandLine

/-- What a path leads to. -/
inductive Entry where
  /-- A file. -/
  | file (content : Bytes)
  /-- A directory. -/
  | directory
  deriving DecidableEq, Repr

/-- A tree of files. Each name is the list of names on the way from the root. -/
structure FileTree where
  /-- What has a name. A directory that something lies in is there without being named. -/
  entries : List (List String × Entry)
  /-- The directory that is worked in. -/
  workplace : List String
  deriving Repr

namespace FileTree

/-! ## Limits -/

/-- The greatest number of bytes of a name. -/
def maxName : Nat := 255

/-- The greatest number of bytes of a path. -/
def maxPath : Nat := 4095

/-! ## Following paths -/

/-- The names in a path. -/
def names (path : String) : List String :=
  (Text.cutAt '/' path.toList).map String.ofList

/-- What has a name. -/
def entry? (t : FileTree) (name : List String) : Option Entry :=
  (t.entries.lookup name).or <|
    if name.isPrefixOf t.workplace || t.entries.any (name.isPrefixOf ·.1) then some .directory
    else none

/-- Goes from a place to a name in it. -/
def step (t : FileTree) (place : List String) (name : String) : Except SystemError (List String) :=
  match t.entry? place with
  | none => .error .notFound
  | some (.file _) => .error .notDirectory
  | some .directory =>
    if name = "" || name = "." then .ok place
    else if name = ".." then .ok place.dropLast
    else if maxName < name.utf8ByteSize then .error .nameTooLong
    else .ok (place ++ [name])

/-- The content of the file that a path leads to. -/
def read (t : FileTree) (path : String) : Except SystemError Bytes := do
  if path.isEmpty then .error .notFound
  if maxPath < path.utf8ByteSize then .error .nameTooLong
  let start := if path.toList.head? == some '/' then [] else t.workplace
  match t.entry? (← (names path).foldlM t.step start) with
  | some (.file content) => return content
  | some .directory => .error .isDirectory
  | none => .error .notFound

/-! ## Usual trees -/

/-- What lies in the root of most systems, and the file that is always empty. -/
def usual : List (List String × Entry) :=
  (["dev", "null"], .file []) ::
    ["bin", "boot", "etc", "home", "lib", "media", "mnt", "opt", "proc", "root", "run", "sbin",
      "srv", "sys", "tmp", "usr", "var"].map fun name => ([name], .directory)

/-- The usual tree, with files in the directory that is worked in. -/
def ofFiles (files : List (String × Bytes)) : FileTree :=
  let workplace := ["tmp", "work"]
  { entries := files.map (fun f => (workplace ++ names f.1, .file f.2)) ++ usual, workplace }

end FileTree

end Coprocessor.CommandLine
