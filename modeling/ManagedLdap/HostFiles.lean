/-
# ManagedLdap.HostFiles -- the files of a host and the ways to them

Configurations name certificate files, and local sockets are places in the same tree.
`HostFiles` is what a program can tell of it.  A host whose files are those of a tree, and that
has no certificates and no local sockets, is one of them (`HostFiles.ofTrees`): `FileTree.walk`
looks up a path component by component there, so a path fails where its first missing or
unsuitable component is, whatever comes after it.
-/
import ManagedLdap.Text.Octets
import ManagedLdap.Text.Split

namespace ManagedLdap

set_option autoImplicit false

/-- The files of the host, and what is wrong with a certificate or an identity read from
them. -/
structure HostFiles where
  /-- The octets of a file, or why it cannot be read. -/
  read : String → Except String Octets
  certificateFault : Octets → Option String
  identityFault : Octets → Octets → Option String
  /-- Why connecting to a local socket fails: no server listens on one. -/
  socketFault : String → String

/-- Why a path cannot be read. -/
inductive PathFault where
  | nul
  | tooLong
  | absent
  | notDirectory
  | directory
  deriving DecidableEq, Repr

/-- The wording of a fault. -/
def PathFault.message : PathFault → String
  | .nul => "file name contained an unexpected NUL byte"
  | .tooLong => "File name too long (os error 36)"
  | .absent => "No such file or directory (os error 2)"
  | .notDirectory => "Not a directory (os error 20)"
  | .directory => "Is a directory (os error 21)"

/-- The directories and files of a tree, each by its components, the innermost first. -/
structure FileTree where
  directories : List (List String)
  files : List (List String)

namespace FileTree

/-- The place a path leads to from the place `here`.  Every component has to be looked up
in a directory that is there, also one that the next component leaves again. -/
def walk (tree : FileTree) : List String → List String → Except PathFault (List String)
  | here, [] => .ok here
  | here, part :: rest =>
      if !tree.directories.contains here then .error .notDirectory
      else if part = "" ∨ part = "." then walk tree here rest
      else if part = ".." then walk tree (here.drop 1) rest
      else if part.utf8ByteSize > 255 then .error .tooLong
      else if tree.directories.contains (part :: here) || tree.files.contains (part :: here)
      then walk tree (part :: here) rest
      else .error .absent

/-- The directories and files that a host usually has. -/
def common : FileTree where
  directories := [[], ["bin"], ["boot"], ["dev"], ["etc"], ["home"], ["lib"], ["lib64"],
    ["media"], ["mnt"], ["opt"], ["proc"], ["root"], ["run"], ["sbin"], ["srv"], ["sys"],
    ["tmp"], ["usr"], ["var"], ["pts", "dev"], ["shm", "dev"], ["ssl", "etc"],
    ["certs", "ssl", "etc"], ["self", "proc"], ["bin", "usr"], ["include", "usr"],
    ["lib", "usr"], ["local", "usr"], ["bin", "local", "usr"], ["lib", "local", "usr"],
    ["sbin", "usr"], ["share", "usr"], ["src", "usr"], ["cache", "var"], ["lib", "var"],
    ["log", "var"], ["tmp", "var"]]
  files := [["full", "dev"], ["null", "dev"], ["random", "dev"], ["tty", "dev"],
    ["urandom", "dev"], ["zero", "dev"], ["group", "etc"], ["hostname", "etc"],
    ["hosts", "etc"], ["passwd", "etc"], ["resolv.conf", "etc"], ["sh", "bin"],
    ["env", "bin", "usr"], ["sh", "bin", "usr"]]

/-- A directory without entries, such as one in which a program is started. -/
def bare : FileTree where
  directories := [[]]
  files := []

/-- Whether a path that leads somewhere leads to a directory: an absolute path in the tree of
the host, any other one in the tree below the working directory. -/
def leadsToDirectory (root working : FileTree) (path : String) : Except PathFault Bool := do
  if path.isEmpty then throw .absent
  if path.utf8ByteSize ≥ 4096 then throw .tooLong
  let tree := if path.startsWith "/" then root else working
  let place ← tree.walk [] ((Text.splitOn '/' path.toList).map String.ofList)
  return tree.directories.contains place

end FileTree

namespace HostFiles

/-- What a path of a host with these trees holds; a file there has no octets that matter to
anyone. -/
def readIn (root working : FileTree) (path : String) : Except PathFault Octets := do
  if path.toList.contains (Char.ofNat 0) then throw .nul
  let isDirectory ← FileTree.leadsToDirectory root working path
  if isDirectory then throw .directory
  return []

/-- Why a local socket of a host with these trees cannot be connected to.  A path that starts
with NUL is the name of a socket outside the trees. -/
def socketFaultIn (root working : FileTree) (path : String) : String :=
  if path.toList.head? = some (Char.ofNat 0) then
    if path.utf8ByteSize > 108 then "abstract socket name must be shorter than SUN_LEN"
    else "Connection refused (os error 111)"
  else if path.toList.contains (Char.ofNat 0) then "paths must not contain interior null bytes"
  else if path.utf8ByteSize ≥ 108 then "path must be shorter than SUN_LEN"
  else
    match FileTree.leadsToDirectory root working path with
    | .ok _ => "Connection refused (os error 111)"
    | .error fault => fault.message

/-- A host that has the directories and files of its trees, and no certificates. -/
def ofTrees (root working : FileTree) : HostFiles where
  read path := (readIn root working path).mapError PathFault.message
  certificateFault _ := none
  identityFault _ _ := none
  socketFault := socketFaultIn root working

/-- A host with the usual tree, and a program that was started in an empty directory of it. -/
def bare : HostFiles := ofTrees .common .bare

end HostFiles

end ManagedLdap
