import PendingCalls.Config

-- A small model of a file tree: which paths name directories and which files
-- have a content. It answers what reading a path gives.

namespace PendingCalls

structure FileTree where
  directories : List (List String)
  files : List (List String × List UInt8)

namespace FileTree

def names (path : String) : List String := (path.splitOn "/").filter (· ≠ "")

-- How many bytes a name, and a path with its end mark, may have.
def longestName : Nat := 255

def longestPath : Nat := 4096

-- Follows the names from a directory. Every name but the last has to be a
-- directory, one dot stays where it is, and the parent of the top is the top.
def walk (t : FileTree) (place : List String) : List String → Except FileFault (List String)
  | [] => .ok place
  | n :: rest =>
      if n = "." then walk t place rest
      else if n = ".." then walk t place.dropLast rest
      else
        let next := place ++ [n]
        if longestName < n.utf8ByteSize then .error .nameTooLong
        else if t.directories.contains next then walk t next rest
        else if (t.files.lookup next).isSome then
          if rest.isEmpty then .ok next else .error .notDirectory
        else .error .notFound

-- The bytes under a path. A relative path starts in a directory of its own that
-- holds nothing the tree knows.
def read (t : FileTree) (path : String) : Except FileFault (List UInt8) :=
  if path.toList.contains '\x00' then .error .nameWithNul
  else if path.isEmpty then .error .notFound
  else if longestPath ≤ path.utf8ByteSize then .error .nameTooLong
  else
    let start := if path.startsWith "/" then [] else ["workplace"]
    match t.walk start (names path) with
    | .error fault => .error fault
    | .ok place =>
        match t.files.lookup place with
        | some content => if path.endsWith "/" then .error .notDirectory else .ok content
        | none => .error .isDirectory

-- The directories that every host has, and the file that is always empty.
def standard : FileTree :=
  { directories := [["bin"], ["dev"], ["etc"], ["home"], ["lib"], ["opt"], ["proc"], ["root"], ["sbin"],
      ["sys"], ["tmp"], ["usr"], ["usr", "bin"], ["usr", "lib"], ["usr", "local"], ["var"],
      ["var", "tmp"], ["workplace"]]
    files := [(["dev", "null"], [])] }

end FileTree

end PendingCalls
