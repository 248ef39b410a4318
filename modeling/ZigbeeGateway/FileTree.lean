/-!
# Folders and files

A folder is a list of named entries.  In a written path slashes stand between names.  A path is
followed name by name, and only a folder can be passed through: empty names and lone dots stay in it,
and two dots lead back to the folder around it.  So a path to a file may not end in a slash.
-/

namespace ZigbeeGateway

/-- A file or a folder of files. -/
inductive FileTree where
  | file (content : String)
  | folder (entries : List (String × FileTree))

namespace FileTree

/-- The names of a written path that lead further. -/
def names (path : String) : List String :=
  (path.splitOn "/").filter fun name => name ≠ "" && name ≠ "."

/-- The written path of an entry of a folder.  No slash is added behind one, or behind the empty
path. -/
def entryPath (folder name : String) : String :=
  if folder.toList.getLast?.all (· = '/') then folder ++ name else folder ++ "/" ++ name

/-- The entries of a folder; a file has none. -/
def entries : FileTree → List (String × FileTree)
  | .folder entries => entries
  | .file _ => []

/-- Follows names from a folder or file.  `around` holds the folders that it lies in, the innermost
first. -/
def follow (around : List FileTree) (here : FileTree) : List String → Option FileTree
  | [] => some here
  | name :: rest =>
    match here with
    | .file _ => none
    | .folder entries =>
      if name = "" ∨ name = "." then here.follow around rest
      else if name = ".." then
        match around with
        | [] => none
        | outer :: further => outer.follow further rest
      else (entries.lookup name).bind fun inner => inner.follow (here :: around) rest

/-- What is found at a written path below a folder.  A path that begins with a slash does not lead
below it. -/
def find? (tree : FileTree) (path : String) : Option FileTree :=
  if path.toList.head? = some '/' then none else tree.follow [] (path.splitOn "/")

/-- Puts a file at a path below a folder, making folders as needed. -/
def put (tree : FileTree) (content : String) : List String → FileTree
  | [] => .file content
  | name :: rest =>
    let inner := (tree.entries.lookup name).getD (.folder [])
    .folder (tree.entries.filter (·.1 ≠ name) ++ [(name, inner.put content rest)])

end FileTree

end ZigbeeGateway
