import RecordRules.Text.Split

/-!
# Files

The files that a command can read, by the paths it gives for them. A `FileTree` holds
files as a value, so that a command line can be followed without the system it runs
on; `FileTree.files` are those that a command finds when it runs in its working
directory, without any input.
-/

namespace RecordRules.CommandLine

/-- The contents of a file, if it can be read. -/
abbrev Files := String → Option String

def steps (path : String) : List String :=
  (Text.split '/' path.toList).map String.ofList

def isIdle (step : String) : Bool :=
  step = "" || step = "."

/-- Files by the steps that lead to them from the root, and all directories on their way. -/
structure FileTree where
  entries : List (List String × String)

namespace FileTree

/-- A directory for temporary files, under a name that no path can give. -/
def workingDirectory : List String := ["tmp", ""]

def rootDirectories : List String :=
  ["dev", "etc", "home", "opt", "proc", "run", "srv", "sys", "tmp", "usr", "var"]

/-- The files outside of the working directory; both read as empty. -/
def devices : List (List String × String) :=
  [(["dev", "null"], ""), (["dev", "stdin"], "")]

def ofFiles (files : List (String × String)) : FileTree where
  entries := devices ++ files.map fun (path, content) =>
    (workingDirectory ++ (steps path).filter (!isIdle ·), content)

def hasDirectory (tree : FileTree) (place : List String) : Bool :=
  place ∈ rootDirectories.map ([·]) || tree.entries.any (place.isPrefixOf ·.1)

/-- The file that steps lead to from a directory. Every step but the last has to end in
a directory; the root is its own parent. -/
def follow (tree : FileTree) (place : List String) : List String → Option String
  | [] => none
  | step :: rest =>
    if isIdle step then tree.follow place rest
    else if step = ".." then tree.follow place.dropLast rest
    else
      let place := place ++ [step]
      match tree.entries.lookup place with
      | some content => if rest.isEmpty then some content else none
      | none => if tree.hasDirectory place then tree.follow place rest else none

/-- The bytes that a path may not reach. -/
def pathLimit : Nat := 4096

def files (tree : FileTree) : Files := fun path =>
  if path.utf8ByteSize < pathLimit then
    match steps path with
    | "" :: rest => tree.follow [] rest
    | relative => tree.follow workingDirectory relative
  else
    none

end FileTree

end RecordRules.CommandLine
