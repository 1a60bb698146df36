/-! # Places on a disk

A place is a position on a disk, and a node is what may be found there. The working directory, what lies
above it and the root are always found. What else a machine has before any file is written, and where its
working directory is, differs from machine to machine.
-/

namespace BoardBind

/-- A file, a directory, or a link that leads on to the path it holds. -/
inductive Node where
  | file (bytes : List UInt8) (executable : Bool)
  | directory
  | link (target : String)
  deriving DecidableEq

/-- A position on a disk: the names that lead to it from the working directory. A place outside
of the working directory starts with the name of an anchor. -/
abbrev Place := List String

namespace Place

/-- The working directory. -/
def here : Place := []

/-- What lies above the working directory. -/
def outside : Place := [".."]

/-- The root, where absolute paths start. -/
def root : Place := ["/"]

/-- The path that leads to a place. -/
def text (place : Place) : String :=
  "/".intercalate place

def isInside (place : Place) : Bool :=
  place.head? ≠ outside.head? && place.head? ≠ root.head?

def up (place : Place) : Place :=
  if place = here then outside
  else if place = outside ∨ place = root then place
  else place.dropLast

end Place

/-- What a machine has that no program on it changes: the place of its working directory, and what the
system itself keeps outside of it. -/
structure Machine where
  /-- The names that lead from the root to the working directory. -/
  working : List String
  directories : List Place
  /-- The files that are no files of a disk: they are read and written in ways of their own. -/
  devices : List Place
  links : List (Place × String)
  /-- The programs, each a file that may be run. -/
  programs : List Place
  /-- Nothing of it lies in the working directory. -/
  apart : ∀ place ∈ directories ++ devices ++ links.map (·.1) ++ programs, place.isInside = false
  deriving DecidableEq

namespace Machine

variable (machine : Machine) (place : Place)

def isDevice : Bool :=
  machine.devices.contains place

def program? : Option String :=
  if place ∈ machine.programs then place.getLast? else none

/-- What is at a place whatever was written to the disk. -/
def fixture? : Option Node :=
  if place ∈ [Place.here, Place.outside, Place.root] ++ machine.directories then some .directory
  else if machine.isDevice place then some (.file [] false)
  else if let some target := machine.links.lookup place then some (.link target)
  else if place ∈ machine.programs then some (.file [] true)
  else none

/-- The path that leads from the root to a place. -/
def fullText : String :=
  let names := match place with
    | ".." :: rest => machine.working.dropLast ++ rest
    | "/" :: rest => rest
    | inside => machine.working ++ inside
  "/" ++ "/".intercalate names

def usualPrograms : List String :=
  ["[", "arch", "awk", "b2sum", "base32", "base64", "basename", "basenc", "bash", "cat", "chmod",
    "cksum", "cmp", "comm", "cp", "csplit", "cut", "dash", "date", "dd", "diff", "dir", "dirname",
    "echo", "egrep", "env", "expand", "expr", "factor", "false", "fgrep", "find", "fmt", "fold",
    "getopt", "grep", "groups", "head", "id", "install", "join", "link", "ln", "logname", "ls",
    "mawk", "md5sum", "mkdir", "mktemp", "mv", "nice", "nl", "nohup", "nproc", "numfmt", "od",
    "paste", "printenv", "printf", "pwd", "readlink", "realpath", "rev", "rm", "rmdir", "sed",
    "seq", "sha1sum", "sha224sum", "sha256sum", "sha384sum", "sha512sum", "shuf", "sleep", "sort",
    "split", "stat", "sum", "sync", "tac", "tail", "tee", "test", "timeout", "touch", "tr",
    "true", "truncate", "tsort", "tty", "uname", "unexpand", "uniq", "unlink", "users", "vdir",
    "wc", "which", "whoami", "xargs", "yes"]

/-- A machine with a usual system and its working directory among the temporary files. -/
def usual : Machine where
  working := ["tmp", "workspace-012345678"]
  directories :=
    (["boot", "dev", "etc", "home", "media", "mnt", "opt", "proc", "root", "run", "srv", "sys",
      "tmp", "usr", "var"].map fun name => ["/", name]) ++
    (["bin", "games", "include", "lib", "local", "sbin", "share", "src"].map fun name =>
      ["/", "usr", name]) ++
    [["/", "usr", "local", "bin"], ["/", "usr", "local", "sbin"], ["/", "var", "tmp"]]
  devices := ["null", "stdin", "zero", "random", "urandom", "full", "stdout", "stderr"].map fun name =>
    ["/", "dev", name]
  links :=
    [(["/", "bin"], "usr/bin"), (["/", "lib"], "usr/lib"), (["/", "sbin"], "usr/sbin"),
      (["/", "usr", "bin", "sh"], "dash")]
  programs := usualPrograms.map fun name => ["/", "usr", "bin", name]
  apart := by decide +kernel

end Machine

end BoardBind
