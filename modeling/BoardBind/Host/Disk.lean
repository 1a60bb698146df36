import BoardBind.Host.Path
import BoardBind.Host.Place

/-! # A disk as a value

Files are read from and written to a disk, which holds files and directories at places. A relative
path starts at the working directory, an absolute one at the root. Paths are followed one name at
a time, so every name but the last must lead to a directory; a link on the way is replaced by the
path it holds. Names and paths have a greatest length, and none holds the character that ends texts
for the system.
-/

namespace BoardBind

/-- Why the system refused an operation. -/
inductive OsError where
  | noEntry
  | badExecutable
  | denied
  | busy
  | alreadyExists
  | notDirectory
  | isDirectory
  | invalid
  | nameTooLong
  | notEmpty
  | tooManyLevels
  /-- A path holds a character that ends texts for the system. -/
  | nulInPath
  /-- What is handed to a program holds a character that ends texts for the system. -/
  | nulInData
  deriving DecidableEq

/-- The wording of each refusal by the system itself. -/
def OsError.reason : OsError → String
  | .noEntry => "No such file or directory"
  | .badExecutable => "Exec format error"
  | .denied => "Permission denied"
  | .busy => "Device or resource busy"
  | .alreadyExists => "File exists"
  | .notDirectory => "Not a directory"
  | .isDirectory => "Is a directory"
  | .invalid => "Invalid argument"
  | .notEmpty => "Directory not empty"
  | .nameTooLong => "File name too long"
  | .tooManyLevels => "Too many levels of symbolic links"
  | .nulInPath => "file name contained an unexpected NUL byte"
  | .nulInData => "nul byte found in provided data"

def OsError.number? : OsError → Option Nat
  | .noEntry => some 2
  | .badExecutable => some 8
  | .denied => some 13
  | .busy => some 16
  | .alreadyExists => some 17
  | .notDirectory => some 20
  | .isDirectory => some 21
  | .invalid => some 22
  | .nameTooLong => some 36
  | .notEmpty => some 39
  | .tooManyLevels => some 40
  | .nulInPath => none
  | .nulInData => none

def OsError.message (e : OsError) : String :=
  match e.number? with
  | some n => e.reason ++ " (os error " ++ toString n ++ ")"
  | none => e.reason

/-- What a disk knows about a file besides its contents, as far as it was ever set. -/
structure Stamp where
  /-- A number for a file that is found at several places, or that is in use. -/
  number : Option Nat := none
  /-- The last change in nanoseconds since the start of 1970. -/
  modified : Option Int := none
  /-- The bits that say who may do what. -/
  mode : Option Nat := none
  deriving DecidableEq

/-- The files and directories of a disk, each at its place, and what is known about some of them. -/
structure Disk where
  /-- The machine that the disk belongs to. -/
  machine : Machine := .usual
  nodes : List (Place × Node) := []
  stamps : List (Place × Stamp) := []
  deriving DecidableEq

namespace Disk

def empty : Disk := {}

def at? (disk : Disk) (place : Place) : Option Node :=
  (disk.machine.fixture? place).or (disk.nodes.lookup place)

/-- Puts a file or directory at a place, over whatever was there. -/
def put (disk : Disk) (place : Place) (node : Node) : Disk :=
  { disk with
    nodes := disk.nodes.filter (fun entry => entry.1 ≠ place) ++ [(place, node)]
    stamps := disk.stamps.filter fun entry => entry.1 ≠ place }

def remove (disk : Disk) (place : Place) : Disk :=
  { disk with
    nodes := disk.nodes.filter fun entry => entry.1 ≠ place
    stamps := disk.stamps.filter fun entry => entry.1 ≠ place }

def stampAt (disk : Disk) (place : Place) : Stamp :=
  (disk.stamps.lookup place).getD {}

/-- What a later disk holds that is not on this one, in the order in which it was put there. -/
def added (before after : Disk) : List (Place × Node) :=
  after.nodes.filter fun entry => before.at? entry.1 ≠ some entry.2

/-- The places that a later disk has lost. -/
def lost (before after : Disk) : List Place :=
  (before.nodes.map (·.1)).filter fun place => (after.at? place).isNone

def nameLimit : Nat := 255

def pathLimit : Nat := 4095

/-- What is wrong with a path before it is followed. -/
def pathFault? (path : Path) : Option OsError :=
  if path.text = "" then some .noEntry
  else if path.text.toList.contains '\x00' then some .nulInPath
  else if pathLimit < path.text.utf8ByteSize then some .nameTooLong
  else none

def lookUp (disk : Disk) (here : Place) (name : String) : Except OsError (Option Node) :=
  if nameLimit < name.utf8ByteSize then .error .nameTooLong else .ok (disk.at? (here ++ [name]))

/-- How far names lead without following a link. -/
inductive Trail where
  | arrived (place : Place)
  /-- There is a link on the way, and names are left behind it. -/
  | interrupted (directory : Place) (target : String) (rest : List String)
  deriving DecidableEq

/-- Follows names from a place up to the first link. -/
def descend (disk : Disk) : Place → List String → Except OsError Trail
  | here, [] => .ok (.arrived here)
  | here, name :: rest =>
    if name = ".." then descend disk here.up rest
    else
      match disk.lookUp here name with
      | .error reason => .error reason
      | .ok none => .error .noEntry
      | .ok (some .directory) => descend disk (here ++ [name]) rest
      | .ok (some (.file ..)) =>
        if rest = [] then .ok (.arrived (here ++ [name])) else .error .notDirectory
      | .ok (some (.link target)) => .ok (.interrupted here target rest)

/-- Whether the writing of a path asks for a directory: it ends in a slash or a dot. -/
def wantsDirectory (path : Path) : Bool :=
  path.segments.getLast?.any Path.isIdle

/-- Where a path with the given names starts, and the names that are left to follow. -/
def origin (disk : Disk) (path : Path) (names : List String) : Place × List String :=
  if !path.isAbsolute then (Place.here, names)
  else if disk.machine.working.isPrefixOf names then
    (Place.here, names.drop disk.machine.working.length)
  else (Place.root, names)

/-- Where a path in a link starts that stands in a directory, and the names to follow. -/
def linkOrigin (disk : Disk) (directory : Place) (target : Path) : Place × List String :=
  if target.isAbsolute then disk.origin target target.parts else (directory, target.parts)

/-- The greatest number of links on the way of a path. -/
def linkLimit : Nat := 40

/-- Follows names and links from a place; only so many links may be on the way. -/
def follow (disk : Disk) : Nat → Place → List String → Except OsError Place
  | links, here, names => do
    match ← disk.descend here names with
    | .arrived place => .ok place
    | .interrupted directory target rest =>
      match links with
      | 0 => .error .tooManyLevels
      | links + 1 =>
        let (start, more) := disk.linkOrigin directory ⟨target⟩
        follow disk links start (more ++ rest)

/-- Follows a path to what is there. -/
def find (disk : Disk) (path : Path) : Except OsError (Place × Node) :=
  match pathFault? path with
  | some reason => .error reason
  | none => do
    let (start, names) := disk.origin path path.parts
    let place ← disk.follow linkLimit start names
    match disk.at? place with
    | some .directory => .ok (place, .directory)
    | some (.file bytes executable) =>
      if wantsDirectory path then .error .notDirectory else .ok (place, .file bytes executable)
    | _ => .error .noEntry

def hasEntry (disk : Disk) (path : Path) : Bool :=
  (disk.find path).isOk

def hasFile (disk : Disk) (path : Path) : Bool :=
  match disk.find path with
  | .ok (_, .file ..) => true
  | _ => false

def hasDirectory (disk : Disk) (path : Path) : Bool :=
  match disk.find path with
  | .ok (_, .directory) => true
  | _ => false

def read (disk : Disk) (path : Path) : Except OsError (List UInt8) :=
  match disk.find path with
  | .ok (_, .file bytes _) => .ok bytes
  | .ok _ => .error .isDirectory
  | .error e => .error e

def leadsToFile (disk : Disk) (here : Place) (names : List String) : Bool :=
  match disk.follow linkLimit here names with
  | .ok place =>
    match disk.at? place with
    | some (.file ..) => true
    | _ => false
  | .error _ => false

/-- The names of the files in the directory at a place, in order. -/
def filesAt (disk : Disk) (place : Place) : List String :=
  (disk.nodes.filterMap fun entry =>
    match entry.1.getLast? with
    | some name =>
      if entry.1.dropLast = place && disk.leadsToFile place [name] then some name else none
    | none => none).mergeSort fun a b => !decide (b < a)

/-- The names of the files in a directory, in order. -/
def listFiles (disk : Disk) (path : Path) : Except OsError (List String) :=
  match disk.find path with
  | .ok (place, .directory) => .ok (disk.filesAt place)
  | .ok _ => .error .notDirectory
  | .error e => .error e

def followToDirectory (disk : Disk) (here : Place) (names : List String) :
    Except OsError Place := do
  let place ← disk.follow linkLimit here names
  if disk.at? place = some .directory then .ok place else .error .notDirectory

/-- The directory in which the last step of a path is taken, and the name of that step unless it
stays there, leads upwards or leads to the working directory. -/
def lastStep (disk : Disk) (path : Path) : Except OsError (Place × Option String) := do
  if let some reason := pathFault? path then .error reason
  if disk.origin path path.parts = (Place.here, []) then return (Place.here, none)
  let steps := path.segments.filter (· ≠ "")
  let (start, names) := disk.origin path (steps.dropLast.filter (· ≠ "."))
  let parent ← disk.followToDirectory start names
  return (parent, steps.getLast?.filter fun name => name ≠ "." && name ≠ "..")

/-- What a path leads to without following a link at its end. -/
def entry (disk : Disk) (path : Path) : Except OsError (Place × Node) := do
  match ← disk.lastStep path with
  | (_, none) => disk.find path
  | (parent, some name) =>
    if wantsDirectory path then disk.find path
    else
      match ← disk.lookUp parent name with
      | some node => .ok (parent ++ [name], node)
      | none => .error .noEntry

def isExecutableAt (disk : Disk) (place : Place) : Bool :=
  match disk.at? place with
  | some (.file _ executable) => executable
  | _ => false

/-- The path of the directory that a file is written to. -/
def directoryOf (path : Path) : Path :=
  match path.parent? with
  | none => ⟨"."⟩
  | some above => if above.text = "" then ⟨"."⟩ else above

/-- The name of a draft, which takes the place of a file once it is complete. -/
def draftName : Path := ⟨".tmp012345"⟩

/-- The number of bytes in the whole path of a draft in a directory. -/
def draftSize (disk : Disk) (directory : Path) : Nat :=
  (directory.join draftName).text.utf8ByteSize +
    (if directory.isAbsolute then 0 else (disk.machine.fullText Place.here).utf8ByteSize + 1)

/-- The place that a complete new file for a path takes in an existing directory. A directory is
never replaced by a file. -/
def destination (disk : Disk) (path : Path) : Except OsError Place := do
  let directory := directoryOf path
  if pathLimit < disk.draftSize directory && pathFault? directory ≠ some .nulInPath then
    .error .nameTooLong
  let (_, node) ← disk.find directory
  if node ≠ .directory then .error .notDirectory
  if path.text.toList.contains '\x00' then .error .invalid
  match ← disk.lastStep path with
  | (_, none) =>
    .error (if path.fileName?.isSome && !wantsDirectory path then .isDirectory else .busy)
  | (parent, some name) =>
    let old ← disk.lookUp parent name
    if wantsDirectory path then .error .notDirectory
    else if old = some .directory then .error .isDirectory
    else .ok (parent ++ [name])

/-- Writes a complete file in one step, or nothing at all. A file that is replaced keeps its
right to be run. -/
def replace (disk : Disk) (path : Path) (bytes : List UInt8) : Except OsError Disk :=
  (disk.destination path).map fun place => disk.put place (.file bytes (disk.isExecutableAt place))

def makeDirectory (disk : Disk) (path : Path) : Except OsError Disk := do
  match ← disk.lastStep path with
  | (_, none) => .error .alreadyExists
  | (parent, some name) =>
    match ← disk.lookUp parent name with
    | some _ => .error .alreadyExists
    | none => .ok (disk.put (parent ++ [name]) .directory)

/-- Makes a directory unless there is one already. -/
def ensureDirectory (disk : Disk) (path : Path) : Disk × Option OsError :=
  match disk.makeDirectory path with
  | .ok made => (made, none)
  | .error reason =>
    (disk, if reason = .alreadyExists && disk.hasDirectory path then none else some reason)

/-- Makes the first of the given directories; if there is nothing to make it in, then the others
come first. Returns the disk afterwards, also on failure. -/
def ensureAll (disk : Disk) : List Path → Disk × Option OsError
  | [] => (disk, none)
  | path :: above =>
    match disk.ensureDirectory path with
    | (_, some .noEntry) =>
      match disk.ensureAll above with
      | (made, none) => made.ensureDirectory path
      | (made, some reason) => (made, some reason)
    | outcome => outcome

/-- Makes a directory and those above it, as far as they are missing. Returns the disk
afterwards, also on failure. -/
def createDirectories (disk : Disk) (path : Path) : Disk × Option OsError :=
  disk.ensureAll path.ancestors

end Disk

end BoardBind
