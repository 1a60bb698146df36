import BoardBind.Script.Options

/-! # Files as programs open them

How programs and redirections reach the files of a disk: a file is opened for writing where one is
or can be made, and directories are listed in order.
-/

namespace BoardBind.Script

/-- The place where a new file is made that names lead to from a directory: a link without anything
behind it leads on. -/
def newPlace (disk : Disk) : Nat → Place → List String → Except OsError Place
  | links, here, names =>
    match names.getLast? with
    | none => .error .isDirectory
    | some name => do
      let parent ← disk.followToDirectory here names.dropLast
      if name = ".." then .error .isDirectory
      match ← disk.lookUp parent name, links with
      | some (.link _), 0 => .error .tooManyLevels
      | some (.link target), links + 1 =>
        let (start, more) := disk.linkOrigin parent ⟨target⟩
        newPlace disk links start more
      | _, _ => .ok (parent ++ [name])

/-- The place where a file is opened for writing: that of an existing file, or a new one in an
existing directory. -/
def openedPlace (disk : Disk) (path : Path) : Except OsError Place := do
  match ← disk.lastStep path with
  | (_, none) => .error .isDirectory
  | (parent, some name) =>
    if Disk.wantsDirectory path then .error .isDirectory
    else
      match disk.find path with
      | .ok (place, .file ..) => .ok place
      | .ok _ => .error .isDirectory
      | .error .noEntry => newPlace disk Disk.linkLimit parent [name]
      | .error reason => .error reason

def entryPlace (disk : Disk) (path : Path) : Except OsError Place := do
  match ← disk.lastStep path with
  | (parent, some name) =>
    let _ ← disk.lookUp parent name
    .ok (parent ++ [name])
  | (_, none) => .error .alreadyExists

/-- The place of a new entry at a path where nothing is. A path that ends in a slash is that of no
new entry. -/
def freshPlace (disk : Disk) (path : Path) : Except OsError Place := do
  match ← disk.lastStep path with
  | (_, none) => .error .alreadyExists
  | (parent, some name) =>
    match ← disk.lookUp parent name with
    | some _ => .error .alreadyExists
    | none => if Disk.wantsDirectory path then .error .noEntry else .ok (parent ++ [name])

/-- Puts bytes into the file at a place, behind what it holds or instead of it. What is the same on
every disk stays so. -/
def writeAt (making : Making) (disk : Disk) (place : Place) (appends : Bool)
    (bytes : List UInt8) : Disk :=
  if (disk.machine.fixture? place).isSome then disk
  else
    match disk.at? place with
    | some (.file old _) =>
      disk.overwritten making place (if appends then old ++ bytes else bytes)
    | _ => disk.made making place (.file bytes false) 0o666

def directoryPath (disk : Disk) (directory : Path) : List Char :=
  match disk.find (directory.join ⟨"."⟩) with
  | .ok (place, _) => ofString (disk.machine.fullText place)
  | .error _ => ofString directory.text

def namesAt (disk : Disk) (place : Place) : List (List Char) :=
  (disk.nodes.filterMap fun entry =>
    match entry.1.getLast? with
    | some name => if entry.1.dropLast = place then some (ofString name) else none
    | none => none).mergeSort fun a b => !decide (b < a)

def withoutSlashes (name : List Char) : List Char :=
  (name.reverse.dropWhile (· = '/')).reverse

def diskName (name : List Char) : String :=
  String.ofList (Text.ofUtf8Lossy (toBytes name))

def withoutTree (disk : Disk) (place : Place) : Disk :=
  { disk with
    nodes := disk.nodes.filter fun entry => !place.isPrefixOf entry.1
    stamps := disk.stamps.filter fun entry => !place.isPrefixOf entry.1 }

def isOccupied (disk : Disk) (place : Place) : Bool :=
  disk.nodes.any fun entry => place.isPrefixOf entry.1 && entry.1 ≠ place

/-- Moves what is at a place and below it to another place, over whatever was there. -/
def moveTree (disk : Disk) (source target : Place) : Disk :=
  let cleared := withoutTree disk target
  let renamed := fun place : Place =>
    if source.isPrefixOf place then target ++ place.drop source.length else place
  { disk with
    nodes := cleared.nodes.map fun entry => (renamed entry.1, entry.2)
    stamps := cleared.stamps.map fun entry => (renamed entry.1, entry.2) }

/-- Lets the file at a place be found at another place too. -/
def hardLink (disk : Disk) (source target : Place) : Disk :=
  match disk.at? source with
  | none => disk
  | some node =>
    let (disk, _) := disk.numbered source (disk.lastNumber + 1)
    let stamp := disk.stampAt source
    (disk.put target node).restamp target fun _ => stamp

def softLink (making : Making) (disk : Disk) (place : Place) (target : List Char) : Disk :=
  disk.made { making with mask := 0 } place (.link (diskName target)) 0o777

end BoardBind.Script
