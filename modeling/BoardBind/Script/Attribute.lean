import BoardBind.Host.Disk

/-! # What is known about files besides their contents

Every file has a mode, which says who may do what with it, and the time of its last change. A file
may be found at several places; what is written at one of them is then read at all. Only what
differs from the usual is kept on the disk.
-/

namespace BoardBind

/-- How files are made: the time, and the bits of the mode that are not given to new ones. -/
structure Making where
  /-- Nanoseconds since the start of 1970. -/
  moment : Int
  mask : Nat := 0o022
  deriving DecidableEq

namespace Disk

/-- When files were made that nobody has changed since. -/
def bornMoment : Int := 1782864000000000000

def modeAt (disk : Disk) (place : Place) : Nat :=
  match (disk.stampAt place).mode, disk.at? place with
  | some mode, _ => mode
  | none, some .directory => if place = ["/", "tmp"] then 0o1777 else 0o755
  | none, some (.link _) => 0o777
  | none, some (.file _ executable) =>
    if disk.machine.isDevice place then 0o666 else if executable then 0o755 else 0o644
  | none, none => 0

/-- The time of the last change of what is at a place. -/
def modifiedAt (disk : Disk) (place : Place) : Int :=
  (disk.stampAt place).modified.getD bornMoment

def restamp (disk : Disk) (place : Place) (change : Stamp → Stamp) : Disk :=
  { disk with
    stamps := (place, change (disk.stampAt place)) ::
      disk.stamps.filter fun entry => entry.1 ≠ place }

def placesOf (disk : Disk) (number : Nat) : List Place :=
  (disk.stamps.filter fun entry => entry.2.number = some number).map (·.1)

def twins (disk : Disk) (place : Place) : List Place :=
  match (disk.stampAt place).number with
  | none => [place]
  | some number => disk.placesOf number

def isSame (disk : Disk) (a b : Place) : Bool :=
  a = b || (disk.twins a).contains b

def lastNumber (disk : Disk) : Nat :=
  disk.stamps.foldl (fun n entry => max n (entry.2.number.getD 0)) 0

def numbered (disk : Disk) (place : Place) (fresh : Nat) : Disk × Nat :=
  match (disk.stampAt place).number with
  | some number => (disk, number)
  | none => (disk.restamp place fun stamp => { stamp with number := some fresh }, fresh)

/-- Changes the file at a place wherever it is found. -/
def updated (disk : Disk) (place : Place) (change : Node → Node) (restamped : Stamp → Stamp) :
    Disk :=
  let places := disk.twins place
  let nodes := disk.nodes.map fun entry =>
    if places.contains entry.1 then (entry.1, change entry.2) else entry
  places.foldl (fun disk place => disk.restamp place restamped) { disk with nodes }

/-- Replaces the bytes of the file at a place, wherever it is found. -/
def overwritten (making : Making) (disk : Disk) (place : Place) (bytes : List UInt8) : Disk :=
  disk.updated place
    (fun
      | .file _ executable => .file bytes executable
      | other => other)
    fun stamp => { stamp with modified := some making.moment }

/-- Sets the mode of what is at a place, wherever it is found. -/
def withMode (disk : Disk) (place : Place) (mode : Nat) : Disk :=
  disk.updated place
    (fun
      | .file bytes _ => .file bytes (mode &&& 0o111 ≠ 0)
      | other => other)
    fun stamp => { stamp with mode := some mode }

/-- Sets the time of the last change of what is at a place, wherever it is found. -/
def withModified (disk : Disk) (place : Place) (moment : Int) : Disk :=
  disk.updated place (fun node => node) fun stamp => { stamp with modified := some moment }

/-- Puts something new at a place, with the bits of a mode that are not taken away. -/
def made (making : Making) (disk : Disk) (place : Place) (node : Node) (mode : Nat) : Disk :=
  let mode := mode &&& (0o7777 ^^^ making.mask)
  let node := match node with
    | .file bytes _ => .file bytes (mode &&& 0o111 ≠ 0)
    | other => other
  (disk.put place node).restamp place fun _ =>
    { modified := some making.moment, mode := some mode }

end Disk

end BoardBind
