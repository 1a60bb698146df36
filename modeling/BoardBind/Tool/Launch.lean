import BoardBind.Host.Disk

/-! # Launching programs

A program on a disk is launched with arguments, without input, and its output is collected. It may
change the disk, and it is stopped when its time is up.
-/

namespace BoardBind

/-- What comes of launching a program. -/
inductive Launch where
  /-- There is no such program, or none to interpret it. -/
  | notFound
  /-- The system refused to start it. -/
  | refused (reason : OsError)
  /-- It ended with an exit code, or without one if it was killed. -/
  | finished (code : Option Nat) (output : List UInt8) (disk : Disk)
  /-- It was stopped because its time was up. -/
  | expired (disk : Disk)
  deriving DecidableEq

/-- The disk after a launch that started from the given disk. -/
def Launch.diskFrom (disk : Disk) : Launch → Disk
  | .finished _ _ after => after
  | .expired after => after
  | _ => disk

/-- How programs are launched: a disk, the path of the program, its arguments and its time in
milliseconds. -/
abbrev Launcher := Disk → Path → List String → Nat → Launch

end BoardBind
