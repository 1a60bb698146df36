import BoardBind.Script.Run
import BoardBind.Tool.Launch

/-! # Launching scripts

The programs of a disk are scripts, and those of the system. They are launched without input; what
they print until they end is collected, and what they complain about is not. This is one way to launch
programs among all that a command may be given.
-/

namespace BoardBind.Script

/-- The microseconds that pass before a program has started. -/
def launchCost : Nat := 1000

def givenVariables : List (List Char × List Char) :=
  [("PATH".toList, standardPath), ("HOME".toList, "/root".toList)]

/-- The state that a program is launched in. Its output is collected in the only sink. -/
def launchState (disk : Disk) (milliseconds : Nat) : State where
  world := { disk, sinks := #[{}], now := launchCost, limit := 1000 * milliseconds }
  shell :=
    { process := 1, title := []
      assigned := givenVariables, exported := givenVariables.map (·.1)
      descriptors := [(0, .nothing), (1, .sink 0), (2, .nothing)] }

def launch : Launcher := fun disk path arguments milliseconds =>
  if (path.text :: arguments).any fun text => text.toList.contains '\x00' then .refused .nulInData
  else
    match startByName disk ⟨""⟩ standardPath (ofString path.text) (arguments.map ofString) with
    | .error .noEntry => .notFound
    | .error reason => .refused reason
    | .ok started =>
      let (world, ending) := runStarted (run depthLimit) started (launchState disk milliseconds)
      if world.limit < world.now then .expired world.disk
      else
        let pieces := (world.collected 0).filter (·.1 ≤ world.now)
        let output := toBytes (pieces.flatMap (·.2))
        match ending with
        | .status code => .finished (some code) output world.disk
        | .signal _ => .finished none output world.disk
        | .blocked => .expired world.disk

end BoardBind.Script
