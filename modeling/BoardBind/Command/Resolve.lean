import BoardBind.Command.Failure
import BoardBind.Selection

/-! # From settings to a bound design

The sources of a directory are analysed, the top unit is selected, and its bits are bound: first
as the previous wrapper records it, then as the configuration says. A signal that the
configuration claims is taken from the bits that held it before.
-/

namespace BoardBind.Command

/-- The bindings of the previous wrapper, none if there is no such file. -/
def previousBindings (lang : Language) (disk : Disk) (path : Path) :
    Except SourceError (List Binding) :=
  if disk.hasEntry path then
    match disk.read path with
    | .ok bytes => .ok (readBindings lang (Text.ofBytes bytes))
    | .error reason => .error (.unreadable path reason)
  else .ok []

/-- The selection after the previous and the configured bindings were applied, with the number of
configured bindings admitted. -/
def bindAll (s : Selection) (board : Board) (previous configured : List Binding) :
    Nat × Selection :=
  let restored := (s.restore board previous).2
  (restored.release (configured.map (·.signal))).restore board configured

def selectTop (settings : Settings) (s : Selection) : Except Failure Selection :=
  match settings.top with
  | none => .ok s
  | some name =>
    match s.setTop name false with
    | (true, selected) => .ok selected
    | (false, _) => .error (.topNotFound settings.language name)

/-- What binding reports on the way. -/
def bindNotes (settings : Settings) (s : Selection) (previous : List Binding) : List Note :=
  let board := settings.board
  let configured := settings.bindings
  let count := (bindAll s board previous configured).1
  s.restoreNotes board previous ++
    [.debug ("restored " ++ toString (s.restore board previous).1 ++ " assignments from " ++
      settings.outputPath.quoted)] ++
    s.restoreNotes board configured ++
    if count < configured.length then
      [.warn (toString (configured.length - count) ++
        " configured assignments do not match a port of " ++ s.top ++ " and the board")]
    else []

def sourcesOf (host : Host) (settings : Settings) : Noted Failure (List Path) := do
  let sources ← (settings.sources host.disk).mapError (.sourcesUnreadable settings.directory)
  if sources = [] then Noted.fail (.noSources settings.language settings.directory)
  if settings.language = .verilog ∧ settings.tool = none then
    Noted.fail (.toolNotConfigured settings.language)
  Noted.say [.info ("analyzing " ++ toString sources.length ++ " " ++ settings.language.display ++
    " files")]
  return sources

/-- Selects the top unit of a design and binds its bits. -/
def bindDesign (settings : Settings) (disk : Disk) (design : Design) :
    Noted Failure Selection := do
  let s ← Noted.lift (selectTop settings (Selection.initial design))
  let previous ← Noted.lift
    ((previousBindings settings.language disk settings.outputPath).mapError
      fun e => Failure.analysis (.source e))
  Noted.say (bindNotes settings s previous)
  return (bindAll s settings.board previous settings.bindings).2

/-- Analyses the sources and binds the top unit's bits. Returns the disk afterwards, which the
tool may have changed. -/
def resolve (host : Host) (settings : Settings) : Disk × Noted Failure Selection :=
  let sources := sourcesOf host settings
  match sources.result with
  | .error failure => (host.disk, ⟨sources.notes, .error failure⟩)
  | .ok paths =>
    let (disk, design) := Design.read settings.language settings.tool host.launch host.disk paths
    (disk, do
      Noted.say sources.notes
      let design ← design.mapError Failure.analysis
      bindDesign settings disk design)

/-- The settings of a run, from its directory and its own choices. -/
def settingsFor (host : Host) (directory : Option Path) (language : Option Language)
    (top : Option String) : Noted Failure Settings := do
  let settings ← (host.settings.inDirectory host.disk directory).mapError Failure.config
  return (settings.withLanguage language).withTop top

/-- The settings of a run and its bound design, with the disk afterwards. -/
def prepare (host : Host) (directory : Option Path) (language : Option Language)
    (top : Option String) : Disk × Noted Failure (Settings × Selection) :=
  let settings := settingsFor host directory language top
  match settings.result with
  | .error failure => (host.disk, ⟨settings.notes, .error failure⟩)
  | .ok chosen =>
    let (disk, bound) := resolve host chosen
    (disk, do
      Noted.say settings.notes
      return (chosen, ← bound))

end BoardBind.Command
