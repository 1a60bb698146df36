import BoardBind.Script.FileTool

/-! # How files are listed

What the options of a listing ask for: how names are laid out, ordered and written, which of them
are shown, and what is told besides.
-/

namespace BoardBind.Script

/-- How names are laid out. -/
inductive ListFormat where
  | lines
  | long
  | commas
  | columns
  | rows
  deriving DecidableEq

/-- What names are ordered by. -/
inductive ListKey where
  | name
  | nothing
  | time
  | size
  | extension
  | version
  | width
  deriving DecidableEq

/-- Which signs behind names show the kinds of files. -/
inductive KindSigns where
  | never
  /-- Only those of directories. -/
  | slash
  /-- All but those of programs. -/
  | kinds
  | all
  deriving DecidableEq

/-- How names are written. -/
inductive NameStyle where
  | literal
  /-- In quotes where a shell needs them, or always. -/
  | shell (always : Bool)
  /-- The same, with escapes for what cannot be printed. -/
  | shellEscape (always : Bool)
  /-- In double quotes with escapes, or only where there are escapes. -/
  | text (always : Bool)
  /-- With escapes and no quotes. -/
  | escape
  /-- In single quotes with escapes. -/
  | marks

/-- Which names are left out. -/
inductive HiddenNames where
  /-- Those that start with a dot. -/
  | dotted
  /-- Those of the directory itself and of the one above. -/
  | dots
  | none
  deriving DecidableEq

/-- How sizes are written. -/
inductive SizeStyle where
  | plain
  /-- With the letter of a unit that is a power of a number. -/
  | human (base : Nat)
  /-- In units of a size, with a text behind them. -/
  | units (size : Nat) (suffix : List Char)

/-- How times are written. -/
inductive TimeStyle where
  /-- As the format says, and another one for times that are not recent. -/
  | formats (recent old : List Char)

inductive LinkStyle where
  | never
  /-- Operands that lead to directories are followed. -/
  | directories
  /-- All operands are followed. -/
  | operands
  | always
  deriving DecidableEq

/-- How files are listed. -/
structure ListStyle where
  format : Option ListFormat := none
  key : Option ListKey := none
  hasOtherTime : Bool := false
  signs : KindSigns := .never
  names : NameStyle := .literal
  /-- Whether what cannot be printed is shown as a question mark. -/
  masksChars : Bool := false
  hidden : HiddenNames := .dotted
  /-- Patterns of names that are left out. -/
  ignored : List (List Char) := []
  /-- Patterns of names that are left out unless all are shown. -/
  unshown : List (List Char) := []
  links : Option LinkStyle := none
  isReversed : Bool := false
  isDeep : Bool := false
  /-- Whether directories are shown themselves and not what is in them. -/
  isImmediate : Bool := false
  putsDirectoriesFirst : Bool := false
  hasInodes : Bool := false
  hasBlocks : Bool := false
  hasOwner : Bool := true
  hasGroup : Bool := true
  hasAuthor : Bool := false
  hasContext : Bool := false
  isNumeric : Bool := false
  sizes : SizeStyle := .plain
  blocks : Option SizeStyle := none
  times : TimeStyle := .formats "%b %e %H:%M".toList "%b %e  %Y".toList
  width : Option Nat := none
  tab : Option Nat := none
  ending : Char := '\n'

namespace ListStyle

def layout (t : ListStyle) : ListFormat := t.format.getD .lines

/-- What names are ordered by. A time that is asked for orders them if it is not shown. -/
def order (t : ListStyle) : ListKey :=
  t.key.getD (if t.hasOtherTime && t.layout ≠ .long then .time else .name)

def following (t : ListStyle) : LinkStyle :=
  t.links.getD
    (if t.isImmediate || t.signs = .all || t.layout = .long then .never else .directories)

/-- When something is done: always, never, or if somebody watches, which nobody does. -/
def whenChoices : List (List String × Bool) :=
  [(["always", "yes", "force"], true), (["never", "no", "none"], false),
    (["auto", "tty", "if-tty"], false)]

def timeFormats : List (String × String × String) :=
  [("full-iso", "%Y-%m-%d %H:%M:%S.%N %z", "%Y-%m-%d %H:%M:%S.%N %z"),
    ("long-iso", "%Y-%m-%d %H:%M", "%Y-%m-%d %H:%M"), ("iso", "%m-%d %H:%M", "%Y-%m-%d "),
    ("locale", "%b %e %H:%M", "%b %e  %Y")]

def timeStyle? (text : List Char) : Option TimeStyle :=
  match text with
  | '+' :: format =>
    let first := format.takeWhile (· ≠ '\n')
    let old := if first.length < format.length then first else format
    some (.formats (if first.length < format.length then format.drop (first.length + 1) else format)
      old)
  | text =>
    let posix := "posix-".toList
    let text := if posix.isPrefixOf text then text.drop posix.length else text
    let meant := timeFormats.filter fun f => text.isPrefixOf f.1.toList
    match timeFormats.find? (fun f => f.1.toList = text), meant with
    | some (_, recent, old), _ => some (.formats recent.toList old.toList)
    | none, [(_, recent, old)] => some (.formats recent.toList old.toList)
    | none, _ => none

def timeComplaint (text : List Char) : List Char :=
  "invalid argument ".toList ++ inMarks text ++
    (" for 'time style'\nValid arguments are:\n  - [posix-]full-iso\n  - [posix-]long-iso\n" ++
      "  - [posix-]iso\n  - [posix-]locale\n" ++
      "  - +FORMAT (e.g., +%H:%M) for a 'date'-style format").toList

def sizeStyle? (text : List Char) : Option SizeStyle :=
  let text := if text.head? = some '\'' then text.tail else text
  match String.ofList text with
  | "human-readable" => some (.human 1024)
  | "si" => some (.human 1000)
  | _ =>
    let digits := text.takeWhile Char.isDigit
    let unit := text.drop digits.length
    let number := if digits = [] then '1' :: unit else text
    (sizeWithUnit? number).bind fun n =>
      let shown := match unit with
        | [c, 'B'] => [if c = 'K' then 'k' else c, 'B']
        | unit => unit
      if n = 0 then none else some (.units n (if digits = [] then shown else []))

/-- A complaint, whether a hint follows it, and the status. -/
abbrev Fault := List Char × Bool × Nat

def chosen {α : Type} (result : Except (List Char) α) : Except Fault α :=
  result.mapError fun complaint => (complaint, true, 1)

/-- Sets a layout. One name a line is no change to a long listing. -/
def withFormat (t : ListStyle) (format : ListFormat) : ListStyle :=
  if format = .lines && t.format = some .long then t else { t with format := some format }

def withLetter (t : ListStyle) (flag : Char) : ListStyle :=
  match flag with
  | '1' => t.withFormat .lines
  | 'a' => { t with hidden := .none }
  | 'A' => { t with hidden := .dots }
  | 'b' => { t with names := .escape }
  | 'B' => { t with ignored := t.ignored ++ ["*~".toList, ".*~".toList] }
  | 'c' => { t with hasOtherTime := true }
  | 'C' => t.withFormat .columns
  | 'd' => { t with isImmediate := true }
  | 'f' =>
    { t with
      hidden := .none, key := some .nothing, hasBlocks := false
      format := if t.format = some .long then none else t.format }
  | 'g' => { t with hasOwner := false, format := some .long }
  | 'G' => { t with hasGroup := false }
  | 'h' => { t with sizes := .human 1024, blocks := some (.human 1024) }
  | '0' => { t with sizes := .human 1000, blocks := some (.human 1000) }
  | 'H' => { t with links := some .operands }
  | 'i' => { t with hasInodes := true }
  | 'l' => { t with format := some .long }
  | 'L' => { t with links := some .always }
  | 'm' => t.withFormat .commas
  | 'n' => { t with isNumeric := true, format := some .long }
  | 'N' => { t with names := .literal }
  | 'o' => { t with hasGroup := false, format := some .long }
  | 'p' => { t with signs := .slash }
  | '?' => { t with signs := .kinds }
  | 'q' => { t with masksChars := true }
  | 'Q' => { t with names := .text true }
  | 'r' => { t with isReversed := true }
  | 'R' => { t with isDeep := true }
  | 's' => { t with hasBlocks := true }
  | 'S' => { t with key := some .size }
  | 't' => { t with key := some .time }
  | 'u' => { t with hasOtherTime := true }
  | 'U' => { t with key := some .nothing }
  | 'v' => { t with key := some .version }
  | 'x' => t.withFormat .rows
  | 'X' => { t with key := some .extension }
  | 'Z' => { t with hasContext := true }
  | '^' => { t with putsDirectoriesFirst := true }
  | '~' => { t with hasAuthor := true }
  | '$' =>
    let full := "%Y-%m-%d %H:%M:%S.%N %z".toList
    { t with format := some .long, times := .formats full full }
  | '\x00' =>
    { t with
      ending := '\x00', names := .literal, masksChars := false
      format := if t.format = some .long then t.format else some .lines }
  | _ => t

/-- Sets the style that an option with a value asks for. -/
def tell (t : ListStyle) (flag : Char) (value : List Char) : Except Fault ListStyle :=
  match flag with
  | 'F' =>
    if value = [] then .ok { t with signs := .all }
    else (chosen (choiceOf "classify" whenChoices value)).map fun isOn =>
      if isOn then { t with signs := .all } else t
  | '%' =>
    if value = [] then .ok t
    else (chosen (choiceOf "color" whenChoices value)).map fun _ => t
  | '&' =>
    if value = [] then .ok t
    else (chosen (choiceOf "hyperlink" whenChoices value)).map fun _ => t
  | '!' =>
    (chosen (choiceOf "indicator-style" [(["none"], KindSigns.never), (["slash"], .slash),
      (["file-type"], .kinds), (["classify"], .all)] value)).map fun signs => { t with signs }
  | '|' =>
    (chosen (choiceOf "sort" [(["none"], ListKey.nothing), (["time"], .time), (["size"], .size),
      (["extension"], .extension), (["version"], .version), (["width"], .width)] value)).map
        fun key => { t with key := some key }
  | '=' =>
    (chosen (choiceOf "format" [(["verbose", "long"], ListFormat.long), (["commas"], .commas),
      (["horizontal", "across"], .rows), (["vertical"], .columns),
      (["single-column"], .lines)] value)).map fun format => { t with format := some format }
  | 'K' =>
    (chosen (choiceOf "time" [(["atime", "access", "use"], true), (["ctime", "status"], true),
      (["mtime", "modification"], true), (["birth", "creation"], true)] value)).map
        fun _ => { t with hasOtherTime := true }
  | '\'' =>
    (chosen (choiceOf "quoting-style" [(["literal"], NameStyle.literal), (["shell"], .shell false),
      (["shell-always"], .shell true), (["shell-escape"], .shellEscape false),
      (["shell-escape-always"], .shellEscape true), (["c"], .text true), (["c-maybe"], .text false),
      (["escape"], .escape), (["locale"], .marks), (["clocale"], .text true)] value)).map
        fun names => { t with names }
  | '+' =>
    match timeStyle? value with
    | some times => .ok { t with times }
    | none => .error (timeComplaint value, true, 2)
  | 'k' => .ok { t with blocks := some (.units 1024 []) }
  | 'E' =>
    match sizeStyle? value with
    | some style => .ok { t with sizes := style, blocks := some style }
    | none => .error ("invalid --block-size argument ".toList ++ inMarks value, false, 2)
  | 'w' =>
    match natural? value with
    | some n => .ok { t with width := some n }
    | none => .error ("invalid line width: ".toList ++ inMarks value, false, 2)
  | 'T' =>
    match natural? value with
    | some n => .ok { t with tab := some n }
    | none => .error ("invalid tab size: ".toList ++ inMarks value, false, 2)
  | 'I' => .ok { t with ignored := t.ignored ++ [value] }
  | '<' => .ok { t with unshown := t.unshown ++ [value] }
  | flag => .ok (t.withLetter flag)

def flags : Flags where
  plain := "1aAbBcCdDfgGhHiklLmnNopqQrRsStuUvxXZ?^$0\x00~"
  valued := "wTI+|='<KE!"
  optional := "%F&"
  words := [("all", 'a'), ("escape", 'b'), ("directory", 'd'), ("dired", 'D'),
    ("full-time", '$'), ("group-directories-first", '^'), ("human-readable", 'h'),
    ("inode", 'i'), ("kibibytes", 'k'), ("numeric-uid-gid", 'n'), ("no-group", 'G'),
    ("hide-control-chars", 'q'), ("reverse", 'r'), ("size", 's'), ("width", 'w'),
    ("almost-all", 'A'), ("ignore-backups", 'B'), ("classify", 'F'), ("file-type", '?'),
    ("si", '0'), ("dereference-command-line", 'H'), ("dereference", 'L'), ("ignore", 'I'),
    ("indicator-style", '!'), ("format", '='), ("literal", 'N'), ("quote-name", 'Q'),
    ("quoting-style", '\''), ("recursive", 'R'), ("sort", '|'), ("tabsize", 'T'), ("time", 'K'),
    ("time-style", '+'), ("zero", '\x00'), ("color", '%'), ("hyperlink", '&'),
    ("block-size", 'E'), ("context", 'Z'), ("author", '~'), ("hide", '<')]

def ofOptions (start : ListStyle) (o : Options) : Except Fault ListStyle :=
  o.flags.foldlM (fun (t : ListStyle) f => t.tell f.1 f.2) start

end ListStyle

end BoardBind.Script
