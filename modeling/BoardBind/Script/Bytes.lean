import BoardBind.Script.Filter

/-! # Programs on bytes and their codes

The programs of the system that show the bytes of files and compare them one by one.

Bytes are written with characters of a small set, a group of bytes with a group of characters. A
last group that is not full may be filled up with equals signs.
-/

namespace BoardBind.Script

/-! ## Programs on bytes -/

/-- How `od` shows a group of bytes: its letter, the number of bytes, and whether characters follow
at the end of the line. -/
structure DumpType where
  letter : Char
  size : Nat := 1
  showsText : Bool := false

/-- The number that bytes are, the first one counting least. -/
def wordValue (bytes : List Char) : Nat :=
  bytes.foldr (fun c n => 256 * n + c.toNat) 0

def byteName (c : Char) : List Char :=
  let code := c.toNat % 128
  let names := ["nul", "soh", "stx", "etx", "eot", "enq", "ack", "bel", "bs", "ht", "nl", "vt",
    "ff", "cr", "so", "si", "dle", "dc1", "dc2", "dc3", "dc4", "nak", "syn", "etb", "can", "em",
    "sub", "esc", "fs", "gs", "rs", "us", "sp"]
  match names[code]? with
  | some name => name.toList
  | none => if code = 127 then "del".toList else [Char.ofNat code]

/-- A number in octal digits, with zeros in front up to a width. -/
def octal (width n : Nat) : List Char :=
  let digits := Nat.toDigits 8 n
  List.replicate (width - digits.length) '0' ++ digits

/-- A byte as a character, an escape or an octal number. -/
def byteSign (c : Char) : List Char :=
  match c with
  | '\x00' => "\\0".toList
  | '\x07' => "\\a".toList
  | '\x08' => "\\b".toList
  | '\x09' => "\\t".toList
  | '\x0a' => "\\n".toList
  | '\x0b' => "\\v".toList
  | '\x0c' => "\\f".toList
  | '\x0d' => "\\r".toList
  | c => if ' ' ≤ c && c ≤ '~' then [c] else octal 3 c.toNat

/-- The width of a group, without the blank in front of it. -/
def DumpType.width (t : DumpType) : Nat :=
  match t.letter with
  | 'x' => 2 * t.size
  | 'o' => (8 * t.size + 2) / 3
  | 'u' => [0, 3, 5, 8, 10, 13, 15, 17, 20].getD t.size 20
  | 'd' => [0, 4, 6, 8, 11, 13, 15, 17, 20].getD t.size 20
  | _ => 3

/-- How a group of bytes is shown, without the blanks in front of it. -/
def DumpType.shown (t : DumpType) (group : List Char) : List Char :=
  let n := wordValue group
  match t.letter with
  | 'c' => byteSign (group.headD '\x00')
  | 'a' => byteName (group.headD '\x00')
  | 'x' =>
    let digits := Nat.toDigits 16 n
    List.replicate (2 * t.size - digits.length) '0' ++ digits
  | 'o' => octal t.width n
  | 'u' => decimal n
  | _ =>
    let half := 1 <<< (8 * t.size - 1)
    (toString (if n < half then (n : Int) else (n : Int) - 2 * half)).toList

def chunks (size : Nat) : Nat → List Char → List (List Char)
  | 0, _ => []
  | _, [] => []
  | fuel + 1, text => text.take size :: chunks size fuel (text.drop size)

/-- Reads the types of `od`. -/
def dumpTypes? : Nat → List Char → Option (List DumpType)
  | 0, _ => none
  | _, [] => some []
  | fuel + 1, c :: rest =>
    let digits := rest.takeWhile Char.isDigit
    let sized := c ∈ ['d', 'o', 'u', 'x']
    let after := if sized then rest.drop digits.length else rest
    let size := if digits = [] then 4 else Arithmetic.ofDigits 10 digits
    let showsText := after.head? = some 'z'
    let type : DumpType := if sized then ⟨c, size, showsText⟩ else ⟨c, 1, showsText⟩
    if c ∈ ['a', 'c', 'd', 'o', 'u', 'x'] && type.size ∈ [1, 2, 4, 8] then
      (dumpTypes? fuel (if showsText then after.tail else after)).map (type :: ·)
    else none

/-- The types that an option of `od` asks for. -/
def flagTypes (flag : Char) (value : List Char) : Except (List Char) (List DumpType) :=
  match flag with
  | 'a' => .ok [⟨'a', 1, false⟩]
  | 'b' => .ok [⟨'o', 1, false⟩]
  | 'c' => .ok [⟨'c', 1, false⟩]
  | 'd' => .ok [⟨'u', 2, false⟩]
  | 'o' => .ok [⟨'o', 2, false⟩]
  | 's' => .ok [⟨'d', 2, false⟩]
  | 'x' => .ok [⟨'x', 2, false⟩]
  | 't' =>
    match dumpTypes? value.length.succ value with
    | some types => .ok types
    | none => .error ("invalid character ".toList ++ inMarks (value.take 1) ++
        " in type string ".toList ++ inMarks value)
  | _ => .ok []

/-- The types that the options of `od` ask for, in order. -/
def dumpTypes (o : Options) : Except (List Char) (List DumpType) :=
  (o.flags.mapM fun f => flagTypes f.1 f.2).map List.flatten

/-- The place of a byte at the start of a line. -/
def dumpAddress (radix : Char) (n : Nat) : List Char :=
  let filled := fun (width base : Nat) =>
    let digits := Nat.toDigits base n
    List.replicate (width - digits.length) '0' ++ digits
  match radix with
  | 'n' => []
  | 'd' => filled 7 10
  | 'x' => filled 6 16
  | _ => filled 7 8

def dumpRow (types : List DumpType) (radix : Char) (bytesPerRow address : Nat) (row : List Char) :
    List (List Char) :=
  let total := (types.map fun t => (t.width + 1) * (bytesPerRow / t.size)).foldl max 0
  let shown := types.map fun t =>
    let field := total / (bytesPerRow / t.size)
    let groups := (chunks t.size row.length row).flatMap fun group =>
      let text := t.shown group
      List.replicate (field - text.length) ' ' ++ text
    if t.showsText then
      groups ++ List.replicate (total - groups.length) ' ' ++ "  >".toList ++
        (row.map fun c => if ' ' ≤ c && c ≤ '~' then c else '.') ++ ['<']
    else groups
  let start := dumpAddress radix address
  match shown with
  | [] => []
  | first :: more => (start ++ first) :: more.map fun text => start.map (fun _ => ' ') ++ text

/-- The lines for all rows of bytes. A row that equals the one before is not shown, but a star
stands for all such rows. -/
def dumpRows (types : List DumpType) (radix : Char) (bytesPerRow : Nat) (showsAll : Bool) :
    Option (List Char) → Bool → Nat → List (List Char) → List (List Char)
  | _, _, _, [] => []
  | last, isStarred, address, row :: rest =>
    let isHidden := !showsAll && last = some row && row.length = bytesPerRow
    let here := if !isHidden then dumpRow types radix bytesPerRow address row
      else if isStarred then [] else [['*']]
    let next := address + row.length
    here ++ dumpRows types radix bytesPerRow showsAll (some row) isHidden next rest

/-- The options of `od`. -/
def odFlags : Flags where
  plain := "abcdosxv"
  valued := "tANj"
  optional := "w"
  words := [("address-radix", 'A'), ("format", 't'), ("read-bytes", 'N'), ("skip-bytes", 'j'),
    ("output-duplicates", 'v'), ("width", 'w')]

def od : Utility := withOptions odFlags 1 fun s o =>
  match dumpTypes o with
  | .error complaint => s.failing 1 complaint
  | .ok types =>
    let types := if types.isEmpty then [⟨'o', 2, false⟩] else types
    let texts := s.readAll o.operands
    let complaints := texts.filterMap fun (name, text) =>
      match text with
      | .ok _ => none
      | .error reason => some (s.fileComplaint name reason)
    let number := fun flag : Char => (o.value? flag).bind natural?
    let all := texts.flatMap fun (_, text) => text.toOption.getD []
    let skipped := (number 'j').getD 0
    let bytes := all.drop skipped
    let bytes := match number 'N' with
      | some n => bytes.take n
      | none => bytes
    let radix := ((o.value? 'A').getD ['o']).headD 'o'
    let bytesPerRow := max 1 (((o.value? 'w').map fun text => (natural? text).getD 32).getD 16)
    let rows := chunks bytesPerRow bytes.length bytes
    let shown := dumpRows types radix bytesPerRow (o.has 'v') none false skipped rows
    let isRead := complaints.length < texts.length
    let ending := if radix = 'n' || !isRead then []
      else [dumpAddress radix (skipped + bytes.length)]
    { said := complaints ++ [{ text := joinLines (shown ++ ending) }]
      status := if complaints.isEmpty then 0 else 1
      left := leftAfter o.operands }

/-- A byte in octal digits, with blanks in front up to three characters. -/
def octalBlank (c : Char) : List Char :=
  let digits := Nat.toDigits 8 c.toNat
  List.replicate (3 - digits.length) ' ' ++ digits

/-- The bytes of two texts that differ, each with its place counted from one. -/
def byteDifferences : Nat → List Char → List Char → List (Nat × Char × Char)
  | n, a :: as, b :: bs =>
    let rest := byteDifferences (n + 1) as bs
    if a = b then rest else (n, a, b) :: rest
  | _, _, _ => []

/-- The complaint about a file that ends before the other one. -/
def endComplaint (name text : List Char) (showsLine : Bool) : List Char :=
  if text = [] then "EOF on ".toList ++ name ++ " which is empty".toList
  else
    let lines := text.count '\n'
    let isWhole := text.getLast? = some '\n'
    "EOF on ".toList ++ name ++ " after byte ".toList ++ decimal text.length ++
      (if !showsLine then []
        else if isWhole then ", line ".toList ++ decimal lines
        else ", in line ".toList ++ decimal (lines + 1))

/-- The options of `cmp`. -/
def cmpFlags : Flags where
  plain := "bls"
  valued := "in"
  words := [("print-bytes", 'b'), ("verbose", 'l'), ("quiet", 's'), ("silent", 's'),
    ("bytes", 'n'), ("ignore-initial", 'i')]

/-- Compares two files byte by byte. -/
def cmp : Utility := fun s arguments =>
  let misused := fun complaint : List Char =>
    let hint := "Try 'cmp --help' for more information.".toList
    ({ said := [s.complaint complaint, s.complaint hint], status := 2 } : Effect)
  match Options.readFrom cmpFlags none arguments with
  | .error complaint => misused complaint
  | .ok o =>
    match o.operands with
    | [] => misused ("missing operand after ".toList ++ inMarks s.title)
    | first :: others =>
      let second := others.headD ['-']
      let left := leftAfter [first, second]
      let failure := fun (name : List Char) (reason : OsError) =>
        let said := if o.has 's' then [] else [s.fileComplaint name reason]
        ({ said, status := 2, left } : Effect)
      match s.read first, s.read second with
      | .error reason, _ => failure first reason
      | _, .error reason => failure second reason
      | .ok a, .ok b =>
        let limit := ((o.value? 'n').bind natural?).getD (max a.length b.length)
        let a := a.take limit
        let b := b.take limit
        let differences := byteDifferences 1 a b
        let shorter := if a.length < b.length then some (first, a)
          else if b.length < a.length then some (second, b) else none
        let ending := shorter.toList.map fun (name, text) =>
          s.complaint (endComplaint name text (!o.has 'l'))
        let isEqual := differences.isEmpty && shorter.isNone
        let status := if isEqual then 0 else 1
        if o.has 's' then { status, left }
        else if o.has 'l' then
          let width := (decimal (max a.length b.length)).length
          let lines := differences.map fun (n, x, y) =>
            padded width n ++ ' ' :: octalBlank x ++ ' ' :: octalBlank y
          { said := ending ++ [{ text := joinLines lines }], status, left }
        else
          match differences with
          | [] => { said := ending, status, left }
          | (n, x, y) :: _ =>
            let line := (a.take (n - 1)).count '\n' + 1
            let unit := if o.has 'b' then "byte" else "char"
            let detail := if !o.has 'b' then []
              else " is ".toList ++ octalBlank x ++ ' ' :: byteSign x ++ ' ' :: octalBlank y ++
                ' ' :: byteSign y
            { printing (first ++ ' ' :: second ++ " differ: ".toList ++ unit.toList ++ ' ' ::
                decimal n ++ ", line ".toList ++ decimal line ++ detail ++ ['\n']) with
              status, left }

/-! ## Bytes written with few characters -/

/-- A way to write bytes with few characters. -/
structure ByteCode where
  /-- The characters by what they stand for. -/
  signs : List Char
  /-- The number of bytes in a group. -/
  bytes : Nat
  /-- The number of characters in a group. -/
  size : Nat
  /-- Whether the last group is filled up. -/
  isFilled : Bool := false
  /-- The numbers of characters that a group may have before it is filled up. -/
  partSizes : List Nat := []
  /-- Whether what there is of a group is read even if it is not full. -/
  readsParts : Bool := false
  /-- Whether the characters of a group stand the other way round. -/
  isReversed : Bool := false

namespace ByteCode

def number (base : Nat) (digits : List Nat) : Nat :=
  digits.foldl (fun n d => base * n + d) 0

def digits (base : Nat) : Nat → Nat → List Nat
  | 0, _ => []
  | count + 1, n => digits base count (n / base) ++ [n % base]

def writeGroup (code : ByteCode) (group : List Char) : List Char :=
  let missing := code.bytes - group.length
  let n := number 256 (group.map (·.toNat) ++ List.replicate missing 0)
  let signs := (digits code.signs.length code.size n).map fun d => code.signs.getD d '='
  let signs := if code.isReversed then signs.reverse else signs
  if missing = 0 then signs
  else
    let used := (group.length * code.size + code.bytes - 1) / code.bytes
    signs.take used ++ List.replicate (code.size - used) '='

/-- Reads a group: the bytes that are clear, and whether all is well. -/
def readGroup (code : ByteCode) (group : List Char) : List Char × Bool :=
  let known := group.takeWhile code.signs.contains
  let ordered := if code.isReversed then known.reverse else known
  let values := ordered.map fun c => (code.signs.idxOf? c).getD 0
  let n := number code.signs.length (values ++ List.replicate (code.size - known.length) 0)
  let count := if group.length < code.size && !code.readsParts then 0
    else known.length * code.bytes / code.size
  let filling := group.drop known.length
  let isWhole := known.length = code.size
  let isFine := isWhole && n < number 256 (1 :: List.replicate code.bytes 0) ||
    group.length = code.size && code.partSizes.contains known.length && filling.all (· = '=')
  (if isWhole && !isFine then []
    else ((digits 256 code.bytes n).take count).map Char.ofNat, isFine)

def readGroups (code : ByteCode) : List (List Char) → List Char × Bool
  | [] => ([], true)
  | group :: rest =>
    match code.readGroup group with
    | (bytes, true) =>
      let (more, isFine) := readGroups code rest
      (bytes ++ more, isFine)
    | result => result

/-- Letters and digits for six bits each, with two more signs. -/
def sixBits (last : String) : ByteCode where
  signs := ("ABCDEFGHIJKLMNOPQRSTUVWXYZabcdefghijklmnopqrstuvwxyz0123456789" ++ last).toList
  bytes := 3
  size := 4
  isFilled := true
  partSizes := [2, 3]
  readsParts := true

def fiveBits (signs : String) : ByteCode where
  signs := signs.toList
  bytes := 5
  size := 8
  isFilled := true
  partSizes := [2, 4, 5, 7]

/-- Letters and some digits for five bits each. -/
def letters : ByteCode := fiveBits "ABCDEFGHIJKLMNOPQRSTUVWXYZ234567"

/-- The ways to write bytes, by the letters of their options. -/
def choices : List (Char × ByteCode) :=
  [('4', sixBits "+/"), ('u', sixBits "-_"), ('2', letters),
    ('h', fiveBits "0123456789ABCDEFGHIJKLMNOPQRSTUV"),
    ('6', { signs := "0123456789ABCDEF".toList, bytes := 1, size := 2 }),
    ('m', { signs := ['0', '1'], bytes := 1, size := 8 }),
    ('l', { signs := ['0', '1'], bytes := 1, size := 8, isReversed := true }),
    ('8', {
      signs := ("0123456789abcdefghijklmnopqrstuvwxyzABCDEFGHIJKLMNOPQRSTUVWXYZ.-:+=^!/*?&<>()[]" ++
        "\x7b\x7d@%$#").toList, bytes := 4, size := 5 })]

end ByteCode

/-- Writes bytes with few characters, or reads them back. -/
def coded (code : ByteCode) (s : Setting) (o : Options) : Effect :=
  let name := o.operands.headD ['-']
  let left := leftAfter (o.operands.take 1)
  let width := ((o.value? 'w').map natural?).getD (some 76)
  match width, o.operands.drop 1, s.read name with
  | none, _, _ => s.failing 1 ("invalid wrap size: ".toList ++ inMarks ((o.value? 'w').getD []))
  | _, extra :: _, _ => s.misused 1 ("extra operand ".toList ++ inMarks extra)
  | _, _, .error .isDirectory => s.failing 1 "read error: Is a directory".toList
  | _, _, .error reason => s.failing 1 (name ++ ": ".toList ++ reason.reason.toList)
  | some width, _, .ok text =>
    if o.has 'd' then
      let text := text.filter fun c =>
        if o.has 'i' then code.signs.contains c || c = '=' && code.isFilled else c ≠ '\n'
      match code.readGroups (chunks code.size text.length text) with
      | (bytes, true) => { printing bytes with left }
      | (bytes, false) =>
        { said := [{ text := bytes }, s.complaint "invalid input".toList], status := 1, left }
    else if text.length % code.bytes ≠ 0 && !code.isFilled then
      { s.failing 1 "invalid input (length must be multiple of 4 characters)".toList with left }
    else
      let signs := (chunks code.bytes text.length text).flatMap code.writeGroup
      let lines := if width = 0 then signs else joinLines (chunks width signs.length signs)
      { printing lines with left }

/-- The options of a program that writes bytes in one way. -/
def codeFlags : Flags where
  plain := "di"
  valued := "w"
  words := [("decode", 'd'), ("ignore-garbage", 'i'), ("wrap", 'w')]

/-- Writes bytes with letters, digits and two signs, or reads them back. -/
def base64 : Utility := withOptions codeFlags 1 (coded (.sixBits "+/"))

/-- Writes bytes with letters and some digits, or reads them back. -/
def base32 : Utility := withOptions codeFlags 1 (coded .letters)

/-- Writes bytes in a way that is chosen, or reads them back. -/
def basenc : Utility := withOptions
    { codeFlags with
      plain := "di4u2h6ml8"
      words := codeFlags.words ++ [("base64", '4'), ("base64url", 'u'), ("base32", '2'),
        ("base32hex", 'h'), ("base16", '6'), ("base2msbf", 'm'), ("base2lsbf", 'l'),
        ("z85", '8')] } 1 fun s o =>
  match (o.last? "4u2h6ml8".toList).bind fun c => ByteCode.choices.lookup c with
  | some code => coded code s o
  | none => s.misused 1 "missing encoding type".toList

end BoardBind.Script
