import BoardBind.Script.Digest
import BoardBind.Script.Filter

/-! # Checksums of files

Programs that print digests of files, or compare them with those that were printed before.
-/

namespace BoardBind.Script

/-- A digest with its name. -/
structure Digester where
  tag : String
  /-- The number of bytes. -/
  size : Nat
  digest : List UInt8 → List UInt8

namespace Digester

def text (d : Digester) (text : List Char) : List Char :=
  Digest.hexText (d.digest (toBytes text))

end Digester

/-- A name on one line: characters that would break it are written with a backslash. -/
def escapedName (name : List Char) : List Char :=
  name.flatMap fun
    | '\\' => ['\\', '\\']
    | '\n' => ['\\', 'n']
    | '\r' => ['\\', 'r']
    | c => [c]

def unescapedName : List Char → List Char
  | '\\' :: 'n' :: rest => '\n' :: unescapedName rest
  | '\\' :: 'r' :: rest => '\r' :: unescapedName rest
  | '\\' :: '\\' :: rest => '\\' :: unescapedName rest
  | c :: rest => c :: unescapedName rest
  | [] => []

def digestLine (d : Digester) (o : Options) (isTagged : Bool) (name text : List Char) :
    List Char :=
  let shown := if o.has 'z' then name else escapedName name
  let mark := if shown = name then [] else ['\\']
  let ending := if o.has 'z' then ['\x00'] else ['\n']
  let mode := if o.last? ['b', 't'] = some 'b' then '*' else ' '
  let size := if d.tag = "BLAKE2b" && d.size ≠ 64 then '-' :: decimal (d.size * 8) else []
  mark ++
    (if isTagged then
      d.tag.toList ++ size ++ " (".toList ++ shown ++ ") = ".toList ++ d.text text
    else d.text text ++ ' ' :: mode :: shown) ++ ending

/-- The digest and the name on a line that was printed before. -/
def checkedLine? (d : Digester) (line : List Char) : Option (List Char × List Char) :=
  let (isEscaped, line) := match line.dropWhile fun c => c = ' ' || c = '\t' with
    | '\\' :: rest => (true, rest)
    | rest => (false, rest)
  let named := fun name : List Char => if isEscaped then unescapedName name else name
  let isDigest := fun text : List Char =>
    text.length = 2 * d.size && text.all fun c =>
      c.isDigit || ('a' ≤ c && c ≤ 'f') || ('A' ≤ c && c ≤ 'F')
  let opening := d.tag.toList ++ " (".toList
  if opening.isPrefixOf line then
    let digest := line.drop (line.length - 2 * d.size)
    let front := (line.take (line.length - 2 * d.size)).drop opening.length
    let closing := ") = ".toList
    if isDigest digest && closing.isSuffixOf front then
      some (digest, named (front.take (front.length - closing.length)))
    else none
  else
    let digest := line.take (2 * d.size)
    match line.drop (2 * d.size) with
    | ' ' :: c :: name =>
      if !isDigest digest then none
      else if c = ' ' || c = '*' then (if name = [] then none else some (digest, named name))
      else some (digest, named (c :: name))
    | _ => none

/-- What has been found out about a list of digests. -/
structure CheckCount where
  said : List Saying := []
  proper : Nat := 0
  improper : Nat := 0
  unread : Nat := 0
  wrong : Nat := 0
  right : Nat := 0

def checkLine (s : Setting) (d : Digester) (o : Options) (list : List Char) (r : CheckCount)
    (item : List Char × Nat) : CheckCount :=
  let (line, number) := item
  let isQuiet := o.has '~'
  if line.head? = some '#' then r
  else
    match checkedLine? d line with
    | none =>
      let said := if !o.has 'w' then []
        else [s.complaint (list ++ ": ".toList ++ decimal (number + 1) ++
          ": improperly formatted ".toList ++ d.tag.toList ++ " checksum line".toList)]
      { r with said := r.said ++ said, improper := r.improper + 1 }
    | some (digest, name) =>
      let r := { r with proper := r.proper + 1 }
      let shown := escapedName name
      let shown := if shown = name then name else '\\' :: shown
      let say := fun text : String => if isQuiet then [] else [{ text := shown ++ text.toList }]
      match s.read name with
      | .error reason =>
        if reason = .noEntry && o.has '?' then r
        else
          { r with
            said := r.said ++ [s.fileComplaint name reason] ++ say ": FAILED open or read\n"
            unread := r.unread + 1 }
      | .ok text =>
        if d.text text = digest.map Char.toLower then
          { r with
            said := r.said ++ (if o.has 'q' then [] else say ": OK\n"), right := r.right + 1 }
        else { r with said := r.said ++ say ": FAILED\n", wrong := r.wrong + 1 }

def checkList (s : Setting) (d : Digester) (o : Options) (name : List Char) :
    List Saying × Bool :=
  let shown := if name = ['-'] then "standard input".toList else name
  match s.read name with
  | .error reason => ([s.fileComplaint name reason], false)
  | .ok text =>
    let r := (plainLines text).zipIdx.foldl (checkLine s d o shown) {}
    if r.proper = 0 then
      ([s.complaint (shown ++ ": no properly formatted checksum lines found".toList)], false)
    else
      let warning := fun (n : Nat) (one many : String) =>
        if n = 0 || o.has '~' then []
        else [s.complaint ("WARNING: ".toList ++ decimal n ++
          (if n = 1 then one else many).toList)]
      let unverified := if o.has '?' && r.right = 0 && r.wrong = 0 && !o.has '~' then
          [s.complaint (shown ++ ": no file was verified".toList)]
        else []
      (r.said ++
        warning r.improper " line is improperly formatted" " lines are improperly formatted" ++
        warning r.unread " listed file could not be read" " listed files could not be read" ++
        warning r.wrong " computed checksum did NOT match" " computed checksums did NOT match" ++
        unverified,
        r.unread = 0 && r.wrong = 0 && (r.improper = 0 || !o.has '!') &&
          (r.right ≠ 0 || !o.has '?'))

def digestFlags : Flags where
  plain := "bctwzq~!?+-"
  valued := "l"
  words := [("binary", 'b'), ("check", 'c'), ("text", 't'), ("warn", 'w'), ("zero", 'z'),
    ("quiet", 'q'), ("status", '~'), ("strict", '!'), ("ignore-missing", '?'), ("tag", '+'),
    ("untagged", '-'), ("length", 'l')]

def digestMisuse? (o : Options) : Option String :=
  let only := [('?', "ignore-missing"), ('~', "status"), ('w', "warn"), ('q', "quiet"),
    ('!', "strict")].find? fun f => o.has f.1
  if o.has '+' && o.has 'c' then
    some "the --tag option is meaningless when verifying checksums"
  else if !o.has 'c' then
    only.map fun f => "the --" ++ f.2 ++ " option is meaningful only when verifying checksums"
  else none

def printDigests (s : Setting) (d : Digester) (o : Options) (isTagged : Bool) : Effect :=
  let results := (s.readAll o.operands).map fun (name, text) =>
    match text with
    | .ok text => (true, ({ text := digestLine d o isTagged name text } : Saying))
    | .error reason => (false, s.fileComplaint name reason)
  { said := results.map (·.2), status := if results.all (·.1) then 0 else 1
    left := leftAfter o.operands }

def digestProgram (d : Options → Except String Digester) : Utility :=
  withOptions digestFlags 1 fun s o =>
    match digestMisuse? o, d o with
    | some complaint, _ => s.misused 1 complaint.toList
    | none, .error complaint => s.failing 1 complaint.toList
    | none, .ok d =>
      if o.has 'c' then
        let results := (orInput o.operands).map (checkList s d o)
        { said := results.flatMap (·.1), status := if results.all (·.2) then 0 else 1
          left := leftAfter o.operands }
      else printDigests s d o (o.has '+')

/-- The digests by the names that `cksum` knows them by. -/
def digesters : List (String × Digester) :=
  [("md5", ⟨"MD5", 16, Digest.md5⟩), ("sha1", ⟨"SHA1", 20, Digest.sha1⟩),
    ("sha224", ⟨"SHA224", 28, Digest.sha224⟩), ("sha256", ⟨"SHA256", 32, Digest.sha256⟩),
    ("sha384", ⟨"SHA384", 48, Digest.sha384⟩), ("sha512", ⟨"SHA512", 64, Digest.sha512⟩),
    ("blake2b", ⟨"BLAKE2b", 64, Digest.blake2 64⟩)]

def plainDigest (name : String) : Utility :=
  digestProgram fun _ => (digesters.lookup name).elim (.error "unknown digest") .ok

/-- Prints digests of a chosen length. -/
def b2sum : Utility := digestProgram fun o =>
  match (o.value? 'l').map fun text => (text, natural? text) with
  | none => .ok ⟨"BLAKE2b", 64, Digest.blake2 64⟩
  | some (text, none) => .error ("invalid length: '" ++ String.ofList text ++ "'")
  | some (_, some 0) => .ok ⟨"BLAKE2b", 64, Digest.blake2 64⟩
  | some (text, some n) =>
    if n % 8 ≠ 0 then
      .error ("invalid length: '" ++ String.ofList text ++ "'\nb2sum: length is not a multiple of 8")
    else if 512 < n then
      .error ("invalid length: '" ++ String.ofList text ++
        "'\nb2sum: maximum digest length for 'BLAKE2b' is 512 bits")
    else .ok ⟨"BLAKE2b", n / 8, Digest.blake2 (n / 8)⟩

/-- Prints sums of files; what is printed may end in the name of the file. -/
def printSums (s : Setting) (names : List (List Char)) (sum : List UInt8 → List Char) : Effect :=
  let results := (s.readAll names).map fun (name, text) =>
    match text with
    | .ok text =>
      let shown := if names = [] then [] else ' ' :: name
      (true, ({ text := sum (toBytes text) ++ shown ++ ['\n'] } : Saying))
    | .error reason => (false, s.fileComplaint name reason)
  { said := results.map (·.2), status := if results.all (·.1) then 0 else 1
    left := leftAfter names }

def crcText (bytes : List UInt8) : List Char :=
  decimal (Digest.crc bytes).toNat ++ ' ' :: decimal bytes.length

/-- A sum of 16 bits and the number of blocks of 1024 bytes. -/
def turningSumText (bytes : List UInt8) : List Char :=
  let sum := decimal (Digest.turningSum bytes)
  List.replicate (5 - sum.length) '0' ++ sum ++ ' ' ::
    filled ' ' 5 (decimal ((bytes.length + 1023) / 1024))

/-- Another sum of 16 bits and the number of blocks of 512 bytes. -/
def foldedSumText (bytes : List UInt8) : List Char :=
  decimal (Digest.foldedSum bytes) ++ ' ' :: decimal ((bytes.length + 511) / 512)

/-- Prints sums of files by one of two rules. -/
def sumProgram : Utility := withOptions
    { plain := "rs", words := [("sysv", 's')] } 1 fun s o =>
  printSums s o.operands
    (if o.last? ['r', 's'] = some 's' then foldedSumText else turningSumText)

/-- The options of `cksum`. -/
def cksumFlags : Flags :=
  { digestFlags with
    valued := "al", plain := digestFlags.plain ++ "<"
    words := ("algorithm", 'a') :: ("debug", '<') :: digestFlags.words }

/-- The names of all checksums that `cksum` knows. -/
def checksumNames : List String :=
  ["bsd", "sysv", "crc"] ++ digesters.map (·.1) ++ ["sm3"]

/-- Prints checksums of files by a chosen rule. -/
def cksum : Utility := withOptions cksumFlags 1 fun s o =>
  let algorithm := String.ofList ((o.value? 'a').getD "crc".toList)
  match digestMisuse? o with
  | some complaint => s.misused 1 complaint.toList
  | none =>
    match algorithm, digesters.lookup algorithm with
    | "crc", _ => printSums s o.operands crcText
    | "bsd", _ => printSums s o.operands turningSumText
    | "sysv", _ => printSums s o.operands foldedSumText
    | _, some d =>
      if o.has 'c' then
        let results := (orInput o.operands).map (checkList s d o)
        { said := results.flatMap (·.1), status := if results.all (·.2) then 0 else 1
          left := leftAfter o.operands }
      else printDigests s d o (o.last? ['+', '-'] ≠ some '-')
    | _, none =>
      let list := checksumNames.flatMap fun name => "\n  - '".toList ++ name.toList ++ ['\'']
      s.misused 1 ("invalid argument ".toList ++ inMarks algorithm.toList ++
        " for '--algorithm'\nValid arguments are:".toList ++ list)

end BoardBind.Script
