import BoardBind.Script.Awk.Machine
import BoardBind.Script.Date

/-! # Running programs for records

Expressions are evaluated, statements carried out, and rules applied to records.
-/

namespace BoardBind.Script.Awk

/-- What is left of a number when another one is taken away as often as it goes. -/
def remainder (a b : Float) : Float :=
  match Decimal.Exact.ofFloat a, Decimal.Exact.ofFloat b with
  | .finite isNegative x, .finite _ y =>
    if y.numerator = 0 then 0.0 / 0.0
    else
      let left := (x.numerator * y.denominator) % (y.numerator * x.denominator)
      let size := (Float.ofNat left).scaleB (-(Nat.log2 (x.denominator * y.denominator) : Int))
      if isNegative then -size else size
  | .finite .., .infinite _ => a
  | _, _ => 0.0 / 0.0

def Operation.apply (operation : Operation) (a b : Float) : Float :=
  match operation with
  | .plus => a + b
  | .minus => a - b
  | .times => a * b
  | .over => a / b
  | .modulo => remainder a b
  | .power => a.pow b

def Comparison.ofNumbers (comparison : Comparison) (a b : Float) : Bool :=
  match comparison with
  | .less => a < b
  | .lessEqual => a ≤ b
  | .equal => a == b
  | .unequal => a != b
  | .greater => b < a
  | .greaterEqual => b ≤ a

def Comparison.ofOrder (comparison : Comparison) (order : Ordering) : Bool :=
  match comparison with
  | .less => order = .lt
  | .lessEqual => order ≠ .gt
  | .equal => order = .eq
  | .unequal => order ≠ .eq
  | .greater => order = .gt
  | .greaterEqual => order ≠ .lt

/-- Compares two values: as numbers if both are, else as texts. -/
def compareValues (comparison : Comparison) (a b : Value) : Act Bool := do
  match a.numeric?, b.numeric? with
  | some x, some y => return comparison.ofNumbers x y
  | _, _ =>
    let x ← textOf a
    let y ← textOf b
    return comparison.ofOrder (compareOfLessAndEq x y)

def regexOf (source : List Char) : Act Regex := do
  match readRegex source with
  | .ok r => return r
  | .error reason =>
    throw (.fault ("run time error: regular expression compile failed (".toList ++
      reason.toList ++ ")\n".toList ++ source))

/-- The next number that looks as if it came by chance. -/
def nextRandom (seed : Nat) : Nat :=
  (seed * 1103515245 + 12345) % 2147483648

def numberFunction? : String → Option (Float → Float)
  | "sin" => some Float.sin
  | "cos" => some Float.cos
  | "exp" => some Float.exp
  | "log" => some Float.log
  | "sqrt" => some Float.sqrt
  | "int" => some fun x => if x < 0 then x.ceil else x.floor
  | _ => none

/-- The functions that need nothing but the values of their arguments. -/
def plainFunction (run : CommandRunner) (name : String) (arguments : List Value) : Act Value := do
  let wrong : Act Value :=
    throw (.fault ("wrong number of arguments in call to ".toList ++ name.toList))
  match name, arguments with
  | "length", [] => return .number (Float.ofNat (← textOf (← fieldOf 0)).length)
  | "length", [a] => return .number (Float.ofNat (← textOf a).length)
  | "index", [a, b] =>
    return .number (Float.ofNat (indexIn (← textOf b) 0 (← textOf a)))
  | "substr", [a, start] => return .text (subtext (← textOf a) start.toNumber none)
  | "substr", [a, start, size] =>
    return .text (subtext (← textOf a) start.toNumber (some size.toNumber))
  | "sprintf", format :: values =>
    let convert ← conversion
    let format ← textOf format
    match laidOut convert (format.length + 1) format values with
    | (text, none) => return .text text
    | (_, some fault) => Act.fault (fault.message "sprintf".toList format)
  | "atan2", [a, b] => return .number (Float.atan2 a.toNumber b.toNumber)
  | "rand", [] =>
    let seed := nextRandom (← get).seed
    modify fun m => { m with seed }
    return .number (Float.ofNat seed / 2147483648.0)
  | "srand", [] =>
    let old := (← get).seed
    let now := ((← get).shell.world.moment / 1000000000).toNat
    modify fun m => { m with seed := now }
    return .number (Float.ofNat old)
  | "srand", [a] =>
    let old := (← get).seed
    modify fun m => { m with seed := (truncated a.toNumber).toNat }
    return .number (Float.ofNat old)
  | "close", [a] => closeNamed run (← textOf a)
  | "system", [a] =>
    let command ← textOf a
    flush
    flushFiles fun _ => true
    let status ← runCommand run command none
    return .number (Float.ofNat status)
  | "toupper", [a] => return .text ((← textOf a).map Char.toUpper)
  | "tolower", [a] => return .text ((← textOf a).map Char.toLower)
  | "fflush", [a] =>
    let named ← textOf a
    if named = [] then
      flush
      flushFiles fun _ => true
      return .number 0
    match (← get).sendings.lookup named with
    | some .own =>
      flush
      return .number 0
    | some _ =>
      flushFiles (· = named)
      return .number 0
    | none => return .number (-1)
  | "fflush", _ =>
    flush
    return .number 0
  | "systime", [] => return .number (Float.ofInt ((← get).shell.world.moment / 1000000000))
  | "mktime", [a] =>
    let words := ((← textOf a).splitOn ' ').filter (· ≠ [])
    match words.map natural? with
    | some year :: some month :: some day :: some hour :: some minute :: some second :: _ =>
      let civil : Civil := { year, month, day, hour, minute, second }
      return .number (Float.ofInt civil.seconds)
    | _ => return .number (-1)
  | "strftime", values =>
    let format ← match values with
      | format :: _ => textOf format
      | [] => pure "%c".toList
    let now := (← get).shell.world.moment / 1000000000
    let seconds := match values with
      | _ :: time :: _ => truncated time.toNumber
      | _ => now
    return .text (formatMoment {} ⟨seconds, 0⟩ format)
  | name, [a] =>
    match numberFunction? name with
    | some f => return .number (f a.toNumber)
    | none => wrong
  | _, _ => wrong

/-- Hands over a record that was read to a variable or as the record, with a status. -/
def receive (assign : Option (Value → Act Unit)) (countsRecord : Bool) :
    Option (Option (List Char)) → Act Value
  | none => return .number (-1)
  | some none => return .number 0
  | some (some record) => do
    if countsRecord then
      countUp "NR"
      countUp "FNR"
    match assign with
    | some assign => assign (.input record)
    | none => putRecord record
    return .number 1

mutual

def eval (run : CommandRunner) : Nat → Expr → Act Value
  | 0, _ => throw .endless
  | fuel + 1, e => do
    match e with
    | .number x => return .number x
    | .text t => return .text t
    | .regex source =>
      let r ← regexOf source
      return .ofBool (r.isIn {} (← textOf (← fieldOf 0)))
    | .name n => valueOf n
    | .field index => fieldOf (← fieldNumber (← eval run fuel index))
    | .item array keys =>
      let key ← evalKey run fuel keys
      let id ← arrayOf array
      let (value, t) := (← tableOf id).get key
      putTable id t
      return value
    | .assign operation target value =>
      let value ← eval run fuel value
      let value ← match operation with
        | none => pure (match value with
          | .unset => Value.unset
          | other => other)
        | some operation =>
          let old ← eval run fuel target
          pure (.number (operation.apply old.toNumber value.toNumber))
      assignTo run fuel target value
      return value
    | .step isBefore isUp target =>
      let old := (← eval run fuel target).toNumber
      let new := if isUp then old + 1 else old - 1
      assignTo run fuel target (.number new)
      return .number (if isBefore then new else old)
    | .choice condition yes no =>
      if (← eval run fuel condition).holds then eval run fuel yes else eval run fuel no
    | .both a b =>
      if (← eval run fuel a).holds then return .ofBool (← eval run fuel b).holds
      else return .ofBool false
    | .either a b =>
      if (← eval run fuel a).holds then return .ofBool true
      else return .ofBool (← eval run fuel b).holds
    | .opposite e => return .ofBool (!(← eval run fuel e).holds)
    | .negative e => return .number (-(← eval run fuel e).toNumber)
    | .positive e => return .number (← eval run fuel e).toNumber
    | .arithmetic operation a b =>
      let a ← eval run fuel a
      let b ← eval run fuel b
      return .number (operation.apply a.toNumber b.toNumber)
    | .joined a b =>
      let a ← textOf (← eval run fuel a)
      let b ← textOf (← eval run fuel b)
      return .text (a ++ b)
    | .compare comparison a b =>
      let a ← eval run fuel a
      let b ← eval run fuel b
      return .ofBool (← compareValues comparison a b)
    | .fits isWanted subject pattern =>
      let text ← textOf (← eval run fuel subject)
      let r ← evalRegex run fuel pattern
      return .ofBool (r.isIn {} text = isWanted)
    | .isIn keys array =>
      let key ← evalKey run fuel keys
      let id ← arrayOf array
      let (isThere, t) := (← tableOf id).find key
      putTable id t
      return .ofBool isThere
    | .call function arguments =>
      let f? := (← get).program.functions.find? fun f => f.name = function
      match f? with
      | none => throw (.fault ("function ".toList ++ function ++ " never defined".toList))
      | some f =>
        let slots ← evalSlots run fuel f.parameters arguments
        let saved := (← get).locals
        modify fun m => { m with locals := slots }
        let value ← tryCatch (do exec run fuel f.body; return Value.unset) fun
          | .giveBack value => return value
          | stop => throw stop
        modify fun m => { m with locals := saved }
        return value
    | .builtin "length" [.name n] =>
      match ← slotOf n with
      | .array id => return .number (Float.ofNat (← tableOf id).size)
      | .fresh id => return .number (Float.ofNat (← tableOf id).size)
      | _ => return .number (Float.ofNat (← textOf (← valueOf n)).length)
    | .builtin "split" (subject :: .name array :: separator) =>
      let text ← textOf (← eval run fuel subject)
      let separator ← match separator with
        | [] => pure (separatorOf (← textOf (← globalOf "FS")))
        | .regex source :: _ => pure (Separator.regex (← regexOf source))
        | e :: _ => pure (separatorOf (← textOf (← eval run fuel e)))
      let parts := separator.parts text
      let id ← arrayOf array
      putTable id (.ofList (parts.map Value.input))
      return .number (Float.ofNat parts.length)
    | .builtin "match" [subject, pattern] =>
      let text ← textOf (← eval run fuel subject)
      let r ← evalRegex run fuel pattern
      let (start, size) : Float × Float := match foundIn r text with
        | some (before, size) => (Float.ofNat (before + 1), Float.ofNat size)
        | none => (0, -1)
      putGlobal "RSTART" (.number start)
      putGlobal "RLENGTH" (.number size)
      return .number start
    | .builtin "sub" (pattern :: new :: target) =>
      evalReplace run fuel false pattern new (target.headD (.field (.number 0)))
    | .builtin "gsub" (pattern :: new :: target) =>
      evalReplace run fuel true pattern new (target.headD (.field (.number 0)))
    | .builtin name arguments =>
      let values ← evalList run fuel arguments
      plainFunction run name values
    | .line target =>
      let record ← mainRecord fileLimit
      receive (target.map fun t => assignTo run fuel t) false (some record)
    | .fileLine file target =>
      let name ← textOf (← eval run fuel file)
      let record ← feedRecord name do
        return (← fileText? name).map fun text => { left := text }
      receive (target.map fun t => assignTo run fuel t) false record
    | .commandLine command target =>
      let text ← textOf (← eval run fuel command)
      let record ← feedRecord text do
        return some (← collectCommand run text)
      receive (target.map fun t => assignTo run fuel t) true record
    | .list items =>
      match items with
      | [single] => eval run fuel single
      | _ => throw (.fault "syntax error".toList)

def evalList (run : CommandRunner) : Nat → List Expr → Act (List Value)
  | 0, _ => throw .endless
  | _ + 1, [] => return []
  | fuel + 1, e :: rest => do
    let value ← eval run fuel e
    let more ← evalList run fuel rest
    return value :: more

/-- Evaluates the key of an array; several parts are joined. -/
def evalKey (run : CommandRunner) : Nat → List Expr → Act Key
  | 0, _ => throw .endless
  | fuel + 1, keys => do
    match ← evalList run fuel keys with
    | [single] => keyOf single
    | several =>
      let between ← textOf (← globalOf "SUBSEP")
      let texts ← several.mapM textOf
      return .text (between.intercalate texts)

def evalRegex (run : CommandRunner) : Nat → Expr → Act Regex
  | 0, _ => throw .endless
  | fuel + 1, pattern => do
    match pattern with
    | .regex source => regexOf source
    | .list [.regex source] => regexOf source
    | e => regexOf (← textOf (← eval run fuel e))

def evalReplace (run : CommandRunner) : Nat → Bool → Expr → Expr → Expr → Act Value
  | 0, _, _, _, _ => throw .endless
  | fuel + 1, isAll, pattern, new, target => do
    let r ← evalRegex run fuel pattern
    let new ← textOf (← eval run fuel new)
    let text ← textOf (← eval run fuel target)
    let (count, replaced) := replacedIn r isAll new text
    if count ≠ 0 && target.isTarget then assignTo run fuel target (.text replaced)
    return .number (Float.ofNat count)

def assignTo (run : CommandRunner) : Nat → Expr → Value → Act Unit
  | 0, _, _ => throw .endless
  | fuel + 1, target, value => do
    match target with
    | .name n => putValue n value
    | .field index => putField (← fieldNumber (← eval run fuel index)) value
    | .item array keys =>
      let key ← evalKey run fuel keys
      let id ← arrayOf array
      putTable id ((← tableOf id).put key value)
    | _ => throw (.fault "syntax error".toList)

/-- Evaluates the arguments of a function: its names with what they stand for. An array is handed
over itself, and so is a name that may become one. -/
def evalSlots (run : CommandRunner) :
    Nat → List (List Char) → List Expr → Act (List (List Char × Slot))
  | 0, _, _ => throw .endless
  | _ + 1, [], _ => return []
  | fuel + 1, parameter :: parameters, [] => do
    let more ← evalSlots run fuel parameters []
    return (parameter, .untyped) :: more
  | fuel + 1, parameter :: parameters, argument :: arguments => do
    let slot ← match argument with
      | .name n =>
        match ← slotOf n with
        | .array id => pure (Slot.array id)
        | .fresh id => pure (.fresh id)
        | .scalar _ =>
          let value ← valueOf n
          pure (.scalar value)
        | .untyped =>
          let id ← newTable {}
          putSlot n (.fresh id)
          pure (.fresh id)
      | e => pure (.scalar (← eval run fuel e))
    let more ← evalSlots run fuel parameters arguments
    return (parameter, slot) :: more

def exec (run : CommandRunner) : Nat → Statement → Act Unit
  | 0, _ => throw .endless
  | fuel + 1, statement => do
    match statement with
    | .block body => execAll run fuel body
    | .print items outlet =>
      let format ← textOf (← globalOf "OFMT")
      let values ← if items.isEmpty then do pure [← fieldOf 0] else evalList run fuel items
      let between ← textOf (← globalOf "OFS")
      let ending ← textOf (← globalOf "ORS")
      let text := between.intercalate (values.map (Value.toText format)) ++ ending
      execSend run fuel outlet text
    | .printf items outlet =>
      match ← evalList run fuel items with
      | [] => return ()
      | format :: values =>
        let convert ← conversion
        let format ← textOf format
        let (text, fault) := laidOut convert (format.length + 1) format values
        execSend run fuel outlet text
        match fault with
        | none => return ()
        | some fault => Act.fault (fault.message "printf".toList format)
    | .choose condition yes no =>
      if (← eval run fuel condition).holds then exec run fuel yes
      else
        match no with
        | some no => exec run fuel no
        | none => return ()
    | .whileDo condition body =>
      Act.repeating do
        if (← eval run fuel condition).holds then Act.goesOn (exec run fuel body)
        else return false
    | .doWhile body condition =>
      Act.repeating do
        if ← Act.goesOn (exec run fuel body) then return (← eval run fuel condition).holds
        else return false
    | .count start condition step body =>
      match start with
      | some start => exec run fuel start
      | none => pure ()
      Act.repeating do
        let isOn ← match condition with
          | some condition => do pure (← eval run fuel condition).holds
          | none => pure true
        if !isOn then return false
        else if ← Act.goesOn (exec run fuel body) then
          match step with
          | some step => exec run fuel step
          | none => pure ()
          return true
        else return false
    | .each n array body =>
      let id ← arrayOf array
      let (keys, t) := (← tableOf id).keys
      putTable id t
      execEach run fuel n body keys
    | .evaluate e =>
      let _ ← eval run fuel e
      return ()
    | .next => throw .next
    | .nextFile => throw .nextFile
    | .exit status =>
      match status with
      | some status =>
        let value ← eval run fuel status
        modify fun m => { m with status := ((truncated value.toNumber) % 256).toNat }
      | none => pure ()
      throw .exit
    | .giveBack value =>
      match value with
      | some e => throw (.giveBack (← eval run fuel e))
      | none => throw (.giveBack .unset)
    | .leave => throw .leave
    | .again => throw .again
    | .delete array keys =>
      let key ← evalKey run fuel keys
      let id ← arrayOf array
      putTable id ((← tableOf id).erase key)
    | .deleteAll array =>
      let id ← arrayOf array
      putTable id {}

def execAll (run : CommandRunner) : Nat → List Statement → Act Unit
  | 0, _ => throw .endless
  | _ + 1, [] => return ()
  | fuel + 1, statement :: rest => do
    exec run fuel statement
    execAll run fuel rest

def execEach (run : CommandRunner) : Nat → List Char → Statement → List (List Char) → Act Unit
  | 0, _, _, _ => throw .endless
  | _ + 1, _, _, [] => return ()
  | fuel + 1, n, body, key :: rest => do
    putValue n (.input key)
    if ← Act.goesOn (exec run fuel body) then execEach run fuel n body rest

def execSend (run : CommandRunner) :
    Nat → Option (Outlet × Expr) → List Char → Act Unit
  | 0, _, _ => throw .endless
  | _ + 1, none, text => sendOwn text
  | fuel + 1, some (outlet, target), text => do
    let name ← textOf (← eval run fuel target)
    sendTo outlet name text

end

/-- How deep expressions and statements may be nested while a program runs. -/
def depthLimit : Nat := 20000

/-- Carries out an action; without one, the record is printed. -/
def act (run : CommandRunner) (action : Option Statement) : Act Unit :=
  exec run depthLimit (action.getD (.print [] none))

def applyRules (run : CommandRunner) : List (Rule × Nat) → Act Unit
  | [] => return ()
  | (rule, n) :: rest => do
    let holds := fun e : Expr => do
      return (← eval run depthLimit e).holds
    match rule.pattern with
    | .start => pure ()
    | .finish => pure ()
    | .always => act run rule.action
    | .condition e => if ← holds e then act run rule.action
    | .range first last =>
      let isIn := (← get).ranges.contains n
      let starts ← if isIn then pure true else holds first
      if starts then
        let ends ← holds last
        modify fun m =>
          { m with ranges := if ends then m.ranges.erase n
            else if isIn then m.ranges else n :: m.ranges }
        act run rule.action
    applyRules run rest

/-- Carries out the actions for the start or for the end. -/
def applyAll (run : CommandRunner) (isMeant : Pattern → Bool) : List Rule → Act Unit
  | [] => return ()
  | rule :: rest => do
    if isMeant rule.pattern then act run rule.action
    applyAll run isMeant rest

def Pattern.isStart : Pattern → Bool
  | .start => true
  | _ => false

def Pattern.isFinish : Pattern → Bool
  | .finish => true
  | _ => false

/-- Applies the rules to the next record, and tells whether there was one. -/
def applyNext (run : CommandRunner) (rules : List (Rule × Nat)) : Act Bool := do
  match ← mainRecord fileLimit with
  | none => return false
  | some record =>
    putRecord record
    let handled : Stop → Act Unit := fun
      | .next => pure ()
      | .nextFile => modify fun m => { m with left := some [] }
      | stop => throw stop
    tryCatch (applyRules run rules) handled
    return true

/-- Runs a program: what is for the start, the rules for all records, and what is for the end, which
also follows when the program is told to stop before. -/
def runRules (run : CommandRunner) : Act Unit := do
  let rules := (← get).program.rules
  let main := rules.zipIdx.filter fun (rule, _) =>
    !rule.pattern.isStart && !rule.pattern.isFinish
  let readsInput := rules.any fun rule => !rule.pattern.isStart
  let first : Act Unit := do
    applyAll run Pattern.isStart rules
    if readsInput then Act.repeating (applyNext run main)
  tryCatch first fun
    | .exit => return ()
    | stop => throw stop
  tryCatch (applyAll run Pattern.isFinish rules) fun
    | .exit => return ()
    | stop => throw stop

end BoardBind.Script.Awk
