import BoardBind.Script.Filter

/-! # Paragraphs

The words of a paragraph are set in lines of nearly equal length. Where lines end is chosen so that
a sum of costs is least: lines are to be near the goal and alike in length, and are to end with
sentences.
-/

namespace BoardBind.Script

/-- How paragraphs are set. -/
structure ParagraphStyle where
  /-- The greatest width of a line. -/
  width : Nat := 75
  /-- The width that lines should have. -/
  goal : Nat := 70
  /-- Whether the second line decides how far the others stand to the right. -/
  isCrown : Bool := false
  /-- The same, but the first two lines must differ. -/
  isTagged : Bool := false
  /-- Whether lines are cut but never joined. -/
  onlySplits : Bool := false
  /-- Whether one blank stands between words, and two between sentences. -/
  isUniform : Bool := false
  /-- What each line of a paragraph starts with, without blanks around it. -/
  lead : List Char := []
  /-- The number of blanks before that. -/
  leadSpace : Nat := 0
  /-- The length of that with the blanks behind it. -/
  leadWidth : Nat := 0

/-- A word and how it may stand in a line. -/
structure ParagraphWord where
  text : List Char
  /-- The number of blanks behind the word. -/
  space : Nat := 0
  /-- Whether it starts with a bracket or a quote. -/
  opens : Bool := false
  /-- Whether it ends with a mark of any kind. -/
  isMarked : Bool := false
  /-- Whether it ends with a full stop or the like. -/
  isStopped : Bool := false
  /-- Whether it ends a sentence. -/
  isFinal : Bool := false

namespace ParagraphWord

def isMark (c : Char) : Bool :=
  ' ' < c && c < '\x7f' && !c.isAlphanum

def ofText (text : List Char) : ParagraphWord :=
  let closes := fun c : Char => c ∈ [')', ']', '\'', '"']
  let bare := match text.reverse.dropWhile closes with
    | [] => text.take 1
    | last => last
  { text
    opens := text.head?.any (· ∈ ['(', '[', '\'', '\x60', '"'])
    isMarked := text.getLast?.any isMark
    isStopped := bare.head?.any (· ∈ ['.', '?', '!']) }

end ParagraphWord

def equivalent (n : Int) : Int := n * n

/-- The cost of a line that misses the goal by some characters. -/
def shortCost (n : Int) : Int := equivalent (n * 10)

/-- The cost of two lines whose lengths differ by some characters. -/
def raggedCost (n : Int) : Int := shortCost n / 2

/-- The best way found to set the words from one on. -/
structure ParagraphBreak where
  cost : Int := 0
  /-- The number of words in the first line. -/
  count : Nat := 0
  /-- The length of the first line. -/
  length : Int := 0
  /-- Whether that line is the last one. -/
  isLast : Bool := true

/-- The cost of starting a line with a word that follows two others. -/
def startCost (before second : Option ParagraphWord) (word : ParagraphWord) : Int :=
  let cost := equivalent 70
  let cost := match before with
    | none => cost
    | some last =>
      if last.isStopped then
        (if last.isFinal then cost - equivalent 50 else cost + equivalent 600)
      else if last.isMarked then cost - equivalent 40
      else if second.any (·.isFinal) then cost + equivalent 200 / (last.text.length + 2)
      else cost
  if word.opens then cost - equivalent 40
  else if word.isFinal then cost + equivalent 150 / (word.text.length + 2)
  else cost

/-- Tries lines of more and more words. What comes behind each word is handed in with it: the
blanks before the next word, its length, and the best way to set the words from it on. -/
def bestLine (style : ParagraphStyle) (extra : Int → Int) :
    Nat → Int → List (Nat × Nat × ParagraphBreak) → Option ParagraphBreak → ParagraphBreak
  | _, _, [], best => best.getD {}
  | count, length, (space, size, next) :: rest, best =>
    let isEnd := rest.isEmpty
    let ahead := if isEnd then 0
      else shortCost (style.goal - length) +
        if next.isLast then 0 else raggedCost (length - next.length)
    let cost := ahead + next.cost + extra length
    let better := match best with
      | some b => decide (cost < b.cost)
      | none => true
    let best := if better then some { cost, count, length, isLast := isEnd } else best
    let longer := length + space + size
    if isEnd || style.width ≤ longer then best.getD {}
    else bestLine style extra (count + 1) longer rest best

/-- The best ways to set the words from each one on, the first word first. The words before are
handed through, the last one first. -/
def bestBreaks (style : ParagraphStyle) (firstIndent otherIndent : Int) (lastLength : Int) :
    List ParagraphWord → List ParagraphWord → List ParagraphBreak
  | _, [] => [{}]
  | before, word :: rest =>
    let later := bestBreaks style firstIndent otherIndent lastLength (word :: before) rest
    let isFirst := before.isEmpty
    let sizes := rest.map fun w => w.text.length
    let spaces := (word :: rest).map (·.space)
    let ahead := spaces.zip ((sizes ++ [style.width]).zip later)
    let extra := fun length : Int =>
      if isFirst && 0 < lastLength then raggedCost (length - lastLength) else 0
    let indent := if isFirst then firstIndent else otherIndent
    let best := bestLine style extra 1 (indent + word.text.length) ahead none
    { best with cost := best.cost + startCost before.head? (before.drop 1).head? word } :: later

/-- What is being printed. -/
structure ParagraphOutput where
  /-- What has been printed, the last character first. -/
  text : List Char := []
  column : Nat := 0
  /-- Whether blanks are written with tabs. -/
  hasTabs : Bool := false
  lastLength : Nat := 0

namespace ParagraphOutput

def put (p : ParagraphOutput) (text : List Char) : ParagraphOutput :=
  { p with text := text.reverse ++ p.text, column := p.column + text.length }

def endLine (p : ParagraphOutput) : ParagraphOutput :=
  { p with text := '\n' :: p.text, column := 0 }

def goTo (p : ParagraphOutput) (target : Nat) : ParagraphOutput :=
  let tabbed := target / 8 * 8
  let p := if p.hasTabs && p.column + 1 < tabbed then
      { p with
        text := List.replicate (tabbed / 8 - p.column / 8) '\t' ++ p.text, column := tabbed }
    else p
  p.put (List.replicate (target - p.column) ' ')

def putWords (p : ParagraphOutput) : List ParagraphWord → ParagraphOutput
  | [] => p
  | [w] => p.put w.text
  | w :: rest => putWords ((p.put w.text).goTo ((p.put w.text).column + w.space)) rest

def putLine (p : ParagraphOutput) (style : ParagraphStyle) (leadIndent indent : Nat)
    (words : List ParagraphWord) : ParagraphOutput :=
  let p := (({ p with column := 0 }).goTo leadIndent).put style.lead
  let p := (p.goTo (max indent p.column)).putWords words
  { p with lastLength := p.column }.endLine

/-- Prints lines of a paragraph as the best ways say. -/
def putLines (style : ParagraphStyle) (leadIndent other : Nat) :
    Nat → Nat → List ParagraphWord → List ParagraphBreak → ParagraphOutput → ParagraphOutput
  | 0, _, _, _, p => p
  | fuel + 1, indent, words, breaks, p =>
    match words, breaks with
    | [], _ => p
    | _, [] => p
    | words, best :: _ =>
      putLines style leadIndent other fuel other (words.drop best.count) (breaks.drop best.count)
        (p.putLine style leadIndent indent (words.take best.count))

end ParagraphOutput

/-- A line of a text as paragraphs are read from it. -/
structure ParagraphLine where
  /-- What is left of the line behind its start. -/
  rest : List Char
  /-- The column where that stands. -/
  column : Nat
  /-- The number of blanks before the start that all lines share. -/
  leadIndent : Nat
  hasTabs : Bool
  isEnded : Bool

/-- The column behind blanks, whether tabs are among them, and what follows. -/
def skipSpace : Nat → Bool → List Char → Nat × Bool × List Char
  | column, tabs, ' ' :: rest => skipSpace (column + 1) tabs rest
  | column, _, '\t' :: rest => skipSpace ((column / 8 + 1) * 8) true rest
  | column, tabs, rest => (column, tabs, rest)

/-- The column behind the start that lines share, as far as it is there. -/
def skipLead : List Char → Nat → List Char → Bool × Nat × List Char
  | [], column, text => (true, column, text)
  | c :: lead, column, d :: text =>
    if c = d then skipLead lead (column + 1) text else (false, column, d :: text)
  | _ :: _, column, [] => (false, column, [])

def ParagraphLine.ofText (style : ParagraphStyle) (line : List Char) : ParagraphLine :=
  let isEnded := line.getLast? = some '\n'
  let line := if isEnded then line.dropLast else line
  let (column, tabs, rest) := skipSpace 0 false line
  if style.lead = [] then
    { rest, column, leadIndent := min style.leadSpace column, hasTabs := tabs, isEnded }
  else
    match skipLead style.lead column rest with
    | (true, after, rest) =>
      let (stop, hasTabs, rest) := skipSpace after tabs rest
      { rest, column := stop, leadIndent := column, hasTabs, isEnded }
    | (false, after, rest) =>
      { rest, column := after, leadIndent := column, hasTabs := tabs, isEnded }

def ParagraphLine.isSet (style : ParagraphStyle) (line : ParagraphLine) : Bool :=
  line.rest ≠ [] && style.leadSpace ≤ line.leadIndent &&
    line.leadIndent + style.leadWidth ≤ line.column

def isWordEnd (c : Char) : Bool := c = ' ' || ('\t' ≤ c && c ≤ '\r')

def lineWords (isUniform isEnded : Bool) : Nat → Nat → List Char → List ParagraphWord × Bool
  | 0, _, _ => ([], false)
  | _, _, [] => ([], false)
  | fuel + 1, column, c :: text =>
    let body := c :: text.takeWhile (!isWordEnd ·)
    let word := ParagraphWord.ofText body
    let start := column + body.length
    let (stop, tabs, rest) := skipSpace start false ((c :: text).drop body.length)
    let space := stop - start
    let isAtEnd := rest.isEmpty
    let isFinal := (isAtEnd && !isEnded) || (word.isStopped && (isAtEnd || 1 < space))
    let space := if isAtEnd || isUniform then (if isFinal then 2 else 1) else space
    let (more, moreTabs) := lineWords isUniform isEnded fuel stop rest
    ({ word with space, isFinal } :: more, tabs || moreTabs)

def ParagraphOutput.copy (p : ParagraphOutput) (style : ParagraphStyle) (line : ParagraphLine) :
    ParagraphOutput :=
  let p := { p with column := 0 }
  let p := if line.leadIndent < line.column || line.rest ≠ [] then
      let p := p.goTo line.leadIndent
      let p := p.put (style.lead.take (line.column - p.column))
      let p := if line.rest ≠ [] then p.goTo (max line.column p.column) else p
      if line.rest = [] && !line.isEnded && line.leadIndent + style.lead.length ≤ line.column then
        p.endLine
      else p
    else p
  let p := p.put line.rest
  if line.isEnded then p.endLine else p

/-- The number of lines behind the first that belong to its paragraph, and how far the lines behind
the first one stand to the right. -/
def paragraphRest (style : ParagraphStyle) (first : ParagraphLine) (oldIndent : Nat)
    (rest : List ParagraphLine) : Nat × Nat :=
  let isSame := fun line : ParagraphLine => line.isSet style && line.leadIndent = first.leadIndent
  let follows := fun (column : Nat) =>
    (rest.takeWhile fun line => isSame line && line.column = column).length
  let second := rest.head?.filter isSame
  if style.onlySplits then (0, first.column)
  else if style.isCrown then
    match second with
    | some line => (follows line.column, line.column)
    | none => (0, first.column)
  else if style.isTagged then
    match second.filter fun line => line.column ≠ first.column with
    | some line => (follows line.column, line.column)
    | none =>
      (0, if oldIndent = first.column then (if first.column = 0 then 3 else 0) else oldIndent)
  else (follows first.column, first.column)

/-- Marks the last word as the end of a sentence. -/
def closeWords : List ParagraphWord → List ParagraphWord
  | [] => []
  | [w] => [{ w with isStopped := true, isFinal := true }]
  | w :: rest => w :: closeWords rest

def setParagraphs (style : ParagraphStyle) :
    Nat → Nat → List ParagraphLine → ParagraphOutput → ParagraphOutput
  | 0, _, _, p => p
  | _, _, [], p => p
  | fuel + 1, oldIndent, first :: rest, p =>
    let p := { p with hasTabs := p.hasTabs || first.hasTabs }
    if !first.isSet style then setParagraphs style fuel oldIndent rest (p.copy style first)
    else
      let (count, other) := paragraphRest style first oldIndent rest
      let lines := first :: rest.take count
      let read := lines.map fun l =>
        lineWords style.isUniform l.isEnded l.rest.length l.column l.rest
      let words := closeWords (read.flatMap (·.1))
      let next := rest.drop count
      let hasTabs := read.any (·.2) || lines.any (·.hasTabs) || (next.head?.any (·.hasTabs))
      let p := { p with hasTabs := p.hasTabs || hasTabs, lastLength := 0 }
      let breaks := bestBreaks style first.column other 0 [] words
      let p := p.putLines style first.leadIndent other words.length first.column words breaks
      setParagraphs style fuel other next p

def columnsOf (most : Nat) (text : List Char) : Except (List Char) Nat :=
  let complaint := "invalid width: ".toList ++ inMarks text
  match natural? text with
  | some n =>
    if n ≤ most then .ok n
    else .error (complaint ++ ": Numerical result out of range".toList)
  | none => .error complaint

def paragraphStyle (o : Options) : Except (List Char) ParagraphStyle := do
  let told ← (o.value? 'w').mapM (columnsOf 2500)
  let goal ← (o.value? 'g').mapM (columnsOf (told.getD 75))
  let width := match told, goal with
    | some n, _ => n
    | none, some goal => goal + 10
    | none, none => 75
  let lead := (o.value? 'p').getD []
  let body := lead.dropWhile (· = ' ')
  let bare := (body.reverse.dropWhile (· = ' ')).reverse
  return {
    width, goal := goal.getD (width * 187 / 200), lead := bare
    leadSpace := lead.length - body.length, leadWidth := body.length
    isCrown := o.has 'c', isTagged := o.has 't', onlySplits := o.has 's', isUniform := o.has 'u' }

/-- Sets the paragraphs of files in lines of nearly equal length. -/
def fmt : Utility := fun s arguments =>
  let arguments := match arguments with
    | ('-' :: c :: digits) :: rest =>
      if c.isDigit then ['-', 'w'] :: (c :: digits) :: rest else arguments
    | _ => arguments
  withOptions
    { plain := "cstu", valued := "wgp"
      words := [("crown-margin", 'c'), ("tagged-paragraph", 't'), ("split-only", 's'),
        ("uniform-spacing", 'u'), ("prefix", 'p'), ("width", 'w'), ("goal", 'g')] } 1
    (fun s o =>
      match paragraphStyle o with
      | .error complaint => s.failing 1 complaint
      | .ok style =>
        let results := (s.readAll o.operands).map fun (name, text) =>
          match text with
          | .ok text =>
            let lines := (fullLines text).map (ParagraphLine.ofText style)
            (({ text := (setParagraphs style (lines.length + 1) 0 lines {}).text.reverse }
              : Saying), true)
          | .error .isDirectory => (s.complaint "read error".toList, false)
          | .error reason =>
            (s.complaint ("cannot open ".toList ++ inMarks name ++ " for reading: ".toList ++
              reason.reason.toList), false)
        { said := results.map (·.1), status := if results.all (·.2) then 0 else 1
          left := leftAfter o.operands })
    s arguments

end BoardBind.Script
