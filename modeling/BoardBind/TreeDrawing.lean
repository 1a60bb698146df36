/-! # Drawing a listed tree

A tree is given as the list of its nodes' depths in preorder. Every entry gets a twig, a chain that
leads from the entry up to its root. The prefix of an entry is written from its end to its start
along this chain and turned around.
-/

namespace BoardBind

/-- An entry of a listed tree, with that of its parent: the last child of its parent, or one that a
sibling follows. A root has no parent. -/
inductive Twig where
  | endLeaf (upper : Option Twig)
  | midBranch (upper : Option Twig)

namespace Twig

/-- Whether an entry of depth `level` is followed by a sibling before its branch closes. -/
def continues (level : Nat) (later : List Nat) : Bool :=
  later.find? (· ≤ level) = some level

/-- The twigs of the entries from the given depths on. `opened` holds the twigs of the latest entries
at each depth. -/
def shapesFrom (opened : List Twig) : List Nat → List Twig
  | [] => []
  | level :: later =>
    let kept := opened.take level
    let twig :=
      match kept.getLast? with
      | none => endLeaf none
      | some upper => if continues level later then midBranch (some upper) else endLeaf (some upper)
    twig :: shapesFrom (kept ++ [twig]) later

/-- The twig of every entry of a listed tree. -/
def shapes (levels : List Nat) : List Twig :=
  shapesFrom [] levels

/-- What an entry adds to the prefixes below it, from right to left. A root adds nothing. -/
def cell : Twig → String
  | endLeaf upper => if upper.isSome then "   " else ""
  | midBranch upper => if upper.isSome then "  │" else ""

/-- Goes up from an entry and adds the cells on the way. -/
def climb (space : String) : Twig → String
  | endLeaf none => space
  | midBranch none => space
  | endLeaf (some upper) => climb (space ++ upper.cell) upper
  | midBranch (some upper) => climb (space ++ upper.cell) upper

/-- What stands before an entry's own branch. -/
def space (twig : Twig) : String :=
  String.ofList (twig.climb "").toList.reverse

/-- The drawn prefix. -/
def draw (twig : Twig) : String :=
  match twig with
  | endLeaf none => ""
  | endLeaf (some _) => twig.space ++ "└─ "
  | midBranch _ => twig.space ++ "├─ "

/-- Replaces the line-drawing characters by ASCII ones. -/
def plain (drawing : String) : String :=
  drawing.map fun c =>
    if c = '─' then '-' else if c = '│' then '|' else if c = '├' then '+'
    else if c = '└' then '\\' else c

end Twig

end BoardBind
