import BoardBind.Proofs.Bindings.RoundTrip
import BoardBind.Proofs.Selection.Restore

/-! # What decides the bindings that are restored

Every line of a wrapper is read for bindings, those of its owner included, and the last binding that is
admitted for a bit decides. So the preserved statements decide before the lines between the regions,
these decide before the preserved declarations, and the lines before the regions decide last.
-/

namespace BoardBind

open Text

variable {s : Selection} {board : Board} {w : Wrapper} {kept other : List String} {i : Nat}

/-- The bits of a selection after the bindings of a wrapper's file were restored. -/
def restoredBits (s : Selection) (board : Board) (w : Wrapper) (kept : List String) : List PortBit :=
  (s.restore board
    (readBindings w.language (render (Builtin.top.text w.language) w kept).toList)).2.bits

/-- The signal that a wrapper's file gives to a bit, by the first of its parts in which a binding is
admitted for the bit. -/
def decidedSignal? (s : Selection) (board : Board) (w : Wrapper) (kept : List String) (i : Nat) :
    Option String :=
  let last (bindings : List Binding) := s.lastSignal? board bindings i
  let preserved (region : Nat) := readBindings w.language (kept[region]?.getD "").toList
  (last (preserved 1)).or <| (last (writtenBindings w.language w.body)).or <|
    (last (preserved 0)).or (last (writtenBindings w.language w.heading))

theorem restoredBits_eq_mapIdx : restoredBits s board w kept =
    s.bits.mapIdx fun i bit => bit.rebound (decidedSignal? s board w kept i) := by
  have decided : s.lastSignal? board
      (readBindings w.language (render (Builtin.top.text w.language) w kept).toList) =
        decidedSignal? s board w kept := by
    funext i
    simp only [readBindings_render_top, Selection.lastSignal?_append, decidedSignal?]
  rw [restoredBits, Selection.restore_snd, decided]
  rfl

theorem PortBit.rebound_eq_bind {bit : PortBit} {signal? : Option String} :
    bit.rebound signal? = bit.bind (signal?.getD bit.signal) := by
  cases signal? <;> rfl

theorem PortBit.bind_eq_iff {bit : PortBit} {first second : String} :
    bit.bind first = bit.bind second ↔ first = second :=
  ⟨congrArg PortBit.signal, congrArg bit.bind⟩

/-- What is preserved in a wrapper's file leaves the restored bindings as they are exactly if it leaves
every bit with the same deciding signal. -/
theorem restoredBits_eq_iff :
    restoredBits s board w kept = restoredBits s board w other ↔
      ∀ i (bound : i < s.bits.length),
        (decidedSignal? s board w kept i).getD s.bits[i].signal =
          (decidedSignal? s board w other i).getD s.bits[i].signal := by
  rw [restoredBits_eq_mapIdx, restoredBits_eq_mapIdx, List.ext_getElem_iff]
  simp only [List.length_mapIdx, List.getElem_mapIdx, PortBit.rebound_eq_bind, PortBit.bind_eq_iff,
    true_and]
  exact ⟨fun same i bound => same i bound bound, fun same i bound _ => same i bound⟩

/-- A unit with one output that is bound to a lamp. -/
def blinkyWrapper : Wrapper where
  language := .vhdl
  unit := "blinky"
  ports := [.declare .vhdl "led" .output none]
  bits := [⟨"led", .output, "LD(0)"⟩]
  defaults := []

/-- The design of that unit, with nothing bound. -/
def blinkySelection : Selection :=
  .initial
    { language := .vhdl
      graph := Graph.empty.addNode
        ⟨.declare .vhdl "blinky" "blinky.vhd", [.declare .vhdl "led" .output none]⟩
      items := [⟨0, "blinky", "blinky.vhd"⟩]
      suggested := "blinky" }

/-- A note of the owner among the statements. -/
def lampNote : List String := ["", "    -- led => LD(5) on the old board\n"]

theorem named_blinkyWrapper : blinkyWrapper.Named := by
  have led : Language.vhdl.IsName "led" := ⟨by decide, by decide⟩
  have lamp : Language.vhdl.IsBitName (Language.vhdl.index "LD" 0) :=
    .selected ⟨by decide, by decide⟩ 0
  constructor
  case unit => decide
  case ports | board => decide
  case bits => exact List.forall_mem_singleton.mpr (.whole led)
  case signals => exact List.forall_mem_singleton.mpr fun _ => lamp
  case defaults => exact fun _ member => absurd member List.not_mem_nil

/-- A comment between the markers binds the output to another lamp. -/
theorem restoredBits_lampNote :
    (∀ text ∈ lampNote, ∀ line ∈ lines text.toList,
        ¬ (isRegionMarker "vvv" line ∨ isRegionMarker "^^^" line)) ∧
      restoredBits blinkySelection Board.standard blinkyWrapper [] =
        [⟨"led", .output, "LD(0)"⟩] ∧
      restoredBits blinkySelection Board.standard blinkyWrapper lampNote =
        [⟨"led", .output, "LD(5)"⟩] := by
  have unmarked : blinkyWrapper.Unmarked := fun verilog => by cases verilog
  have read (kept : List String) := named_blinkyWrapper.readBindings_render unmarked kept
  refine ⟨by decide +kernel, ?_, ?_⟩
  · rw [restoredBits, read]
    decide +kernel
  · rw [restoredBits, read]
    decide +kernel

end BoardBind
