import BoardBind.Language
import BoardBind.Text.Lines

/-! # Built-in templates

The templates of the wrapper that binds a design to a board, of a testbench, and of the skeleton
of a new design unit, in each language.
-/

namespace BoardBind

/-- The kinds of files that are generated. -/
inductive Builtin where
  | top
  | testbench
  | skeleton
  deriving DecidableEq

namespace Builtin

def templateLines : Builtin → Language → List String
  | .top, .vhdl => [
    "-- Generated by hdltop. Only the regions between the \"vvv\" and \"^^^\" markers",
    "-- are kept when this file is generated again.",
    "",
    "library ieee;",
    "use ieee.std_logic_1164.all;",
    "",
    "entity dr_top is",
    "-- USER_BOARD",
    "end dr_top;",
    "",
    "architecture rtl of dr_top is",
    "-- USER_COMPONENT",
    "-- vvv user declarations vvv",
    "-- ^^^ user declarations ^^^",
    "begin",
    "-- USER_INSTANCE",
    "-- vvv user statements vvv",
    "-- ^^^ user statements ^^^",
    "end rtl;"]
  | .top, .verilog => [
    "// Generated by hdltop. Only the regions between the \"vvv\" and \"^^^\" markers",
    "// are kept when this file is generated again.",
    "",
    "module dr_top (",
    "// USER_BOARD",
    ");",
    "// USER_SIGNAL_PREFIX",
    "// vvv user declarations vvv",
    "// ^^^ user declarations ^^^",
    "// USER_INSTANCE_PREFIX",
    "// vvv user statements vvv",
    "// ^^^ user statements ^^^",
    "endmodule"]
  | .testbench, .vhdl => [
    "-- Generated by hdltop. Only the regions between the \"vvv\" and \"^^^\" markers",
    "-- are kept when this file is generated again.",
    "",
    "library ieee;",
    "use ieee.std_logic_1164.all;",
    "",
    "entity dr_testbench is",
    "end dr_testbench;",
    "",
    "architecture sim of dr_testbench is",
    "-- USER_COMPONENT",
    "-- USER_SIGNAL",
    "    constant PERIOD : time := 10 ns;",
    "-- vvv user declarations vvv",
    "-- ^^^ user declarations ^^^",
    "begin",
    "-- USER_UUT",
    "-- vvv stimulus vvv",
    "    process",
    "    begin",
    "        wait for PERIOD * 10;",
    "        wait;",
    "    end process;",
    "-- ^^^ stimulus ^^^",
    "end sim;"]
  | .testbench, .verilog => [
    "// Generated by hdltop. Only the regions between the \"vvv\" and \"^^^\" markers",
    "// are kept when this file is generated again.",
    "",
    "`timescale 1ns / 1ps",
    "",
    "module dr_testbench;",
    "// USER_SIGNAL",
    "    localparam PERIOD = 10;",
    "// vvv user declarations vvv",
    "// ^^^ user declarations ^^^",
    "// USER_UUT",
    "// vvv stimulus vvv",
    "    initial begin",
    "        #(PERIOD * 10);",
    "        $finish;",
    "    end",
    "// ^^^ stimulus ^^^",
    "endmodule"]
  | .skeleton, .vhdl => [
    "library ieee;",
    "use ieee.std_logic_1164.all;",
    "",
    "entity DR_ENTITY_NAME is",
    "    port (",
    "-- USER_PORT",
    "    );",
    "end DR_ENTITY_NAME;",
    "",
    "architecture rtl of DR_ENTITY_NAME is",
    "begin",
    "",
    "end rtl;"]
  | .skeleton, .verilog => [
    "module DR_ENTITY_NAME (",
    "// USER_PORT",
    ");",
    "",
    "endmodule"]

def text (kind : Builtin) (lang : Language) : String :=
  Text.unlines (kind.templateLines lang)

def topFile (lang : Language) : String :=
  "dr_top." ++ lang.defaultExtension

def testbenchFile (lang : Language) : String :=
  "dr_testbench." ++ lang.defaultExtension

/-- The name of the generated file; that of a skeleton depends on its unit. -/
def fileName? : Builtin → Language → Option String
  | .top, lang => some (topFile lang)
  | .testbench, lang => some (testbenchFile lang)
  | .skeleton, _ => none

end Builtin

end BoardBind
