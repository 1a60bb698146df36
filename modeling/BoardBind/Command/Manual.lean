/-! # Usage and manual texts

The texts that the commands print about themselves, line by line.
-/

namespace BoardBind.Command

def mainUsage : List String := [
  "Hdltop binds an hdl design to the signals of a development board.",
  "",
  "Usage:",
  "    hdltop [options] [command]",
  "",
  "Commands:",
  "    check           analyze the sources and print the design hierarchy",
  "    gen             generate the top-level wrapper for the board",
  "    new             create a design skeleton with the given ports",
  "    help            print help information about a command",
  "",
  "Options:",
  "    --version       print version information and exit",
  "    --verbose       print debug information while running",
  "    --color <when>  coloring: auto, always, never",
  "    --help, -h      print help information",
  "",
  "Use 'hdltop help <command>' for more information about a command."]

/-- The usage of the command that prints the design hierarchy. -/
def checkUsage : List String := [
  "Analyze the sources and print the design hierarchy.",
  "",
  "Usage:",
  "    hdltop check [options]",
  "",
  "Options:",
  "    --dir <path>            directory holding the hdl sources",
  "    --lang <lang>           source language: vhdl, verilog",
  "    --top <unit>            select the top-level design unit",
  "    --ascii                 draw the tree with ascii characters only",
  "    --json                  print the analysis as json",
  "",
  "Use 'hdltop help check' to read more about the command."]

/-- The manual of the command that prints the design hierarchy. -/
def checkManual : List String := [
  "Every source file of the directory is parsed for its design units, their",
  "ports and the units they instantiate. Units without ports are treated as",
  "testbenches and left out. The remaining units are arranged into instantiation",
  "trees, listed from each unit that no other unit instantiates.",
  "",
  "The top-level unit is the one given by '--top', or by the 'top' key of the",
  "project configuration. Otherwise the root of the largest tree is suggested.",
  "",
  "After the tree, every bit of the top-level unit's ports is listed along with",
  "the board signal it is assigned to. Assignments come from the [assign] table",
  "of hdltop.toml and from a previously generated wrapper.",
  "",
  "Examples:",
  "    hdltop check",
  "    hdltop check --dir ./rtl --lang verilog --top counter"]

def genUsage : List String := [
  "Generate the top-level wrapper for the board.",
  "",
  "Usage:",
  "    hdltop gen [options]",
  "",
  "Options:",
  "    --dir <path>            directory holding the hdl sources",
  "    --lang <lang>           source language: vhdl, verilog",
  "    --top <unit>            select the top-level design unit",
  "    --testbench <dir>       also create a testbench skeleton in the directory",
  "    --force                 overwrite an existing testbench",
  "",
  "Use 'hdltop help gen' to read more about the command."]

def genManual : List String := [
  "Writes the wrapper that instantiates the top-level unit and binds its port",
  "bits to the board's signals. Board outputs left unassigned are driven to their",
  "idle level. Two ports may never share one board signal; the wrapper is left",
  "untouched in that case.",
  "",
  "Code placed between the 'vvv' and '^^^' comment lines of an existing wrapper",
  "is carried over into the regenerated file. Assignments made in the existing",
  "wrapper are restored unless hdltop.toml assigns the port differently.",
  "",
  "Examples:",
  "    hdltop gen",
  "    hdltop gen --top counter --testbench ./sim"]

def newUsage : List String := [
  "Create a design skeleton with the given ports.",
  "",
  "Usage:",
  "    hdltop new [options] <unit>",
  "",
  "Args:",
  "    <unit>                  name of the new design unit",
  "",
  "Options:",
  "    --port <spec>...        add a port as <name>:<in|out>[:<width>]",
  "    --lang <lang>           source language: vhdl, verilog",
  "    --output <file>         destination file (default: <unit>.<ext>)",
  "    --force                 overwrite an existing file",
  "",
  "Use 'hdltop help new' to read more about the command."]

def newManual : List String := [
  "Names are checked against the identifier rules and reserved words of the",
  "selected language before anything is written. A port without a width is a",
  "single bit.",
  "",
  "Examples:",
  "    hdltop new counter --port clk:in --port rst:in --port count:out:8",
  "    hdltop new blinky --lang verilog --port led:out:4"]

def helpUsage : List String := [
  "Read in-depth documentation around hdltop topics.",
  "",
  "Usage:",
  "    hdltop help [options] [<topic>]",
  "",
  "Args:",
  "    <topic>         a listed topic or any hdltop subcommand",
  "",
  "Options:",
  "    --list          view list of available topics",
  "",
  "Use 'hdltop help' to read more about the tool."]

end BoardBind.Command
