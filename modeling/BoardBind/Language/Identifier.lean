import BoardBind.Language
import BoardBind.Text.Match

/-! # Identifiers

The names a design unit or a port may be given: the words of the right characters, except those that
the language keeps for itself.
-/

namespace BoardBind.Language

open Text

/-! ## Reserved words

They are listed in alphabetical order.
-/

/-- The reserved words of VHDL-93, in lower case. -/
def vhdlReserved : List String := [
  "abs", "access", "after", "alias", "all", "and", "architecture", "array", "assert", "attribute",
  "begin", "block", "body", "buffer", "bus", "case", "component", "configuration", "constant",
  "disconnect", "downto", "else", "elsif", "end", "entity", "exit", "file", "for", "function",
  "generate", "generic", "group", "guarded", "if", "impure", "in", "inertial", "inout", "is",
  "label", "library", "linkage", "literal", "loop", "map", "mod", "nand", "new", "next", "nor",
  "not", "null", "of", "on", "open", "or", "others", "out", "package", "port", "postponed",
  "procedure", "process", "pure", "range", "record", "register", "reject", "rem", "report",
  "return", "rol", "ror", "select", "severity", "shared", "signal", "sla", "sll", "sra", "srl",
  "subtype", "then", "to", "transport", "type", "unaffected", "units", "until", "use", "variable",
  "wait", "when", "while", "with", "xnor", "xor"]

/-- The reserved words of SystemVerilog, which are reserved in this spelling only. -/
def verilogReserved : List String := [
  "accept_on", "alias", "always", "always_comb", "always_ff", "always_latch", "and", "assert",
  "assign", "assume", "automatic", "before", "begin", "bind", "bins", "binsof", "bit", "break",
  "buf", "bufif0", "bufif1", "byte", "case", "casex", "casez", "cell", "chandle", "checker",
  "class", "clocking", "cmos", "config", "const", "constraint", "context", "continue", "cover",
  "covergroup", "coverpoint", "cross", "deassign", "default", "defparam", "design", "disable",
  "dist", "do", "edge", "else", "end", "endcase", "endchecker", "endclass", "endclocking",
  "endconfig", "endfunction", "endgenerate", "endgroup", "endinterface", "endmodule", "endpackage",
  "endprimitive", "endprogram", "endproperty", "endsequence", "endspecify", "endtable", "endtask",
  "enum", "event", "eventually", "expect", "export", "extends", "extern", "final", "first_match",
  "for", "force", "foreach", "forever", "fork", "forkjoin", "function", "generate", "genvar",
  "global", "highz0", "highz1", "if", "iff", "ifnone", "ignore_bins", "illegal_bins", "implements",
  "implies", "import", "incdir", "include", "initial", "inout", "input", "inside", "instance",
  "int", "integer", "interconnect", "interface", "intersect", "join", "join_any", "join_none",
  "large", "let", "liblist", "library", "local", "localparam", "logic", "longint", "macromodule",
  "matches", "medium", "modport", "module", "nand", "negedge", "nettype", "new", "nexttime",
  "nmos", "nor", "noshowcancelled", "not", "notif0", "notif1", "null", "or", "output", "package",
  "packed", "parameter", "pmos", "posedge", "primitive", "priority", "program", "property",
  "protected", "pull0", "pull1", "pulldown", "pullup", "pulsestyle_ondetect", "pulsestyle_onevent",
  "pure", "rand", "randc", "randcase", "randsequence", "rcmos", "real", "realtime", "ref", "reg",
  "reject_on", "release", "repeat", "restrict", "return", "rnmos", "rpmos", "rtran", "rtranif0",
  "rtranif1", "s_always", "s_eventually", "s_nexttime", "s_until", "s_until_with", "scalared",
  "sequence", "shortint", "shortreal", "showcancelled", "signed", "small", "soft", "solve",
  "specify", "specparam", "static", "string", "strong", "strong0", "strong1", "struct", "super",
  "supply0", "supply1", "sync_accept_on", "sync_reject_on", "table", "tagged", "task", "this",
  "throughout", "time", "timeprecision", "timeunit", "tran", "tranif0", "tranif1", "tri", "tri0",
  "tri1", "triand", "trior", "trireg", "type", "typedef", "union", "unique", "unique0", "unsigned",
  "until", "until_with", "untyped", "use", "uwire", "var", "vectored", "virtual", "void", "wait",
  "wait_order", "wand", "weak", "weak0", "weak1", "while", "wildcard", "wire", "with", "within",
  "wor", "xnor", "xor"]

def isReserved : Language → String → Bool
  | .vhdl, name => vhdlReserved.contains name.toLower
  | .verilog, name => verilogReserved.contains name

/-! ## The shape of a name -/

def hasDoubleUnderscore : List Char → Bool
  | '_' :: '_' :: _ => true
  | _ :: rest => hasDoubleUnderscore rest
  | [] => false

/-- A VHDL identifier: a letter, then word characters, with underscores only between others. -/
def isVhdlIdentifier (name : List Char) : Bool :=
  match name with
  | [] => false
  | c :: rest =>
    (caseKey c).isLower && rest.all isWordChar && !hasDoubleUnderscore name &&
      name.getLast? ≠ some '_'

def isVerilogStart (c : Char) : Bool :=
  c.isAlpha || c = '_'

def isVerilogChar (c : Char) : Bool :=
  c.isAlphanum || c = '_' || c = '$'

/-- A Verilog identifier: a letter or underscore, then letters, digits, underscores and dollars. -/
def isVerilogIdentifier : List Char → Bool
  | [] => false
  | c :: rest => isVerilogStart c && rest.all isVerilogChar

/-- Whether a name may be given to a design unit or a port. -/
def isValidName : Language → String → Bool
  | .vhdl, name => isVhdlIdentifier name.toList && !isReserved .vhdl name
  | .verilog, name => isVerilogIdentifier name.toList && !isReserved .verilog name

end BoardBind.Language
