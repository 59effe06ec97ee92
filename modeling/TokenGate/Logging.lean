import TokenGate.Text.Blank
import TokenGate.Text.Capital

/-! Levels of the log. Names are read without regard to case and to blanks around them; an
unknown name means the level of information. Network libraries never tell less than
warnings' worth. -/

set_option autoImplicit false

namespace TokenGate.Logging

def information : Nat := 20

def warning : Nat := 30

def levels : List (String × Nat) :=
  [("CRITICAL", 50), ("FATAL", 50), ("ERROR", 40), ("WARNING", warning), ("WARN", warning),
   ("INFO", information), ("DEBUG", 10), ("NOTSET", 0)]

def level (name : String) : Nat :=
  let name := String.ofList (Text.capitals (Text.trim name.toList))
  (levels.lookup name).getD information

def networkLevel (level : Nat) : Nat := max level warning

end TokenGate.Logging
