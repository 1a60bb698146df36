/-! # Notes

What happens on the way to a result is noted for the user, at one of three levels.
-/

namespace BoardBind

/-- How much a note matters. -/
inductive Level where
  | debug
  | info
  | warn
  deriving DecidableEq

def Level.display : Level → String
  | .debug => "DEBUG"
  | .info => "INFO"
  | .warn => "WARN"

structure Note where
  level : Level
  text : String
  deriving DecidableEq

namespace Note

def debug (text : String) : Note := ⟨.debug, text⟩

def info (text : String) : Note := ⟨.info, text⟩

def warn (text : String) : Note := ⟨.warn, text⟩

/-- Whether a note is shown: warnings always, the others when asked for. -/
def isShown (verbose : Bool) (note : Note) : Bool :=
  verbose || note.level = .warn

end Note

/-- A computation that may fail, with the notes it made until then. -/
structure Noted (ε α : Type) where
  notes : List Note
  result : Except ε α

namespace Noted

variable {ε α β : Type}

def pure (value : α) : Noted ε α := ⟨[], .ok value⟩

/-- Continues after success and keeps the notes of both parts. -/
def bind (first : Noted ε α) (next : α → Noted ε β) : Noted ε β :=
  match first.result with
  | .ok value => ⟨first.notes ++ (next value).notes, (next value).result⟩
  | .error e => ⟨first.notes, .error e⟩

instance : Monad (Noted ε) where
  pure := pure
  bind := bind

def say (notes : List Note) : Noted ε Unit := ⟨notes, .ok ()⟩

def lift (result : Except ε α) : Noted ε α := ⟨[], result⟩

def fail (e : ε) : Noted ε α := ⟨[], .error e⟩

/-- Changes how a failure is reported. -/
def mapError {ε' : Type} (f : ε → ε') (x : Noted ε α) : Noted ε' α :=
  ⟨x.notes, x.result.mapError f⟩

end Noted

end BoardBind
