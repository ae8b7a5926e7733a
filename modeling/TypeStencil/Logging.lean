import TypeStencil.Trace
import TypeStencil.Value.Order

/-!
The state of the library's logger: its level, its handlers, and whether records go on to the
handlers above it.
-/
namespace TypeStencil

inductive LogHandler where
  | styled
  | stream
  deriving DecidableEq, Repr

namespace LogHandler

def className : LogHandler → String
  | styled => "RichHandler"
  | stream => "StreamHandler"

def layout : LogHandler → String
  | styled => "%(message)s"
  | stream => "%(asctime)s %(levelname)s %(name)s: %(message)s"

end LogHandler

structure Logger where
  level : Value
  handlers : List LogHandler
  propagate : Bool
  deriving Repr

namespace Logger

/-- Before anything is configured every record is passed on. -/
def initial : Logger := ⟨.int 10, [], true⟩

def levelNames : List (String × Int) := [
  ("CRITICAL", 50), ("FATAL", 50), ("ERROR", 40), ("WARN", 30), ("WARNING", 30), ("INFO", 20),
  ("DEBUG", 10), ("NOTSET", 0)]

/-- A level is a number, kept as it is given, or a known name. -/
def levelOf (v : Value) : Except Fault Value :=
  match v with
  | .int n => .ok (.int n)
  | .bool b => .ok (.bool b)
  | .str s =>
    match levelNames.lookup s with
    | some n => .ok (.int n)
    | none => .error (.value (.unknownLevel s))
  | v => .error (.type (.notLevel v))

/-- Sets the level and then replaces all handlers by one. A level that is refused changes
nothing. -/
def configure (logger : Logger) (level : Value) (useStyles : Bool) : Except Fault Logger := do
  let level ← levelOf level
  return { logger with
    level
    handlers := [if useStyles then .styled else .stream]
    propagate := false }

/-- The level of the logger above. -/
def rootLevel : Int := 30

/-- The level that counts, which is that of the logger above where none is set. -/
def effectiveLevel (logger : Logger) : Int :=
  match logger.level.index? with
  | some n => if n = 0 then rootLevel else n
  | none => rootLevel

def isEnabledFor (logger : Logger) (level : Int) : Bool :=
  logger.effectiveLevel ≤ level

end Logger

end TypeStencil
