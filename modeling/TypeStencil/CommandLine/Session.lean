import TypeStencil.CommandLine.Arguments
import TypeStencil.Display.Listing
import TypeStencil.Display.Table
import TypeStencil.Generation
import TypeStencil.Logging
import TypeStencil.Source.Loader

/-!
A session of the command line: the width of its terminal, what it prints, what it does to the file
system, and the trace it leaves. What has been done stays done when a later step fails.
-/
namespace TypeStencil

structure Session where
  width : Nat
  files : FileSystem
  output : String
  events : List Event

/-- A step of a session. -/
abbrev Action := ExceptT Fault (StateM Session)

namespace Action

variable {α : Type}

def files : Action FileSystem := do
  return (← get).files

/-- Goes on with a computation and keeps its trace. -/
def ofTraced (t : Traced α) : Action α := do
  modify fun s => { s with events := s.events ++ t.events }
  ExceptT.mk (pure t.result)

def of (r : Except Fault α) : Action α :=
  ExceptT.mk (pure r)

def log (level : LogLevel) (message : String) : Action Unit :=
  ofTraced (Traced.log level message)

def printLine (line : List Char) : Action Unit :=
  modify fun s => { s with output := s.output ++ String.ofList line ++ "\n" }

def printLines (lines : List (List Char)) : Action Unit :=
  lines.forM printLine

/-- Prints a message with style tags. -/
def print (message : String) : Action Unit := do
  printLines (← of ((Display.messageLines (← get).width message).mapError .markup))

/-- Makes the directories of a path. Those made before a failure stay. -/
def ensureDirectories (p : FilePath) : Action Unit := do
  let (files, result) := (← files).ensureDirectories p
  modify fun s => { s with files }
  of (result.mapError .file)

def writeText (p : FilePath) (text : String) : Action Unit := do
  let files ← of (((← files).write p (utf8Bytes text)).mapError .file)
  modify fun s => { s with files }

end Action

end TypeStencil
