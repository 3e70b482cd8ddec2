import TagAudit.Command.Program
import TagAudit.Container
import TagAudit.Moment

namespace TagAudit

/-- Where and when a command runs. -/
structure Setup where
  directory : String
  now : Moment

/-- Why a stage of a command fails. -/
inductive Failure where
  | invalid (e : InvalidContainer)
  | unreadable (path : String) (found : Entry)
  /-- The octets of a file are no UTF-8. -/
  | undecodable (path : String)
  | unread (e : ReadError)
  | unwritable (path : String)
  | fault (f : Fault)

def Failure.message : Failure → String
  | invalid e => e.message
  | unreadable path .missing => "there is no file '" ++ path ++ "'"
  | unreadable path _ => "'" ++ path ++ "' cannot be read"
  | undecodable path => "'" ++ path ++ "' is no text"
  | unread e => e.message
  | unwritable path => "'" ++ path ++ "' cannot be written"
  | fault f => f.message

/-- A part of a command that may fail. -/
abbrev Stage := ExceptT Failure Program

namespace Stage

variable {α : Type}

def ofExcept (r : Except Fault α) : Stage α := ExceptT.mk (pure (r.mapError .fault))

def say (lines : List String) : Stage Unit := Program.printAll lines

def readText (path : String) : Stage String := do
  match ← Program.lookAt path with
  | .file octets =>
    match String.fromUTF8? octets with
    | some text => return text
    | none => throw (.undecodable path)
  | found => throw (.unreadable path found)

def readContainer (path : String) (includePaused : Bool) : Stage Container := do
  match Json.read (← readText path) with
  | .error .malformed => throw (.invalid ⟨.notJson ReadError.malformed.message, some path⟩)
  | .error e => throw (.unread e)
  | .ok document =>
    match Container.ofJson document includePaused (some path) with
    | .ok c => return c
    | .error e => throw (.invalid e)

def saveText (path text : String) : Stage Unit := do
  if !(← Program.save path text) then throw (.unwritable path)

end Stage

/-- Ends a command that has failed for a reason nobody expects. -/
def Program.fail {α : Type} (f : Failure) : Program α := do
  warn f.message
  exit 1

end TagAudit
