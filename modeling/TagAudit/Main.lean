import TagAudit.Command.View

namespace TagAudit

/-- What stands at a path on the machine. -/
def Entry.onMachine (path : String) : IO Entry := do
  try
    return .file (← IO.FS.readBinFile path)
  catch
    | .noFileOrDirectory .. => return .missing
    | _ =>
      try
        return if ← (← IO.FS.realPath path).isDir then .directory else .blocked
      catch _ => return .blocked

def succeeds (action : IO Unit) : IO Bool := do
  try
    action
    return true
  catch _ => return false

/-- Runs a program on the machine; tells the status that it ends with. -/
def Program.onMachine {α : Type} : Program α → IO UInt32
  | done _ => return 0
  | stop status => return status.toUInt32
  | look path next => do (next (← Entry.onMachine path)).onMachine
  | makeDirectory path next => do (next (← succeeds (IO.FS.createDirAll path))).onMachine
  | write path text next => do (next (← succeeds (IO.FS.writeFile path text))).onMachine
  | say line next => do
    IO.println line
    next.onMachine
  | complain line next => do
    IO.eprintln line
    next.onMachine

/-- The time at which the machine makes a file. -/
def Moment.onMachine : IO Moment := do
  let (_, path) ← IO.FS.createTempFile
  let time := (← path.metadata).modified
  IO.FS.removeFile path
  return .ofSeconds time.sec (time.nsec.toNat / 1000)

def Setup.onMachine : IO Setup := do
  return ⟨(← IO.currentDir).toString, ← Moment.onMachine⟩

/-- The program that a command line names. Without a name it is the audit. -/
def Program.named (s : Setup) : List String → Program Unit
  | "dashboard" :: arguments => View.dashboard s arguments
  | "graph" :: arguments => View.graph s arguments
  | arguments => Audit.program s arguments

end TagAudit

def main (arguments : List String) : IO UInt32 := do
  (TagAudit.Program.named (← TagAudit.Setup.onMachine) arguments).onMachine
