namespace TagAudit

/-- What stands at a path. -/
inductive Entry where
  | missing
  /-- A file stands where the path needs a directory. -/
  | blocked
  | directory
  | file (octets : ByteArray)

def Entry.exists : Entry → Bool
  | directory | file _ => true
  | _ => false

/-- What a command does, one step after the other. -/
inductive Program (α : Type) where
  | done (result : α)
  | stop (status : Nat)
  | look (path : String) (next : Entry → Program α)
  /-- Makes a directory and those above it; tells whether it is there. -/
  | makeDirectory (path : String) (next : Bool → Program α)
  /-- Writes a file; tells whether that was possible. -/
  | write (path text : String) (next : Bool → Program α)
  | say (line : String) (next : Program α)
  /-- Says something that does not belong to the output. -/
  | complain (line : String) (next : Program α)

namespace Program

variable {α β : Type}

def bind : Program α → (α → Program β) → Program β
  | done a, f => f a
  | stop status, _ => stop status
  | look path next, f => look path fun entry => (next entry).bind f
  | makeDirectory path next, f => makeDirectory path fun made => (next made).bind f
  | write path text next, f => write path text fun written => (next written).bind f
  | say line next, f => say line (next.bind f)
  | complain line next, f => complain line (next.bind f)

instance : Monad Program where
  pure := done
  bind := bind

def lookAt (path : String) : Program Entry := look path done

def make (path : String) : Program Bool := makeDirectory path done

def save (path text : String) : Program Bool := write path text done

def print (line : String) : Program Unit := say line (done ())

def printAll (lines : List String) : Program Unit := lines.forM print

def warn (line : String) : Program Unit := complain line (done ())

/-- Ends the program where it stands. -/
def exit (status : Nat) : Program α := stop status

end Program

end TagAudit
