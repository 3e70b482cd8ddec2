import TagAudit.Command.Program
import TagAudit.Path

namespace TagAudit

/-- Files and directories, each by the names on the way to it from the root. -/
structure Disk where
  files : List (List String × ByteArray)
  directories : List (List String)
  /-- Where paths start that do not start at the root. -/
  working : List String

namespace Disk

/-- A directory in which nothing is yet. -/
def empty (working : List String) : Disk :=
  ⟨[], (List.range (working.length + 1)).map working.take, working⟩

def fileAt? (d : Disk) (way : List String) : Option ByteArray := d.files.lookup way

def hasDirectory (d : Disk) (way : List String) : Bool := d.directories.contains way

def entryAt (d : Disk) (way : List String) : Entry :=
  if d.hasDirectory way then .directory
  else
    match d.fileAt? way with
    | some octets => .file octets
    | none => .missing

def start (d : Disk) (path : String) : List String :=
  if Text.startsWith path "/" then [] else d.working

/-- The way that the parts of a path lead from a directory. The last part may be missing, the others
have to be directories. -/
def walk (d : Disk) (way : List String) : List String → Except Entry (List String)
  | [] => .ok way
  | part :: rest =>
    match d.entryAt way with
    | .directory =>
      if part == "." then d.walk way rest
      else if part == ".." then d.walk way.dropLast rest
      else d.walk (way ++ [part]) rest
    | .file _ => .error .blocked
    | _ => .error .missing

/-- What stands at a path; one that ends in a slash leads to a directory. -/
def look (d : Disk) (path : String) : Entry :=
  if path.isEmpty then .missing
  else
    match d.walk (d.start path) (Path.parts path) with
    | .error entry => entry
    | .ok way =>
      match d.entryAt way with
      | .file octets => if Text.endsWith path "/" then .blocked else .file octets
      | entry => entry

/-- Writes a file if its directory is there. -/
def write (d : Disk) (path : String) (octets : ByteArray) : Option Disk :=
  if path.isEmpty || Text.endsWith path "/" then none
  else
    match d.walk (d.start path) (Path.parts path) with
    | .error _ => none
    | .ok way =>
      if d.hasDirectory way || !d.hasDirectory way.dropLast then none
      else some { d with files := (way, octets) :: d.files.filter fun (other, _) => other != way }

/-- Makes the directories on the way along some parts. -/
def makeAlong (d : Disk) (way : List String) : List String → Option Disk
  | [] => some d
  | part :: rest =>
    if part == "." then d.makeAlong way rest
    else if part == ".." then d.makeAlong way.dropLast rest
    else
      let next := way ++ [part]
      match d.entryAt next with
      | .directory => d.makeAlong next rest
      | .missing => { d with directories := next :: d.directories }.makeAlong next rest
      | _ => none

def makeDirectory (d : Disk) (path : String) : Option Disk :=
  if path.isEmpty then none else d.makeAlong (d.start path) (Path.parts path)

end Disk

/-- What a program has done on a disk: its result or its status, the disk afterwards, its output
and its complaints. -/
structure Outcome (α : Type) where
  result : Except Nat α
  disk : Disk
  output : List String
  complaints : List String

/-- Runs a program on a disk. -/
def Program.runOn {α : Type} (d : Disk) : Program α → Outcome α
  | done a => ⟨.ok a, d, [], []⟩
  | stop status => ⟨.error status, d, [], []⟩
  | look path next => (next (d.look path)).runOn d
  | makeDirectory path next =>
    match d.makeDirectory path with
    | some d => (next true).runOn d
    | none => (next false).runOn d
  | write path text next =>
    match d.write path text.toUTF8 with
    | some d => (next true).runOn d
    | none => (next false).runOn d
  | say line next => let o := next.runOn d; { o with output := line :: o.output }
  | complain line next => let o := next.runOn d; { o with complaints := line :: o.complaints }

/-- The status that a program ends with. -/
def Outcome.status {α : Type} (o : Outcome α) : Nat :=
  match o.result with
  | .ok _ => 0
  | .error status => status

end TagAudit
