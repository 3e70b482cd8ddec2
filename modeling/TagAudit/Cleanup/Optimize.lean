import TagAudit.Cleanup.Removal
import TagAudit.Cleanup.Rename
import TagAudit.Text.Digit

namespace TagAudit

namespace Cleanup

/-- For the identifiers of removed triggers those of the kept ones. -/
def triggerRenames (pairs : List Pair) : List (String × String) :=
  pairs.map fun p => (p.duplicate.idOf .triggers, p.keep.idOf .triggers)

/-- A reference to a trigger, to the kept one in place of a removed one. -/
def remapTrigger (renames : List (String × String)) (id : Json) : Json :=
  match latest? renames id.text with
  | some kept => kept
  | none => id

/-- References to triggers, each once. -/
def remapTriggers (renames : List (String × String)) (ids : List Json) : Except Fault (List Json) := do
  return (distinct (← (ids.map (remapTrigger renames)).mapM Json.scalar)).map Scalar.toJson

def remapField (renames : List (String × String)) (tag : List (String × Json)) (field : String) :
    Except Fault (List (String × Json)) :=
  match Json.lookup tag field with
  | some (.arr ids) => do return Json.assign tag field (.arr (← remapTriggers renames ids))
  | _ => .ok tag

/-- A tag that refers to the kept triggers. -/
def remapTag (renames : List (String × String)) (tag : Json) : Except Fault Json :=
  match tag with
  | .obj fields => do
    let firing ← remapField renames fields "firingTriggerId"
    return .obj (← remapField renames firing "blockingTriggerId")
  | _ => .error .notObject

/-- Applies a change to the entries of an array of a version, if it is a list. -/
def changeItems (version : List (String × Json)) (key : String)
    (change : List Json → Except Fault (List Json)) : Except Fault (List (String × Json)) :=
  match Json.lookup version key with
  | some (.arr items) => do return Json.assign version key (.arr (← change items))
  | _ => .ok version

/-- For the names of removed variables those of the kept ones. Names are collected as keys. -/
def variableRenames (pairs : List Pair) : Except Fault (List (Scalar × Json)) :=
  (pairs.filter fun p => (p.duplicate.get "name").holds && (p.keep.get "name").holds).mapM fun p => do
    return (← (p.duplicate.get "name").scalar, p.keep.get "name")

/-- Only texts can be looked for in references. -/
def writtenRenames (renames : List (Scalar × Json)) : Except Fault (List (String × Json)) :=
  renames.mapM fun (old, new) =>
    match old with
    | .str name => .ok (name, new)
    | _ => .error .notJoinable

/-- The table of renames; a name that occurs again gets a new replacement in its place. -/
def renameTable (renames : List (String × Json)) : Text.Renames :=
  (renames.foldl (fun table (old, new) => put table old new) []).map fun (old, new) =>
    (old.toList, new.text?.map String.toList)

/-- The arrays whose entities may refer to variables. -/
def referringKeys : List String := ["tag", "trigger", "variable", "client"]

def renameItems (table : Text.Renames) (items : List Json) : Except Fault (List Json) :=
  if items.all (Json.renamable table) then .ok (items.map (Json.renameReferences table))
  else .error .notJoinable

/-- Makes all references to removed triggers and variables refer to the kept ones. -/
def redirect (version : List (String × Json)) (triggers : List (String × String))
    (renamed : List (Scalar × Json)) : Except Fault (List (String × Json)) := do
  let remapped ← changeItems version "tag" fun items => items.mapM (remapTag triggers)
  let table := renameTable (← writtenRenames renamed)
  referringKeys.foldlM (fun v key => changeItems v key (renameItems table)) remapped

/-- A text with its first number replaced. -/
def replaceNumber (stamp id : String) : String :=
  let cs := id.toList
  let isOther (c : Char) : Bool := !Text.isDigit c
  String.ofList (cs.takeWhile isOther ++ stamp.toList ++
    (cs.dropWhile isOther).dropWhile Text.isDigit)

/-- The identifier of a stamped version. -/
def stampedId (stamp : String) (id : Json) : String :=
  match id with
  | .str s => if s.toList.any Text.isDigit then replaceNumber stamp s else stamp
  | _ => stamp

/-- Marks a version as new. -/
def stampVersion (stamp : String) (version : List (String × Json)) : List (String × Json) :=
  let id := stampedId stamp ((Json.lookup version "containerVersionId").getD .null)
  Json.assign (Json.assign version "containerVersionId" id) "fingerprint" stamp

end Cleanup

/-- What cleaning up gives: the log, and the version where all of it could be used. -/
structure Optimized where
  changes : List Change
  version : Except Fault (List (String × Json))

namespace Container

/-- Removes duplicates of every kind and redirects what refers to them. -/
def deduplicate (c : Container) (start : Cleanup) : Optimized :=
  let triggersLeft := start.removeDuplicates c .tags
  let variablesLeft := triggersLeft.removeDuplicates c .triggers
  match Cleanup.variableRenames (variablesLeft.pairs c .userVariables) with
  | .error f => ⟨variablesLeft.changes, .error f⟩
  | .ok renamed =>
    let cleaned := variablesLeft.removeDuplicates c .userVariables
    ⟨cleaned.changes, Cleanup.redirect cleaned.version
      (Cleanup.triggerRenames (triggersLeft.pairs c .triggers)) renamed⟩

/-- A container version without the entities that are unused or duplicates, as asked for. -/
def cleanUp (c : Container) (removeUnused removeDuplicates : Bool) : Optimized :=
  let start : Cleanup := ⟨c.version, []⟩
  let start := if removeUnused then start.removeUnused c else start
  if removeDuplicates then c.deduplicate start else ⟨start.changes, .ok start.version⟩

/-- The document with a cleaned and stamped version. -/
def optimizedDocument (c : Container) (o : Optimized) (stamp : String) :
    Except Fault (List (String × Json)) :=
  o.version.map fun version =>
    Json.assign c.document "containerVersion" (.obj (Cleanup.stampVersion stamp version))

end Container

end TagAudit
