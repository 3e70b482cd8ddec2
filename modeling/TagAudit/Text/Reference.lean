import TagAudit.Text.Blank
import TagAudit.Text.Search

namespace TagAudit.Text

/-- The name of the reference that a text starts with: two opening braces, a name without closing
braces, two closing braces. -/
def referenceAt (s : List Char) : Option (List Char) :=
  match s with
  | '\x7b' :: '\x7b' :: rest =>
    let name := rest.takeWhile (· ≠ '\x7d')
    if !name.isEmpty && ['\x7d', '\x7d'].isPrefixOf (rest.drop name.length) then some name else none
  | _ => none

/-- The names of the references in a text, from left to right, none inside another. -/
def referencesFrom : (skip : Nat) → List Char → List (List Char)
  | _, [] => []
  | skip + 1, _ :: rest => referencesFrom skip rest
  | 0, c :: rest =>
    match referenceAt (c :: rest) with
    | some name => name :: referencesFrom (name.length + 3) rest
    | none => referencesFrom 0 rest

/-- The names referenced in a text without the blanks around them; blank names do not count. -/
def references (text : String) : List String :=
  ((referencesFrom 0 text.toList).map trim).filterMap fun name =>
    if name.isEmpty then none else some (String.ofList name)

/-- A reference to a name. -/
def reference (name : String) : String := "\x7b\x7b" ++ name ++ "\x7d\x7d"

/-- What replaces the names of references. A name may have no replacement that can be written. -/
abbrev Renames := List (List Char × Option (List Char))

/-- The rename that applies to the reference a text starts with: of the names that the reference
starts with and that its closing braces follow, the first. -/
def renameAt (renames : Renames) (s : List Char) : Option (List Char × Option (List Char)) :=
  match s with
  | '\x7b' :: '\x7b' :: rest =>
    renames.find? fun (old, _) => (old ++ ['\x7d', '\x7d']).isPrefixOf rest
  | _ => none

/-- The size of the reference that a text starts with, and the reference that replaces it. -/
def replacementAt (renames : Renames) (s : List Char) : Option (Nat × List Char) :=
  (renameAt renames s).map fun (old, new) =>
    (old.length + 4, (reference (String.ofList (new.getD old))).toList)

/-- The text with its references renamed. -/
def rename (renames : Renames) (text : String) : String :=
  String.ofList (rewrite (replacementAt renames) text.toList)

def meetsUnwritable (renames : Renames) : (skip : Nat) → List Char → Bool
  | _, [] => false
  | skip + 1, _ :: rest => meetsUnwritable renames skip rest
  | 0, c :: rest =>
    match renameAt renames (c :: rest) with
    | some (old, new) => new.isNone || meetsUnwritable renames (old.length + 3) rest
    | none => meetsUnwritable renames 0 rest

/-- Whether every rename that a text asks for can be written. -/
def renamable (renames : Renames) (text : String) : Bool := !meetsUnwritable renames 0 text.toList

end TagAudit.Text
