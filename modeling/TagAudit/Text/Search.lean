namespace TagAudit.Text

/-- Whether the part stands somewhere in the text. -/
def occurs (part : List Char) : List Char → Bool
  | [] => part.isEmpty
  | c :: rest => part.isPrefixOf (c :: rest) || occurs part rest

theorem occurs_iff {part s : List Char} : occurs part s = true ↔ part <:+: s := by
  induction s with
  | nil => simp [occurs]
  | cons c rest ih => rw [occurs, Bool.or_eq_true, ih, List.isPrefixOf_iff_prefix, List.infix_cons_iff]

def contains (text part : String) : Bool := occurs part.toList text.toList

def containsAny (text : String) (parts : List String) : Bool := parts.any (contains text ·)

def startsWith (text start : String) : Bool := start.toList.isPrefixOf text.toList

def endsWith (text ending : String) : Bool := ending.toList.isSuffixOf text.toList

/-- Rewrites a text from left to right. Where the rule gives a size and a replacement, that many
characters are replaced, and reading goes on behind them. -/
def rewriteFrom (rule : List Char → Option (Nat × List Char)) : (skip : Nat) → List Char → List Char
  | _, [] => []
  | skip + 1, _ :: rest => rewriteFrom rule skip rest
  | 0, c :: rest =>
    match rule (c :: rest) with
    | some (size, replacement) => replacement ++ rewriteFrom rule (size - 1) rest
    | none => c :: rewriteFrom rule 0 rest

def rewrite (rule : List Char → Option (Nat × List Char)) (s : List Char) : List Char :=
  rewriteFrom rule 0 s

/-- The longest parts of a text without separators, in order. -/
def blocksFrom (isSeparator : Char → Bool) (block : List Char) : List Char → List (List Char)
  | [] => if block.isEmpty then [] else [block.reverse]
  | c :: rest =>
    if isSeparator c then
      if block.isEmpty then blocksFrom isSeparator [] rest
      else block.reverse :: blocksFrom isSeparator [] rest
    else blocksFrom isSeparator (c :: block) rest

def blocks (isSeparator : Char → Bool) (s : List Char) : List (List Char) :=
  blocksFrom isSeparator [] s

/-- Blanks in front up to a width. -/
def alignRight (width : Nat) (s : String) : String :=
  String.ofList (List.replicate (width - s.toList.length) ' ') ++ s

/-- Blanks behind up to a width. -/
def alignLeft (width : Nat) (s : String) : String :=
  s ++ String.ofList (List.replicate (width - s.toList.length) ' ')

end TagAudit.Text
