import TagAudit.Proofs.Text.Plain

namespace TagAudit.Text

/-- A reference to a name, and the literal text between it and the next one. Blanks, opening braces and line breaks
may stand in the name, closing braces in the literal text. -/
structure Segment where
  name : String
  behind : String
  nonempty : name ≠ "" := by decide
  unclosed : '\x7d' ∉ name.toList := by decide
  unopened : '\x7b' ∉ behind.toList := by decide

def Segment.text (s : Segment) : String := reference s.name ++ s.behind

/-- A text of literal parts with references between them. -/
structure Interpolated where
  lead : String
  segments : List Segment
  unopened : '\x7b' ∉ lead.toList := by decide

def Interpolated.text (t : Interpolated) : String := t.lead ++ String.join (t.segments.map Segment.text)

theorem Segment.toList_text_append (s : Segment) (rest : List Char) :
    s.text.toList ++ rest = braced s.name.toList (s.behind.toList ++ rest) := by
  simp [text, reference, braced]

/-- Whatever follows a segment, its name is one reference, and reading goes on with what follows. -/
theorem Segment.referencesFrom_append (s : Segment) (rest : List Char) :
    referencesFrom 0 (s.text.toList ++ rest) = s.name.toList :: referencesFrom 0 rest := by
  have nonempty : s.name.toList ≠ [] := fun none => s.nonempty (String.toList_eq_nil_iff.mp none)
  rw [s.toList_text_append, referencesFrom_braced nonempty s.unclosed, referencesFrom_append_left s.unopened]

theorem referencesFrom_segments (segments : List Segment) :
    referencesFrom 0 (String.join (segments.map Segment.text)).toList = segments.map (·.name.toList) := by
  rw [String.toList_join]
  induction segments with
  | nil => rfl
  | cons s segments ih =>
    rw [List.map_cons, List.flatMap_cons, s.referencesFrom_append, ih, List.map_cons]

theorem cleaned_eq_filter (names : List (List Char)) :
    cleaned names = (names.map fun name => String.ofList (trim name)).filter (· ≠ "") := by
  induction names with
  | nil => rfl
  | cons name names ih =>
    have here : (trim name).isEmpty = true ↔ String.ofList (trim name) = "" := by
      rw [List.isEmpty_iff, String.ofList_eq_empty_iff]
    rw [cleaned, List.map_cons, List.filterMap_cons, ← cleaned, ih, List.map_cons, List.filter_cons]
    by_cases blank : String.ofList (trim name) = ""
    · simp [here.mpr blank, blank]
    · simp [mt here.mp blank, blank]

/-- The references in a text are the names that it was made with, in order, without the blanks around them and
without those that are blank. -/
theorem Interpolated.references_text (t : Interpolated) :
    references t.text = (t.segments.map fun s => String.ofList (trim s.name.toList)).filter (· ≠ "") := by
  have names : referencesFrom 0 t.text.toList = t.segments.map (·.name.toList) := by
    rw [text, String.toList_append, referencesFrom_append_left t.unopened, referencesFrom_segments]
  calc references t.text
    _ = cleaned (t.segments.map (·.name.toList)) := by rw [← names]; rfl
    _ = _ := by rw [cleaned_eq_filter, List.map_map]; rfl

/-- An opening brace, a line break, another reference or nothing but blanks in a name, and a closing brace behind a
reference, are all read as they were written. -/
example :
    let t := Interpolated.mk "\x7d" [.mk "URL" "\x7d", .mk " \x7b\x7bURL\n" "", .mk " \t" ", ", .mk "URL" ""]
    references t.text = ["URL", "\x7b\x7bURL", "URL"] := by
  decide

end TagAudit.Text
