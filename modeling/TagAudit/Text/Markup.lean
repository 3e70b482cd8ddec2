namespace TagAudit.Text

/-- A character inside markup. -/
def escapeMarkupChar (c : Char) : List Char :=
  if c = '&' then "&amp;".toList
  else if c = '<' then "&lt;".toList
  else if c = '>' then "&gt;".toList
  else if c = '"' then "&quot;".toList
  else if c = '\'' then "&#x27;".toList
  else [c]

def escapeMarkup (s : String) : String := String.ofList (s.toList.flatMap escapeMarkupChar)

theorem escapeMarkupChar_no_angle (c : Char) : '<' ∉ escapeMarkupChar c ∧ '>' ∉ escapeMarkupChar c := by
  unfold escapeMarkupChar
  repeat' split
  all_goals first
    | decide
    | (simp only [List.mem_singleton]; constructor <;> rintro rfl <;> contradiction)

end TagAudit.Text
