import TagAudit.Json.Writer
import TagAudit.Text.Search

namespace TagAudit

/-- A part stands in a text with a separator only if it stands on one side: it has no character of the separator. -/
theorem infix_separated_iff {α : Type} {part before separator behind : List α} (nonempty : part ≠ [])
    (separates : separator ≠ []) (absent : ∀ x ∈ separator, x ∉ part) :
    part <:+: before ++ separator ++ behind ↔ part <:+: before ∨ part <:+: behind := by
  constructor
  · intro inside
    rw [List.append_assoc, List.infix_append_iff, List.infix_append_iff] at inside
    rcases inside with first | (inSeparator | second | ⟨front, tail, rfl, ends, starts⟩) |
      ⟨front, tail, rfl, ends, starts⟩
    · exact Or.inl first
    · obtain ⟨x, member⟩ := List.exists_mem_of_ne_nil part nonempty
      exact absurd member (absent x (inSeparator.subset member))
    · exact Or.inr second
    · -- The front would end in the separator.
      cases front with
      | nil => exact Or.inr starts.isInfix
      | cons x rest => exact absurd List.mem_cons_self (absent x (ends.subset List.mem_cons_self))
    · cases tail with
      | nil => exact Or.inl (by simpa using ends.isInfix)
      | cons x rest =>
        obtain ⟨first, others, rfl⟩ := List.exists_cons_of_ne_nil separates
        obtain rfl : x = first := (List.cons_prefix_cons.mp starts).1
        exact absurd (List.mem_append_right front List.mem_cons_self) (absent x List.mem_cons_self)
  · rintro (first | second)
    · exact first.trans ((List.prefix_append before separator).isInfix.trans (List.prefix_append _ behind).isInfix)
    · exact second.trans (List.suffix_append _ behind).isInfix

/-- A part stands in a text behind something in which its first character does not occur. -/
theorem infix_behind_iff {α : Type} {first : α} {part front behind : List α} (absent : first ∉ front) :
    first :: part <:+: front ++ behind ↔ first :: part <:+: behind := by
  induction front with
  | nil => rfl
  | cons x rest ih =>
    rw [List.mem_cons, not_or] at absent
    rw [List.cons_append, List.infix_cons_iff, List.cons_prefix_cons, ih absent.2]
    exact or_iff_right fun starts => absent.1 starts.1

namespace Text

/-- The start of the tag that ends a script. -/
def scriptEnd : List Char := "</script".toList

/-- A text that ends the script in which it stands: it holds the start of the tag, in whatever case. -/
def EndsScript (s : String) : Prop := scriptEnd <:+: s.toList.map Char.toLower

instance (s : String) : Decidable (EndsScript s) :=
  decidable_of_iff (occurs scriptEnd (s.toList.map Char.toLower) = true) occurs_iff

theorem toLower_eq_angle {c : Char} (lower : c.toLower = '<') : c = '<' := by
  unfold Char.toLower at lower
  split at lower
  · rename_i upper
    have code := congrArg (fun d : Char => d.val.toNat) lower
    simp only [ge_iff_le, UInt32.le_iff_toNat_le] at upper
    simp [UInt32.toNat_add] at code upper
    omega
  · exact lower

/-- A character that neither starts nor goes on with the tag that ends a script. -/
def Neutral (c : Char) : Prop := c.toLower ∉ scriptEnd

instance (c : Char) : Decidable (Neutral c) := inferInstanceAs (Decidable (c.toLower ∉ scriptEnd))

theorem neutral_of_code {c : Char} (outside : c.toNat < 32 ∨ 127 ≤ c.toNat) : Neutral c := by
  have same : c.toLower = c := by
    unfold Char.toLower
    refine dif_neg fun upper => ?_
    simp only [ge_iff_le, UInt32.le_iff_toNat_le] at upper
    simp at upper
    omega
  have printable : scriptEnd.all (fun d => 32 ≤ d.toNat ∧ d.toNat < 127) = true := by decide
  intro member
  have inside := of_decide_eq_true (List.all_eq_true.mp printable c (same ▸ member))
  omega

/-- A text of neutral characters. -/
def AllNeutral (s : String) : Prop := ∀ c ∈ s.toList, Neutral c

instance (s : String) : Decidable (AllNeutral s) := List.decidableBAll Neutral s.toList

theorem AllNeutral.append {first second : String} (left : AllNeutral first) (right : AllNeutral second) :
    AllNeutral (first ++ second) := by
  intro c member
  rw [String.toList_append, List.mem_append] at member
  exact member.elim (left c) (right c)

theorem not_endsScript_empty : ¬EndsScript "" := by decide

theorem endsScript_separated_iff {before separator behind : String} (separates : separator.toList ≠ [])
    (neutral : AllNeutral separator) :
    EndsScript (before ++ separator ++ behind) ↔ EndsScript before ∨ EndsScript behind := by
  unfold EndsScript
  rw [String.toList_append, String.toList_append, List.map_append, List.map_append]
  refine infix_separated_iff (by decide) (by simpa using separates) fun x member => ?_
  obtain ⟨c, inside, rfl⟩ := List.mem_map.mp member
  exact neutral c inside

/-- What stands between neutral characters decides. -/
theorem endsScript_enclosed_iff {opening inner closing : String} (opens : opening.toList ≠ [])
    (closes : closing.toList ≠ []) (first : AllNeutral opening) (last : AllNeutral closing) :
    EndsScript (opening ++ inner ++ closing) ↔ EndsScript inner := by
  have whole : opening ++ inner ++ closing = "" ++ opening ++ (inner ++ closing ++ "") := by
    simp [String.append_assoc]
  rw [whole, endsScript_separated_iff opens first, or_iff_right not_endsScript_empty,
    endsScript_separated_iff closes last, or_iff_left not_endsScript_empty]

theorem endsScript_intercalate_iff {separator : String} (separates : separator.toList ≠ [])
    (neutral : AllNeutral separator) (parts : List String) :
    EndsScript (separator.intercalate parts) ↔ ∃ part ∈ parts, EndsScript part := by
  induction parts with
  | nil => simpa using not_endsScript_empty
  | cons part rest ih =>
    cases rest with
    | nil => simp
    | cons next rest =>
      rw [String.intercalate_cons_cons, endsScript_separated_iff separates neutral, ih]
      simp

/-- In front of a text nothing matters that has no angle bracket. -/
theorem endsScript_behind_iff {front behind : String} (unopened : '<' ∉ front.toList) :
    EndsScript (front ++ behind) ↔ EndsScript behind := by
  have absent : '<' ∉ front.toList.map Char.toLower := by
    intro member
    obtain ⟨c, inside, lower⟩ := List.mem_map.mp member
    exact unopened (toLower_eq_angle lower ▸ inside)
  unfold EndsScript
  rw [String.toList_append, List.map_append]
  exact infix_behind_iff absent

theorem not_endsScript_of_unopened {s : String} (unopened : '<' ∉ s.toList) : ¬EndsScript s := by
  rw [← String.append_empty (s := s), endsScript_behind_iff unopened]
  exact not_endsScript_empty

end Text

end TagAudit
