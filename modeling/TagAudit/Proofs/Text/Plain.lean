import TagAudit.Proofs.Text.Blocks
import TagAudit.Text.Slug

namespace TagAudit.Text

/-- A text without two opening braces in a row has no references. -/
theorem referencesFrom_eq_nil {s : List Char} (plain : ¬ ['\x7b', '\x7b'] <:+: s) : referencesFrom 0 s = [] := by
  induction s with
  | nil => rfl
  | cons c rest ih =>
    have absent : referenceAt (c :: rest) = none := by
      rw [Option.eq_none_iff_forall_ne_some]
      intro name found
      obtain ⟨_, _, tail, shape⟩ := referenceAt_eq_some_iff.mp found
      exact plain (shape ▸ (List.prefix_append ['\x7b', '\x7b'] _).isInfix)
    rw [referencesFrom_cons absent]
    exact ih fun inside => plain (List.infix_cons inside)

theorem references_of_plain {text : String} (plain : contains text "\x7b\x7b" = false) : references text = [] := by
  have none : ¬ ['\x7b', '\x7b'] <:+: text.toList := fun inside =>
    Bool.false_ne_true (plain.symm.trans (occurs_iff.mpr inside))
  rw [references, referencesFrom_eq_nil none]
  rfl

theorem references_of_not_mem {text : String} (unopened : '\x7b' ∉ text.toList) : references text = [] := by
  rw [references, referencesFrom_eq_nil fun inside => unopened (inside.subset List.mem_cons_self)]
  rfl

/-- Without an opening brace, what stands in front of a text adds no reference. -/
theorem referencesFrom_append_left {front : List Char} (unopened : '\x7b' ∉ front) (s : List Char) :
    referencesFrom 0 (front ++ s) = referencesFrom 0 s := by
  induction front with
  | nil => rfl
  | cons c rest ih =>
    rw [List.mem_cons, not_or] at unopened
    have absent : referenceAt (c :: (rest ++ s)) = none := by
      rw [Option.eq_none_iff_forall_ne_some]
      intro name found
      obtain ⟨_, _, tail, shape⟩ := referenceAt_eq_some_iff.mp found
      exact unopened.1 (List.cons.inj shape).1.symm
    rw [List.cons_append, referencesFrom_cons absent]
    exact ih unopened.2

/-- A reference in a text with something behind it that closes no brace is a reference in the text. -/
theorem braced_of_append {s behind name tail : List Char} (unclosed : '\x7d' ∉ behind)
    (shape : s ++ behind = braced name tail) : ∃ inner, s = braced name inner := by
  have whole : braced name tail = braced name [] ++ tail := by simp [braced]
  rw [whole] at shape
  obtain ⟨cut, ends, rest⟩ | ⟨inner, longer, _⟩ := List.append_eq_append_iff.mp shape
  · cases cut with
    | nil => exact ⟨[], by rw [ends, List.append_nil]⟩
    | cons c cut =>
      -- The reference would end in what stands behind the text, with a closing brace.
      have closed : braced name [] = '\x7b' :: '\x7b' :: (name ++ ['\x7d']) ++ ['\x7d'] := by simp [braced]
      have closing : (c :: cut).getLast? = some '\x7d' := by
        rw [← List.getLast?_append_cons s, ← ends, closed, List.getLast?_concat]
      exact absurd (rest ▸ List.mem_append_left _ (List.mem_of_getLast? closing)) unclosed
  · exact ⟨inner, by rw [longer]; simp [braced]⟩

/-- Without braces, what stands behind a text neither adds a reference nor closes one. -/
theorem referencesFrom_append_right {behind : List Char} (unopened : '\x7b' ∉ behind) (unclosed : '\x7d' ∉ behind)
    (s : List Char) : referencesFrom 0 (s ++ behind) = referencesFrom 0 s := by
  induction size : s.length using Nat.strong_induction_on generalizing s with
  | h n ih =>
    cases s with
    | nil => exact referencesFrom_eq_nil fun inside => unopened (inside.subset List.mem_cons_self)
    | cons c rest =>
      cases found : referenceAt (c :: rest) with
      | some name =>
        obtain ⟨nonempty, free, tail, shape⟩ := referenceAt_eq_some_iff.mp found
        have shorter : tail.length < n := by
          rw [← size, shape]
          simp only [braced, List.length_cons, List.length_append]
          omega
        have longer : braced name tail ++ behind = braced name (tail ++ behind) := by simp [braced]
        rw [shape, longer, referencesFrom_braced nonempty free, referencesFrom_braced nonempty free,
          ih _ shorter tail rfl]
      | none =>
        have absent : referenceAt (c :: (rest ++ behind)) = none := by
          rw [Option.eq_none_iff_forall_ne_some] at found ⊢
          intro name later
          obtain ⟨nonempty, free, tail, shape⟩ := referenceAt_eq_some_iff.mp later
          exact found name (referenceAt_eq_some_iff.mpr ⟨nonempty, free, braced_of_append unclosed shape⟩)
        rw [List.cons_append, referencesFrom_cons absent, referencesFrom_cons found]
        exact ih rest.length (by rw [← size]; exact Nat.lt_succ_self _) rest rfl

/-- What stands around a text without braces of its own neither adds nor takes away a reference. -/
theorem references_within {front behind : String} (plain : '\x7b' ∉ front.toList) (unopened : '\x7b' ∉ behind.toList)
    (unclosed : '\x7d' ∉ behind.toList) (text : String) : references (front ++ text ++ behind) = references text := by
  rw [references, String.toList_append, referencesFrom_append_right unopened unclosed, String.toList_append,
    referencesFrom_append_left plain, references]

theorem references_reference {name : String} (referable : Referable name.toList) :
    references (reference name) = [name] := by
  have shape : (reference name).toList = braced name.toList [] := by simp [reference, braced]
  have found : referencesFrom 0 (braced name.toList []) = [name.toList] :=
    referencesFrom_braced referable.nonempty referable.unclosed []
  rw [references, shape, found, List.map_singleton, referable.trimmed, List.filterMap_cons, List.filterMap_nil]
  simp [referable.nonempty]

theorem trimStart_cons {c : Char} (solid : isBlank c = false) (rest : List Char) :
    trimStart (c :: rest) = c :: rest := by
  rw [trimStart, List.dropWhile_cons_of_neg (by simp [solid])]

/-- A text that neither begins nor ends with a blank has none to take off. -/
theorem trim_eq_self {first last : Char} (solidFirst : isBlank first = false) (solidLast : isBlank last = false)
    (inner : List Char) : trim (first :: (inner ++ [last])) = first :: (inner ++ [last]) := by
  have reversed : (first :: (inner ++ [last])).reverse = last :: (inner.reverse ++ [first]) := by simp
  rw [trim, trimStart_cons solidFirst, reversed, trimStart_cons solidLast, ← reversed, List.reverse_reverse]

theorem isBlank_of_isDigit {c : Char} (digit : c.isDigit = true) : isBlank c = false := by
  simp only [Char.isDigit, ge_iff_le, Bool.and_eq_true, decide_eq_true_eq, UInt32.le_iff_toNat_le] at digit
  have low : 48 ≤ c.toNat := digit.1
  have high : c.toNat ≤ 57 := digit.2
  rw [isBlank, if_pos (by omega)]
  simp only [Bool.or_eq_false_iff, Bool.and_eq_false_iff, decide_eq_false_iff_not]
  omega

theorem solid_of_trim {c : Char} {rest : List Char} (trimmed : trim (c :: rest) = c :: rest) : isBlank c = false := by
  by_contra blank
  rw [Bool.not_eq_false] at blank
  -- A blank at the start is taken off, so the text would get shorter.
  have start : trimStart (c :: rest) = trimStart rest := List.dropWhile_cons_of_pos blank
  have shorter : (trim (c :: rest)).length ≤ rest.length := by
    rw [trim, start, List.length_reverse]
    refine (List.dropWhile_suffix _).length_le.trans ?_
    rw [List.length_reverse]
    exact (List.dropWhile_suffix isBlank).length_le
  rw [trimmed, List.length_cons] at shorter
  omega

/-- A name stays one when something is added to it that ends in no blank. -/
theorem Referable.append {name behind : List Char} (referable : Referable name) {last : Char}
    (ends : behind.getLast? = some last) (solid : isBlank last = false) (unclosed : '\x7d' ∉ behind) :
    Referable (name ++ behind) := by
  obtain ⟨first, rest, rfl⟩ := List.exists_cons_of_ne_nil referable.nonempty
  obtain ⟨inner, rfl⟩ := List.getLast?_eq_some_iff.mp ends
  refine ⟨by simp, ?_, ?_⟩
  · rw [List.mem_append, not_or]
    exact ⟨referable.unclosed, unclosed⟩
  · rw [List.cons_append, ← List.append_assoc]
    exact trim_eq_self (solid_of_trim referable.trimmed) solid _

theorem isPlain_of_mem_plainBlocks {isSeparator : Char → Bool} {text b : String}
    (member : b ∈ plainBlocks isSeparator text) {c : Char} (inside : c ∈ b.toList) : isPlain c = true := by
  obtain ⟨block, isBlock, rfl⟩ := List.mem_map.mp member
  rw [String.toList_ofList] at inside
  obtain ⟨kept, solid⟩ := (mem_of_mem_blocksFrom isBlock inside).resolve_left List.not_mem_nil
  have passed := (List.mem_filter.mp kept).2
  rwa [solid, Bool.or_false] at passed

theorem mem_intercalate {separator : String} {parts : List String} {c : Char}
    (inside : c ∈ (separator.intercalate parts).toList) :
    c ∈ separator.toList ∨ ∃ part ∈ parts, c ∈ part.toList := by
  induction parts with
  | nil => cases inside
  | cons part rest ih =>
    cases rest with
    | nil => exact Or.inr ⟨part, List.mem_cons_self, by simpa using inside⟩
    | cons next further =>
      rw [String.intercalate_cons_cons, String.toList_append, String.toList_append, List.mem_append,
        List.mem_append] at inside
      rcases inside with (here | between) | later
      · exact Or.inr ⟨part, List.mem_cons_self, here⟩
      · exact Or.inl between
      · exact (ih later).imp_right fun ⟨other, among, there⟩ => ⟨other, List.mem_cons_of_mem _ among, there⟩

/-- The names that are made for events reference nothing. -/
theorem references_slug (default text : String) (named : references default = []) :
    references (slug default text) = [] := by
  unfold slug
  dsimp only
  split
  · exact named
  · refine references_of_not_mem fun opened => ?_
    rcases mem_intercalate opened with between | ⟨part, member, within⟩
    · exact absurd between (by decide)
    · exact absurd (isPlain_of_mem_plainBlocks member within) (by decide)

end TagAudit.Text
