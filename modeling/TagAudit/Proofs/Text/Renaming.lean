import Mathlib.Data.List.Find
import Mathlib.Data.List.Infix
import Mathlib.Data.List.TakeWhile
import TagAudit.Text.Reference

namespace TagAudit.Text

/-- The names of the references in a text as they are written, with the blanks around them. -/
def written (text : String) : List (List Char) := referencesFrom 0 text.toList

/-- Names without the blanks around them; blank ones do not count. -/
def cleaned (names : List (List Char)) : List String :=
  (names.map trim).filterMap fun name => if name.isEmpty then none else some (String.ofList name)

theorem mem_cleaned {names : List (List Char)} {text : String} :
    text ∈ cleaned names ↔ ∃ name ∈ names, trim name ≠ [] ∧ String.ofList (trim name) = text := by
  simp only [cleaned, List.mem_filterMap, List.mem_map, exists_exists_and_eq_and]
  refine exists_congr fun name => and_congr_right fun _ => ?_
  cases trim name <;> simp

/-- A name that some reference can have. -/
structure Referable (name : List Char) : Prop where
  nonempty : name ≠ []
  unclosed : '\x7d' ∉ name
  trimmed : trim name = name

instance (name : List Char) : Decidable (Referable name) :=
  decidable_of_iff (name ≠ [] ∧ '\x7d' ∉ name ∧ trim name = name)
    ⟨fun ⟨nonempty, unclosed, trimmed⟩ => ⟨nonempty, unclosed, trimmed⟩,
      fun referable => ⟨referable.nonempty, referable.unclosed, referable.trimmed⟩⟩

/-- Another pair of opening braces stands behind the first opening brace of a reference. -/
def Nested (name : List Char) : Prop := ['\x7b', '\x7b'] <:+: '\x7b' :: name

instance (name : List Char) : Decidable (Nested name) :=
  inferInstanceAs (Decidable (['\x7b', '\x7b'] <:+: '\x7b' :: name))

/-- A reference, and what follows it. -/
def braced (name tail : List Char) : List Char :=
  '\x7b' :: '\x7b' :: (name ++ '\x7d' :: '\x7d' :: tail)

theorem takeWhile_append_closing {name : List Char} (unclosed : '\x7d' ∉ name) (tail : List Char) :
    (name ++ '\x7d' :: tail).takeWhile (· ≠ '\x7d') = name := by
  have inside : ∀ c ∈ name, decide (c ≠ '\x7d') = true := fun c member =>
    decide_eq_true fun same => unclosed (same ▸ member)
  rw [List.takeWhile_append_of_pos inside, List.takeWhile_cons_of_neg (by decide), List.append_nil]

theorem eq_of_append_closing {name other tail rest : List Char} (unclosed : '\x7d' ∉ name)
    (free : '\x7d' ∉ other) (same : name ++ '\x7d' :: tail = other ++ '\x7d' :: rest) : name = other := by
  rw [← takeWhile_append_closing unclosed tail, same, takeWhile_append_closing free rest]

theorem referenceAt_eq_some_iff {s name : List Char} :
    referenceAt s = some name ↔ name ≠ [] ∧ '\x7d' ∉ name ∧ ∃ tail, s = braced name tail := by
  constructor
  · intro found
    unfold referenceAt at found
    split at found
    · rename_i rest
      dsimp only at found
      split at found
      · rename_i checked
        cases found
        rw [Bool.and_eq_true, Bool.not_eq_true', List.isEmpty_eq_false_iff, List.isPrefixOf_iff_prefix] at checked
        obtain ⟨nonempty, tail, closed⟩ := checked
        refine ⟨nonempty, fun member => ?_, tail, ?_⟩
        · exact absurd (List.mem_takeWhile_imp member) (by decide)
        · have parts := List.prefix_append_drop (List.takeWhile_prefix (l := rest) (· ≠ '\x7d'))
          rw [← closed] at parts
          exact congrArg (fun s => '\x7b' :: '\x7b' :: s) parts
      · cases found
    · cases found
  · rintro ⟨nonempty, unclosed, tail, rfl⟩
    simp only [braced, referenceAt, takeWhile_append_closing unclosed]
    simp [nonempty]

theorem referencesFrom_eq (skip : Nat) (s : List Char) :
    referencesFrom skip s = referencesFrom 0 (s.drop skip) := by
  induction s generalizing skip with
  | nil => simp [referencesFrom]
  | cons c rest ih =>
    cases skip with
    | zero => rfl
    | succ skip => rw [referencesFrom, ih, List.drop_succ_cons]

theorem rewriteFrom_eq (rule : List Char → Option (Nat × List Char)) (skip : Nat) (s : List Char) :
    rewriteFrom rule skip s = rewrite rule (s.drop skip) := by
  induction s generalizing skip with
  | nil => simp [rewrite, rewriteFrom]
  | cons c rest ih =>
    cases skip with
    | zero => rfl
    | succ skip => rw [rewriteFrom, ih, List.drop_succ_cons]

theorem referencesFrom_braced {name : List Char} (nonempty : name ≠ []) (unclosed : '\x7d' ∉ name)
    (tail : List Char) : referencesFrom 0 (braced name tail) = name :: referencesFrom 0 tail := by
  have found := referenceAt_eq_some_iff.mpr ⟨nonempty, unclosed, tail, rfl⟩
  rw [braced] at found ⊢
  rw [referencesFrom, found]
  dsimp only
  rw [referencesFrom_eq]
  simp

theorem referencesFrom_cons {c : Char} {rest : List Char} (absent : referenceAt (c :: rest) = none) :
    referencesFrom 0 (c :: rest) = referencesFrom 0 rest := by
  rw [referencesFrom, absent]

/-- Every name of a table, old or new, can be the name of a reference, and no new name is renamed. -/
structure Renames.Proper (renames : Renames) : Prop where
  old : ∀ row ∈ renames, Referable row.1
  new : ∀ row ∈ renames, ∃ name, row.2 = some name ∧ Referable name ∧ ∀ other ∈ renames, other.1 ≠ name

/-- The name that a table gives for a name. -/
def Renames.apply (renames : Renames) (name : List Char) : List Char :=
  ((renames.find? fun row => row.1 == name).bind (·.2)).getD name

/-- The characters of a text with its references renamed. -/
def rewritten (renames : Renames) (s : List Char) : List Char := rewrite (replacementAt renames) s

theorem renameAt_eq_some {renames : Renames} {s : List Char} {row : List Char × Option (List Char)}
    (found : renameAt renames s = some row) : row ∈ renames ∧ ∃ tail, s = braced row.1 tail := by
  unfold renameAt at found
  split at found
  · have starts := List.find?_some found
    dsimp only at starts
    obtain ⟨tail, same⟩ := List.isPrefixOf_iff_prefix.mp starts
    refine ⟨List.mem_of_find?_eq_some found, tail, ?_⟩
    simp [← same, braced]
  · cases found

theorem rewritten_cons {renames : Renames} {c : Char} {rest : List Char}
    (absent : renameAt renames (c :: rest) = none) :
    rewritten renames (c :: rest) = c :: rewritten renames rest := by
  rw [rewritten, rewrite, rewriteFrom, replacementAt, absent]
  rfl

theorem rewritten_braced {renames : Renames} {old new tail : List Char}
    (found : renameAt renames (braced old tail) = some (old, some new)) :
    rewritten renames (braced old tail) = braced new (rewritten renames tail) := by
  rw [braced] at found ⊢
  rw [rewritten, rewrite, rewriteFrom, replacementAt, found]
  dsimp only [Option.map]
  rw [rewriteFrom_eq]
  simp [rewritten, reference, braced]

/-- Behind an opening brace no reference begins before the next closing brace, so nothing is renamed. -/
theorem rewritten_plain {renames : Renames} {name : List Char} (plain : ¬ ['\x7b', '\x7b'] <:+: name)
    (unclosed : '\x7d' ∉ name) (tail : List Char) : rewritten renames (name ++ '\x7d' :: '\x7d' :: tail) =
      name ++ '\x7d' :: '\x7d' :: rewritten renames tail := by
  induction name with
  | nil => rfl
  | cons c rest ih =>
    have later := ih (fun inside => plain (List.infix_cons inside)) fun inside =>
      unclosed (List.mem_cons_of_mem _ inside)
    have absent : renameAt renames (c :: (rest ++ '\x7d' :: '\x7d' :: tail)) = none := by
      rw [Option.eq_none_iff_forall_ne_some]
      intro row found
      obtain ⟨_, behind, shape⟩ := renameAt_eq_some found
      obtain ⟨rfl, second⟩ := List.cons.inj shape
      cases rest with
      | nil => cases second
      | cons d inner =>
        obtain ⟨rfl, _⟩ := List.cons.inj second
        exact plain (List.prefix_append ['\x7b', '\x7b'] inner).isInfix
    rw [List.cons_append, rewritten_cons absent, later, List.cons_append]

section

variable {renames : Renames} (proper : renames.Proper)
include proper

/-- What happens at the start of a text: a reference is renamed, or the first character is kept. -/
theorem Renames.Proper.rewritten_cases (s : List Char) : s = [] ∨
    (∃ old new tail, (old, some new) ∈ renames ∧ renameAt renames s = some (old, some new) ∧
      s = braced old tail ∧ rewritten renames s = braced new (rewritten renames tail)) ∨
    ∃ c rest, s = c :: rest ∧ renameAt renames s = none ∧
      rewritten renames s = c :: rewritten renames rest := by
  cases s with
  | nil => exact Or.inl rfl
  | cons c rest =>
    right
    cases found : renameAt renames (c :: rest) with
    | none => exact Or.inr ⟨c, rest, rfl, rfl, rewritten_cons found⟩
    | some row =>
      obtain ⟨old, new?⟩ := row
      obtain ⟨member, tail, shape⟩ := renameAt_eq_some found
      obtain ⟨new, rfl, _⟩ := proper.new _ member
      rw [shape] at found
      exact Or.inl ⟨old, new, tail, member, rfl, shape, shape ▸ rewritten_braced found⟩

/-- The first closing brace of a text is doubled. -/
def Closes (s : List Char) : Prop := ∃ name tail, '\x7d' ∉ name ∧ s = name ++ '\x7d' :: '\x7d' :: tail

theorem Renames.Proper.closes_of_rewritten {s : List Char} (closes : Closes (rewritten renames s)) :
    Closes s := by
  induction s with
  | nil =>
    obtain ⟨name, tail, _, shape⟩ := closes
    simp [rewritten, rewrite, rewriteFrom] at shape
  | cons c rest ih =>
    rcases proper.rewritten_cases (c :: rest) with none | ⟨old, new, tail, member, _, shape, _⟩ | kept
    · cases none
    · rw [shape]
      refine ⟨'\x7b' :: '\x7b' :: old, tail, ?_, rfl⟩
      simpa using (proper.old _ member).unclosed
    · obtain ⟨_, _, same, _, shape⟩ := kept
      cases same
      obtain ⟨name, tail, unclosed, closed⟩ := closes
      rw [shape] at closed
      cases name with
      | cons d name =>
        obtain ⟨rfl, later⟩ := List.cons.inj closed
        obtain ⟨inner, behind, free, rfl⟩ :=
          ih ⟨name, tail, fun inside => unclosed (List.mem_cons_of_mem _ inside), later⟩
        refine ⟨c :: inner, behind, ?_, rfl⟩
        rw [List.mem_cons, not_or]
        exact ⟨fun first => unclosed (first ▸ List.mem_cons_self), free⟩
      | nil =>
        -- The text starts with the doubled brace, and no renamed reference starts with one.
        obtain ⟨rfl, later⟩ := List.cons.inj closed
        rcases proper.rewritten_cases rest with rfl | ⟨_, _, _, _, _, _, start⟩ | ⟨d, behind, rfl, _, start⟩
        · cases later
        · rw [start] at later
          cases later
        · rw [start] at later
          cases later
          exact ⟨[], behind, List.not_mem_nil, rfl⟩

/-- Renaming behind a place makes no reference begin there. -/
theorem Renames.Proper.referenceAt_rewritten {c : Char} {rest : List Char}
    (absent : referenceAt (c :: rest) = none) : referenceAt (c :: rewritten renames rest) = none := by
  rw [Option.eq_none_iff_forall_ne_some] at absent ⊢
  intro name found
  obtain ⟨nonempty, unclosed, tail, shape⟩ := referenceAt_eq_some_iff.mp found
  obtain ⟨rfl, second⟩ := List.cons.inj shape
  rcases proper.rewritten_cases rest with rfl | ⟨old, _, behind, member, _, rfl, _⟩ | ⟨d, inner, rfl, _, kept⟩
  · cases second
  · -- A renamed reference behind an opening brace: the two are one reference.
    refine absent ('\x7b' :: old) (referenceAt_eq_some_iff.mpr ⟨by simp, ?_, behind, rfl⟩)
    simpa using (proper.old _ member).unclosed
  · rw [kept] at second
    obtain ⟨rfl, third⟩ := List.cons.inj second
    obtain ⟨written, behind, free, rfl⟩ := proper.closes_of_rewritten ⟨name, tail, unclosed, third⟩
    refine absent written (referenceAt_eq_some_iff.mpr ⟨?_, free, behind, rfl⟩)
    rintro rfl
    rcases proper.rewritten_cases ([] ++ '\x7d' :: '\x7d' :: behind) with
      no | ⟨_, _, _, _, _, no, _⟩ | ⟨_, _, same, _, first⟩
    · cases no
    · cases no
    · cases same
      rw [first] at third
      cases name with
      | nil => exact nonempty rfl
      | cons d _ => exact unclosed ((List.cons.inj third).1 ▸ List.mem_cons_self)

/-- The rename that applies to a reference is the one of its name. -/
theorem Renames.Proper.renameAt_braced {name : List Char} (unclosed : '\x7d' ∉ name) (tail : List Char) :
    renameAt renames (braced name tail) = renames.find? fun row => row.1 == name := by
  unfold renameAt braced
  dsimp only
  refine List.find?_congr fun row member => ?_
  obtain ⟨old, new⟩ := row
  dsimp only
  rw [Bool.eq_iff_iff, List.isPrefixOf_iff_prefix, beq_iff_eq]
  constructor
  · rintro ⟨behind, same⟩
    rw [List.append_assoc] at same
    exact eq_of_append_closing (proper.old _ member).unclosed unclosed same
  · rintro rfl
    exact ⟨tail, by simp⟩

theorem Renames.Proper.apply_of_mem {name : List Char} (member : name ∈ renames.map (·.1)) :
    renames.find? (fun row => row.1 == name) = some (name, some (renames.apply name)) ∧
      Referable (renames.apply name) ∧ renames.apply name ∉ renames.map (·.1) := by
  obtain ⟨row, inside, rfl⟩ := List.mem_map.mp member
  have present : (renames.find? fun other => other.1 == row.1).isSome = true :=
    List.find?_isSome.mpr ⟨row, inside, beq_self_eq_true _⟩
  obtain ⟨⟨old, new?⟩, found⟩ := Option.isSome_iff_exists.mp present
  have named := List.find?_some found
  obtain rfl : old = row.1 := beq_iff_eq.mp named
  obtain ⟨new, rfl, referable, unrenamed⟩ := proper.new _ (List.mem_of_find?_eq_some found)
  have applied : renames.apply row.1 = new := by rw [Renames.apply, found]; rfl
  rw [applied]
  refine ⟨found, referable, fun again => ?_⟩
  obtain ⟨other, there, same⟩ := List.mem_map.mp again
  exact unrenamed other there same

omit proper in
theorem Renames.apply_of_not_mem {name : List Char} (other : name ∉ renames.map (·.1)) :
    renames.find? (fun row => row.1 == name) = none ∧ renames.apply name = name := by
  have absent : renames.find? (fun row => row.1 == name) = none :=
    List.find?_eq_none.mpr fun row member same => other (beq_iff_eq.mp same ▸ List.mem_map_of_mem member)
  exact ⟨absent, by rw [Renames.apply, absent]; rfl⟩

theorem Renames.Proper.rewritten_reference {name : List Char} (unclosed : '\x7d' ∉ name)
    (plain : ¬ Nested name) (tail : List Char) :
    rewritten renames (braced name tail) = braced (renames.apply name) (rewritten renames tail) := by
  have at_name := proper.renameAt_braced unclosed tail
  by_cases old : name ∈ renames.map (·.1)
  · exact rewritten_braced (at_name.trans (proper.apply_of_mem old).1)
  · obtain ⟨absent, same⟩ := Renames.apply_of_not_mem old
    have free : '\x7d' ∉ '\x7b' :: name := by simpa using unclosed
    rw [same, braced, rewritten_cons (at_name.trans absent)]
    exact congrArg _ (rewritten_plain plain free tail)

/-- A text with its references renamed has the references of the text, each with its new name, if none of
them stands inside another. -/
theorem Renames.Proper.referencesFrom_rewritten {s : List Char}
    (plain : ∀ name ∈ referencesFrom 0 s, ¬ Nested name) :
    referencesFrom 0 (rewritten renames s) = (referencesFrom 0 s).map renames.apply := by
  induction size : s.length using Nat.strong_induction_on generalizing s with
  | h n ih =>
    cases s with
    | nil => rfl
    | cons c rest =>
      cases found : referenceAt (c :: rest) with
      | some name =>
        obtain ⟨nonempty, unclosed, tail, shape⟩ := referenceAt_eq_some_iff.mp found
        have shorter : tail.length < n := by
          rw [← size, shape]
          simp only [braced, List.length_cons, List.length_append]
          omega
        rw [shape, referencesFrom_braced nonempty unclosed] at plain ⊢
        have here := plain name List.mem_cons_self
        have later := ih _ shorter (fun other member => plain other (List.mem_cons_of_mem _ member)) rfl
        have applied : renames.apply name ≠ [] ∧ '\x7d' ∉ renames.apply name := by
          by_cases old : name ∈ renames.map (·.1)
          · obtain ⟨_, referable, _⟩ := proper.apply_of_mem old
            exact ⟨referable.nonempty, referable.unclosed⟩
          · rw [(Renames.apply_of_not_mem old).2]
            exact ⟨nonempty, unclosed⟩
        rw [proper.rewritten_reference unclosed here, referencesFrom_braced applied.1 applied.2, later,
          List.map_cons]
      | none =>
        have unrenamed : renameAt renames (c :: rest) = none := by
          rw [Option.eq_none_iff_forall_ne_some]
          intro row renamed
          obtain ⟨member, tail, shape⟩ := renameAt_eq_some renamed
          have referable := proper.old _ member
          rw [referenceAt_eq_some_iff.mpr ⟨referable.nonempty, referable.unclosed, tail, shape⟩] at found
          cases found
        rw [referencesFrom_cons found] at plain ⊢
        rw [rewritten_cons unrenamed, referencesFrom_cons (proper.referenceAt_rewritten found)]
        exact ih rest.length (by rw [← size]; exact Nat.lt_succ_self _) plain rfl

theorem Renames.Proper.written_rename {text : String} (plain : ∀ name ∈ written text, ¬ Nested name) :
    written (rename renames text) = (written text).map renames.apply := by
  have renamed : (rename renames text).toList = rewritten renames text.toList := String.toList_ofList
  rw [written, renamed]
  exact proper.referencesFrom_rewritten plain

/-- A reference to a renamed name that is written with blanks around the name is not renamed. -/
def Renames.Misses (renames : Renames) (name : List Char) : Prop :=
  trim name ∈ renames.map (·.1) ∧ trim name ≠ name

theorem Renames.Proper.trim_apply {name : List Char} (hit : ¬ renames.Misses name) :
    trim (renames.apply name) = renames.apply (trim name) := by
  by_cases old : trim name ∈ renames.map (·.1)
  · have same : trim name = name := by_contra fun padded => hit ⟨old, padded⟩
    rw [same] at old ⊢
    exact (proper.apply_of_mem old).2.1.trimmed
  · have unnamed : name ∉ renames.map (·.1) := by
      intro member
      obtain ⟨row, inside, rfl⟩ := List.mem_map.mp member
      exact old ((proper.old row inside).trimmed.symm ▸ member)
    rw [(Renames.apply_of_not_mem unnamed).2, (Renames.apply_of_not_mem old).2]

theorem Renames.Proper.apply_of_misses {name : List Char} (missed : renames.Misses name) :
    renames.apply name = name := by
  refine (Renames.apply_of_not_mem fun member => missed.2 ?_).2
  obtain ⟨row, inside, rfl⟩ := List.mem_map.mp member
  exact (proper.old row inside).trimmed

/-- What a name becomes is no name that is renamed. -/
theorem Renames.Proper.apply_not_mem (name : List Char) : renames.apply name ∉ renames.map (·.1) := by
  by_cases old : name ∈ renames.map (·.1)
  · exact (proper.apply_of_mem old).2.2
  · rwa [(Renames.apply_of_not_mem old).2]

theorem Renames.Proper.apply_eq_nil_iff {name : List Char} : renames.apply name = [] ↔ name = [] := by
  by_cases old : name ∈ renames.map (·.1)
  · obtain ⟨row, inside, rfl⟩ := List.mem_map.mp old
    exact iff_of_false (proper.apply_of_mem old).2.1.nonempty (proper.old row inside).nonempty
  · rw [(Renames.apply_of_not_mem old).2]

theorem Renames.Proper.cleaned_apply {names : List (List Char)} (hit : ∀ name ∈ names, ¬ renames.Misses name) :
    cleaned (names.map renames.apply) =
      (cleaned names).map fun name => String.ofList (renames.apply name.toList) := by
  simp only [cleaned, List.map_map, List.filterMap_map, List.map_filterMap]
  refine List.filterMap_congr fun name member => ?_
  simp only [Function.comp_apply, proper.trim_apply (hit name member), List.isEmpty_iff, proper.apply_eq_nil_iff]
  split <;> simp

/-- A name that is renamed is still referenced exactly if one of the references to it is missed. -/
theorem Renames.Proper.mem_cleaned_apply_iff {names : List (List Char)} {old : List Char}
    (renamed : old ∈ renames.map (·.1)) : String.ofList old ∈ cleaned (names.map renames.apply) ↔
      ∃ name ∈ names, trim name = old ∧ renames.Misses name := by
  rw [mem_cleaned]
  constructor
  · rintro ⟨_, member, _, same⟩
    obtain ⟨name, inside, rfl⟩ := List.mem_map.mp member
    rw [String.ofList_inj] at same
    by_cases missed : renames.Misses name
    · exact ⟨name, inside, proper.apply_of_misses missed ▸ same, missed⟩
    · rw [proper.trim_apply missed] at same
      exact absurd (same ▸ renamed) (proper.apply_not_mem _)
  · rintro ⟨name, inside, rfl, missed⟩
    have nonempty : trim name ≠ [] := by
      obtain ⟨row, there, same⟩ := List.mem_map.mp missed.1
      exact same ▸ (proper.old row there).nonempty
    refine ⟨name, ?_, nonempty, rfl⟩
    rw [← proper.apply_of_misses missed]
    exact List.mem_map_of_mem inside

end

end TagAudit.Text
