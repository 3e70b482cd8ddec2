import Mathlib.Data.List.DropRight
import TagAudit.Proofs.Text.Renaming

namespace TagAudit.Text

variable {isSeparator kind : Char → Bool}

/-- The block that is being read ends here, if one has been begun. -/
def flush (block : List Char) : List (List Char) := if block.isEmpty then [] else [block.reverse]

theorem blocksFrom_cons_separator {c : Char} (separates : isSeparator c = true) (block rest : List Char) :
    blocksFrom isSeparator block (c :: rest) = flush block ++ blocks isSeparator rest := by
  rw [blocksFrom, if_pos separates, flush]
  split <;> rfl

theorem blocksFrom_cons_solid {c : Char} (solid : isSeparator c = false) (block rest : List Char) :
    blocksFrom isSeparator block (c :: rest) = blocksFrom isSeparator (c :: block) rest := by
  rw [blocksFrom, if_neg (Bool.eq_false_iff.mp solid)]

theorem blocksFrom_append_solid {word : List Char} (solid : ∀ c ∈ word, isSeparator c = false)
    (block rest : List Char) :
    blocksFrom isSeparator block (word ++ rest) = blocksFrom isSeparator (word.reverse ++ block) rest := by
  induction word generalizing block with
  | nil => rfl
  | cons c word ih =>
    rw [List.cons_append, blocksFrom_cons_solid (solid c List.mem_cons_self),
      ih (fun d member => solid d (List.mem_cons_of_mem c member)), List.reverse_cons, List.append_assoc]
    rfl

/-- Words joined by single separators are the blocks of the text. -/
theorem blocks_intercalate {separator : Char} (separates : isSeparator separator = true) {words : List (List Char)}
    (proper : ∀ word ∈ words, word ≠ [] ∧ ∀ c ∈ word, isSeparator c = false) :
    blocks isSeparator ([separator].intercalate words) = words := by
  induction words with
  | nil => rfl
  | cons word words ih =>
    obtain ⟨nonempty, solid⟩ := proper word List.mem_cons_self
    have later := ih fun other member => proper other (List.mem_cons_of_mem word member)
    have closed : flush word.reverse = [word] := by simp [flush, nonempty]
    cases words with
    | nil =>
      have whole : [separator].intercalate [word] = word ++ [] := by simp
      rw [whole, blocks, blocksFrom_append_solid solid, List.append_nil]
      exact closed
    | cons next words =>
      rw [List.intercalate_cons_cons, List.append_assoc, blocks, blocksFrom_append_solid solid, List.append_nil,
        List.singleton_append, blocksFrom_cons_separator separates, closed, later, List.singleton_append]

theorem mem_flush {block part : List Char} : part ∈ flush block ↔ block ≠ [] ∧ part = block.reverse := by
  cases block <;> simp [flush]

theorem ne_nil_of_mem_flush {block part : List Char} (member : part ∈ flush block) : part ≠ [] := by
  obtain ⟨begun, rfl⟩ := mem_flush.mp member
  exact fun none => begun (List.reverse_eq_nil_iff.mp none)

theorem ne_nil_of_mem_blocksFrom {block s part : List Char} (member : part ∈ blocksFrom isSeparator block s) :
    part ≠ [] := by
  induction s generalizing block with
  | nil => exact ne_nil_of_mem_flush member
  | cons c rest ih =>
    cases separates : isSeparator c with
    | true =>
      rw [blocksFrom_cons_separator separates, List.mem_append] at member
      exact member.elim ne_nil_of_mem_flush ih
    | false =>
      rw [blocksFrom_cons_solid separates] at member
      exact ih member

theorem mem_of_mem_blocksFrom {block s b : List Char} {c : Char} (member : b ∈ blocksFrom isSeparator block s)
    (inside : c ∈ b) : c ∈ block ∨ c ∈ s ∧ isSeparator c = false := by
  have ofBlock {block : List Char} (ended : b ∈ flush block) : c ∈ block := by
    obtain ⟨_, rfl⟩ := mem_flush.mp ended
    exact List.mem_reverse.mp inside
  induction s generalizing block with
  | nil => exact Or.inl (ofBlock member)
  | cons x rest ih =>
    have later : (c ∈ rest ∧ isSeparator c = false) → c ∈ x :: rest ∧ isSeparator c = false :=
      And.imp_left (List.mem_cons_of_mem x)
    cases separates : isSeparator x with
    | true =>
      rw [blocksFrom_cons_separator separates, List.mem_append] at member
      rcases member with ended | further
      · exact Or.inl (ofBlock ended)
      · exact Or.inr (later ((ih further).resolve_left List.not_mem_nil))
    | false =>
      rw [blocksFrom_cons_solid separates] at member
      rcases ih member with started | further
      · rcases List.mem_cons.mp started with rfl | before
        · exact Or.inr ⟨List.mem_cons_self, separates⟩
        · exact Or.inl before
      · exact Or.inr (later further)

/-- The longest run of a kind of characters that a text starts with becomes an underscore. -/
def runAt (kind : Char → Bool) (s : List Char) : Option (Nat × List Char) :=
  if (s.takeWhile kind).isEmpty then none else some ((s.takeWhile kind).length, ['_'])

/-- The text with an underscore for every longest run of a kind. -/
def collapse (kind : Char → Bool) (s : List Char) : List Char := rewrite (runAt kind) s

theorem collapse_cons_of_kind {c : Char} (ofKind : kind c = true) (rest : List Char) :
    collapse kind (c :: rest) = '_' :: collapse kind (rest.dropWhile kind) := by
  have run : runAt kind (c :: rest) = some ((rest.takeWhile kind).length + 1, ['_']) := by
    simp [runAt, List.takeWhile_cons_of_pos ofKind]
  have behind : rest.drop (rest.takeWhile kind).length = rest.dropWhile kind := by
    have parts := List.prefix_append_drop (List.takeWhile_prefix (l := rest) kind)
    exact List.append_cancel_left (parts.symm.trans List.takeWhile_append_dropWhile.symm)
  rw [collapse, rewrite, rewriteFrom, run]
  dsimp only
  rw [Nat.add_sub_cancel, rewriteFrom_eq, behind]
  rfl

theorem collapse_cons_of_not {c : Char} (other : kind c = false) (rest : List Char) :
    collapse kind (c :: rest) = c :: collapse kind rest := by
  have none : runAt kind (c :: rest) = none := by
    simp [runAt, List.takeWhile_cons_of_neg, other]
  rw [collapse, rewrite, rewriteFrom, none]
  rfl

/-- A text is read in longest runs of a kind and single other characters. -/
theorem runwise (kind : Char → Bool) {motive : List Char → Prop} (nil : motive [])
    (run : ∀ c rest, kind c = true → motive (rest.dropWhile kind) → motive (c :: rest))
    (single : ∀ c rest, kind c = false → motive rest → motive (c :: rest)) (s : List Char) : motive s := by
  induction size : s.length using Nat.strong_induction_on generalizing s with
  | h n ih =>
    cases s with
    | nil => exact nil
    | cons c rest =>
      have shorter {tail : List Char} (suffix : tail <:+ rest) : tail.length < n := by
        rw [← size, List.length_cons]
        exact Nat.lt_succ_of_le suffix.length_le
      cases ofKind : kind c with
      | true => exact run c rest ofKind (ih _ (shorter (List.dropWhile_suffix kind)) _ rfl)
      | false => exact single c rest ofKind (ih _ (shorter List.suffix_rfl) _ rfl)

theorem blocks_dropWhile (separates : ∀ c, kind c = true → isSeparator c = true) (s : List Char) :
    blocks isSeparator (s.dropWhile kind) = blocks isSeparator s := by
  induction s with
  | nil => rfl
  | cons c rest ih =>
    rw [List.dropWhile_cons]
    split
    · rename_i ofKind
      rw [ih]
      exact (blocksFrom_cons_separator (separates c ofKind) [] rest).symm
    · rfl

/-- Runs of separators stand for one separator each. -/
theorem blocksFrom_collapse (separates : ∀ c, kind c = true → isSeparator c = true)
    (underscore : isSeparator '_' = true) (block s : List Char) :
    blocksFrom isSeparator block (collapse kind s) = blocksFrom isSeparator block s := by
  induction s using runwise kind generalizing block with
  | nil => rfl
  | run c rest ofKind ih =>
    rw [collapse_cons_of_kind ofKind, blocksFrom_cons_separator underscore,
      blocksFrom_cons_separator (separates c ofKind), blocks, ih, ← blocks, blocks_dropWhile separates]
  | single c rest other ih =>
    rw [collapse_cons_of_not other]
    cases separator : isSeparator c with
    | true => rw [blocksFrom_cons_separator separator, blocksFrom_cons_separator separator, blocks, ih, blocks]
    | false => rw [blocksFrom_cons_solid separator, blocksFrom_cons_solid separator, ih]

theorem blocksFrom_concat_separator {c : Char} (separates : isSeparator c = true) (block s : List Char) :
    blocksFrom isSeparator block (s ++ [c]) = blocksFrom isSeparator block s := by
  induction s generalizing block with
  | nil =>
    rw [List.nil_append, blocksFrom_cons_separator separates]
    exact List.append_nil _
  | cons d rest ih =>
    rw [List.cons_append]
    cases separator : isSeparator d with
    | true => rw [blocksFrom_cons_separator separator, blocksFrom_cons_separator separator, blocks, ih, blocks]
    | false => rw [blocksFrom_cons_solid separator, blocksFrom_cons_solid separator, ih]

theorem blocks_rdropWhile (separates : ∀ c, kind c = true → isSeparator c = true) (s : List Char) :
    blocks isSeparator (s.rdropWhile kind) = blocks isSeparator s := by
  induction s using List.reverseRecOn with
  | nil => rfl
  | append_singleton rest c ih =>
    rw [List.rdropWhile_concat]
    split
    · rename_i ofKind
      rw [ih]
      exact (blocksFrom_concat_separator (separates c ofKind) [] rest).symm
    · rfl

theorem mem_collapse {c : Char} {s : List Char} (member : c ∈ collapse kind s) :
    c = '_' ∨ c ∈ s ∧ kind c = false := by
  induction s using runwise kind with
  | nil => cases member
  | run d rest ofKind ih =>
    rw [collapse_cons_of_kind ofKind, List.mem_cons] at member
    rcases member with rfl | behind
    · exact Or.inl rfl
    · exact (ih behind).imp_right (And.imp_left fun inside =>
        List.mem_cons_of_mem d ((List.dropWhile_suffix kind).subset inside))
  | single d rest other ih =>
    rw [collapse_cons_of_not other, List.mem_cons] at member
    rcases member with rfl | behind
    · exact Or.inr ⟨List.mem_cons_self, other⟩
    · exact (ih behind).imp_right (And.imp_left (List.mem_cons_of_mem d))

/-- Where underscores are of the kind, no two of them stand in a row once its runs are collapsed. -/
theorem collapse_single (underscore : kind '_' = true) (s : List Char) : ¬ ['_', '_'] <:+: collapse kind s := by
  induction s using runwise kind with
  | nil => exact fun inside => absurd (List.infix_nil.mp inside) (by simp)
  | run c rest ofKind ih =>
    rw [collapse_cons_of_kind ofKind, List.infix_cons_iff, not_or]
    refine ⟨fun first => ?_, ih⟩
    -- What follows a run begins with a character of another kind.
    have second := (List.cons_prefix_cons.mp first).2
    have behind := List.head?_dropWhile_not kind rest
    cases shape : rest.dropWhile kind with
    | nil =>
      rw [shape] at second
      exact absurd (List.prefix_nil.mp second) (by simp)
    | cons d tail =>
      rw [shape] at second behind
      dsimp only [List.head?_cons] at behind
      rw [collapse_cons_of_not behind] at second
      rw [(List.cons_prefix_cons.mp second).1, behind] at underscore
      cases underscore
  | single c rest other ih =>
    rw [collapse_cons_of_not other, List.infix_cons_iff, not_or]
    refine ⟨fun first => ?_, ih⟩
    rw [(List.cons_prefix_cons.mp first).1, other] at underscore
    cases underscore

/-- A text whose only separators are underscores, single ones between other characters, is made of its blocks. -/
theorem intercalate_blocksFrom {block s : List Char} (only : ∀ c ∈ s, isSeparator c = true → c = '_')
    (single : ¬ ['_', '_'] <:+: s) (first : block = [] → s.head? ≠ some '_') (last : s.getLast? ≠ some '_') :
    ['_'].intercalate (blocksFrom isSeparator block s) = block.reverse ++ s := by
  induction s generalizing block with
  | nil =>
    change ['_'].intercalate (flush block) = block.reverse ++ []
    cases block <;> simp [flush]
  | cons c rest ih =>
    have others : ∀ d ∈ rest, isSeparator d = true → d = '_' := fun d member =>
      only d (List.mem_cons_of_mem c member)
    have apart : ¬ ['_', '_'] <:+: rest := fun inside => single (List.infix_cons inside)
    have ends : rest.getLast? ≠ some '_' := by
      intro closes
      obtain ⟨front, rfl⟩ := List.getLast?_eq_some_iff.mp closes
      exact last (by rw [← List.cons_append, List.getLast?_concat])
    cases separator : isSeparator c with
    | false =>
      rw [blocksFrom_cons_solid separator, ih others apart (by simp) ends]
      simp
    | true =>
      obtain rfl := only c List.mem_cons_self separator
      have begun : block ≠ [] := fun none => first none rfl
      cases rest with
      | nil => exact absurd rfl last
      | cons d rest =>
        have next : (d :: rest).head? ≠ some '_' := by
          intro again
          obtain rfl := Option.some.inj again
          exact single (List.prefix_append ['_', '_'] rest).isInfix
        have later : ['_'].intercalate (blocks isSeparator (d :: rest)) = d :: rest :=
          ih others apart (fun _ => next) ends
        rw [blocksFrom_cons_separator separator, flush, if_neg (by simpa using begun), List.singleton_append]
        -- Something stands behind the underscore, so another block follows.
        cases found : blocks isSeparator (d :: rest) with
        | nil =>
          rw [found] at later
          cases later
        | cons word words =>
          rw [List.intercalate_cons_cons, ← found, later, List.append_assoc]
          rfl

theorem intercalate_blocks {s : List Char} (only : ∀ c ∈ s, isSeparator c = true → c = '_')
    (single : ¬ ['_', '_'] <:+: s) (first : s.head? ≠ some '_') (last : s.getLast? ≠ some '_') :
    ['_'].intercalate (blocks isSeparator s) = s := by
  rw [blocks, intercalate_blocksFrom only single (fun _ => first) last]
  rfl

end TagAudit.Text
