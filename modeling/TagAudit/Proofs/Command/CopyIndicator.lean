import Mathlib.Data.List.Infix
import Mathlib.Data.List.TakeWhile
import TagAudit.Command.FileName
import TagAudit.Proofs.Text.Plain

namespace TagAudit

namespace Text

/-- The digits of any script are not blank. -/
theorem isBlank_of_digit {c : Char} (digit : isDigit c = true) : isBlank c = false := by
  have apart : ∀ r ∈ digitRanges, ∀ b ∈ blankRanges, r.2 < b.1 ∨ b.2 < r.1 := by decide
  by_cases ascii : c.toNat < 128
  · rw [isDigit, if_pos ascii] at digit
    exact isBlank_of_isDigit digit
  · rw [← Bool.not_eq_true]
    intro blank
    rw [isDigit, if_neg ascii] at digit
    rw [isBlank, if_neg ascii] at blank
    obtain ⟨r, isRange, within⟩ := List.any_eq_true.mp digit
    obtain ⟨b, isBlanks, inside⟩ := List.any_eq_true.mp blank
    simp only [Bool.and_eq_true, decide_eq_true_eq] at within inside
    rcases apart r isRange b isBlanks with before | behind <;> omega

/-- A part without blanks that a text has is untouched when blanks are taken off the start of the text. -/
theorem infix_trimStart_iff {part : List Char} (solid : ∀ c ∈ part, isBlank c = false) (s : List Char) :
    part <:+: trimStart s ↔ part <:+: s := by
  induction s with
  | nil => rfl
  | cons c rest ih =>
    rw [trimStart, List.dropWhile_cons]
    split
    · rename_i blank
      rw [← trimStart, ih, List.infix_cons_iff, or_iff_right_of_imp]
      intro first
      cases part with
      | nil => exact List.nil_infix
      | cons d part =>
        obtain ⟨rfl, _⟩ := List.cons_prefix_cons.mp first
        exact absurd blank (by simp [solid d List.mem_cons_self])
    · rfl

theorem infix_trim_iff {part : List Char} (solid : ∀ c ∈ part, isBlank c = false) (s : List Char) :
    part <:+: trim s ↔ part <:+: s := by
  have backwards : ∀ c ∈ part.reverse, isBlank c = false := fun c member => solid c (List.mem_reverse.mp member)
  rw [trim, ← List.reverse_infix, List.reverse_reverse, infix_trimStart_iff backwards, List.reverse_infix,
    infix_trimStart_iff solid]

end Text

namespace FileName

open Text

variable {s i text digits : List Char}

/-- A number in parentheses. -/
def IsIndicator (s : List Char) : Prop :=
  ∃ digits, digits ≠ [] ∧ (∀ c ∈ digits, isDigit c = true) ∧ s = '(' :: (digits ++ [')'])

/-- A copy indicator stands somewhere in the name. -/
def IsCopy (name : List Char) : Prop := ∃ i, IsIndicator i ∧ i <:+: name

/-- A text of digits and copy indicators, and its digits outside the indicators. -/
inductive Interspersed : List Char → List Char → Prop
  | nil : Interspersed [] []
  | digit {d : Char} {text digits : List Char} : isDigit d = true → Interspersed text digits →
      Interspersed (d :: text) (d :: digits)
  | indicator {i text digits : List Char} : IsIndicator i → Interspersed text digits → Interspersed (i ++ text) digits

/-- Copy indicators stand between the parentheses and the digits of another one, which is none before they are
dropped. -/
def HidesIndicator (name : List Char) : Prop :=
  ∃ before inner digits behind, name = before ++ '(' :: (inner ++ ')' :: behind) ∧ Interspersed inner digits ∧
    digits ≠ [] ∧ inner ≠ digits

theorem takeWhile_isDigit (number : ∀ c ∈ digits, isDigit c = true) (rest : List Char) :
    (digits ++ ')' :: rest).takeWhile isDigit = digits := by
  rw [List.takeWhile_append_of_pos number, List.takeWhile_cons_of_neg (by decide), List.append_nil]

theorem indicatorSize?_eq_some_iff {size : Nat} : indicatorSize? s = some size ↔
    ∃ i rest, IsIndicator i ∧ s = i ++ rest ∧ size = i.length := by
  constructor
  · intro found
    unfold indicatorSize? at found
    split at found
    · rename_i rest
      dsimp only at found
      split at found
      · rename_i checked
        cases found
        rw [Bool.and_eq_true, decide_eq_true_eq, beq_iff_eq] at checked
        obtain ⟨nonempty, closed⟩ := checked
        obtain ⟨behind, ends⟩ := List.head?_eq_some_iff.mp closed
        have parts := List.prefix_append_drop (List.takeWhile_prefix (l := rest) isDigit)
        rw [ends] at parts
        refine ⟨'(' :: (rest.takeWhile isDigit ++ [')']), behind,
          ⟨_, List.length_pos_iff.mp nonempty, fun c member => List.mem_takeWhile_imp member, rfl⟩, ?_, by simp⟩
        simpa using parts
      · cases found
    · cases found
  · rintro ⟨_, rest, ⟨digits, nonempty, number, rfl⟩, rfl, rfl⟩
    have shape : '(' :: (digits ++ [')']) ++ rest = '(' :: (digits ++ ')' :: rest) := by simp
    rw [shape, indicatorSize?, takeWhile_isDigit number]
    simp [List.length_pos_iff.mpr nonempty]

theorem indicatorSize?_eq_none_iff : indicatorSize? s = none ↔ ∀ i, IsIndicator i → ¬i <+: s := by
  rw [Option.eq_none_iff_forall_ne_some]
  constructor
  · rintro absent i indicates ⟨rest, rfl⟩
    exact absent i.length (indicatorSize?_eq_some_iff.mpr ⟨i, rest, indicates, rfl, rfl⟩)
  · intro absent size found
    obtain ⟨i, rest, indicates, rfl, _⟩ := indicatorSize?_eq_some_iff.mp found
    exact absent i indicates (List.prefix_append i rest)

/-- The first copy indicator is found exactly if there is one. -/
theorem indicator?_eq_none_iff : indicator? s = none ↔ ¬IsCopy s := by
  induction s with
  | nil =>
    refine iff_of_true rfl ?_
    rintro ⟨_, ⟨digits, _, _, rfl⟩, inside⟩
    exact absurd (List.infix_nil.mp inside) (by simp)
  | cons c rest ih =>
    rw [indicator?]
    cases found : indicatorSize? (c :: rest) with
    | some size =>
      obtain ⟨i, behind, indicates, shape, _⟩ := indicatorSize?_eq_some_iff.mp found
      refine iff_of_false (by simp) (not_not_intro ⟨i, indicates, ?_⟩)
      exact (shape ▸ List.prefix_append i behind).isInfix
    | none =>
      refine ih.trans (not_congr (exists_congr fun i => and_congr_right fun indicates => ?_))
      rw [List.infix_cons_iff, or_iff_right (indicatorSize?_eq_none_iff.mp found i indicates)]

instance (name : List Char) : Decidable (IsCopy name) :=
  decidable_of_iff (indicator? name ≠ none) ((not_congr indicator?_eq_none_iff).trans not_not)

theorem dropIndicators_append (indicates : IsIndicator i) (rest : List Char) :
    dropIndicators (i ++ rest) = dropIndicators rest := by
  have found := indicatorSize?_eq_some_iff.mpr ⟨i, rest, indicates, rfl, rfl⟩
  obtain ⟨digits, _, _, rfl⟩ := indicates
  rw [List.cons_append] at found
  rw [dropIndicators, rewrite, List.cons_append, rewriteFrom, found, Option.map_some]
  dsimp only
  rw [rewriteFrom_eq, List.nil_append]
  simp [dropIndicators]

theorem dropIndicators_cons {c : Char} {rest : List Char} (absent : ∀ i, IsIndicator i → ¬i <+: c :: rest) :
    dropIndicators (c :: rest) = c :: dropIndicators rest := by
  rw [dropIndicators, rewrite, rewriteFrom, indicatorSize?_eq_none_iff.mpr absent]
  rfl

/-- Only an opening parenthesis can begin a copy indicator. -/
theorem dropIndicators_cons_of_ne {c : Char} (other : c ≠ '(') (rest : List Char) :
    dropIndicators (c :: rest) = c :: dropIndicators rest := by
  refine dropIndicators_cons ?_
  rintro _ ⟨digits, _, _, rfl⟩ first
  exact other (List.cons_prefix_cons.mp first).1.symm

theorem ne_opening_of_isDigit {c : Char} (digit : isDigit c = true) : c ≠ '(' := by
  rintro rfl
  revert digit
  decide

theorem ne_closing_of_isDigit {c : Char} (digit : isDigit c = true) : c ≠ ')' := by
  rintro rfl
  revert digit
  decide

/-- A text is read in pieces: copy indicators, and single characters at which none begins. -/
theorem piecewise {motive : List Char → Prop} (nil : motive [])
    (indicator : ∀ i rest, IsIndicator i → motive rest → motive (i ++ rest))
    (single : ∀ c rest, (∀ i, IsIndicator i → ¬i <+: c :: rest) → motive rest → motive (c :: rest))
    (s : List Char) : motive s := by
  induction size : s.length using Nat.strong_induction_on generalizing s with
  | h n ih =>
    cases s with
    | nil => exact nil
    | cons c rest =>
      cases found : indicatorSize? (c :: rest) with
      | some width =>
        obtain ⟨i, behind, indicates, shape, _⟩ := indicatorSize?_eq_some_iff.mp found
        have shorter : behind.length < n := by
          obtain ⟨digits, _, _, rfl⟩ := indicates
          rw [← size, shape]
          simp only [List.length_append, List.length_cons]
          omega
        rw [shape]
        exact indicator i behind indicates (ih _ shorter behind rfl)
      | none =>
        have shorter : rest.length < n := by
          rw [← size]
          simp
        exact single c rest (indicatorSize?_eq_none_iff.mp found) (ih _ shorter rest rfl)

theorem Interspersed.digits_number (spread : Interspersed text digits) : ∀ c ∈ digits, isDigit c = true := by
  induction spread with
  | nil => simp
  | digit isDigit _ ih => exact List.forall_mem_cons.mpr ⟨isDigit, ih⟩
  | indicator _ _ ih => exact ih

/-- The digits that are left before a closing parenthesis were interspersed with what was dropped. -/
theorem exists_interspersed {s digits behind : List Char} (number : ∀ c ∈ digits, isDigit c = true)
    (left : dropIndicators s = digits ++ ')' :: behind) :
    ∃ inner rest, s = inner ++ ')' :: rest ∧ Interspersed inner digits := by
  induction s using piecewise generalizing digits with
  | nil => simp [dropIndicators, rewrite, rewriteFrom] at left
  | indicator i rest indicates ih =>
    rw [dropIndicators_append indicates] at left
    obtain ⟨inner, last, rfl, spread⟩ := ih number left
    exact ⟨i ++ inner, last, by simp, .indicator indicates spread⟩
  | single c rest absent ih =>
    rw [dropIndicators_cons absent] at left
    cases digits with
    | nil =>
      obtain ⟨rfl, _⟩ := List.cons.inj left
      exact ⟨[], rest, rfl, .nil⟩
    | cons d digits =>
      obtain ⟨rfl, later⟩ := List.cons.inj left
      obtain ⟨isDigit, others⟩ := List.forall_mem_cons.mp number
      obtain ⟨inner, last, rfl, spread⟩ := ih others later
      exact ⟨c :: inner, last, rfl, .digit isDigit spread⟩

/-- What stands between digits and before a closing parenthesis is dropped. -/
theorem Interspersed.dropIndicators_eq (spread : Interspersed text digits) (rest : List Char) :
    dropIndicators (text ++ ')' :: rest) = digits ++ ')' :: dropIndicators rest := by
  induction spread with
  | nil => exact dropIndicators_cons_of_ne (by decide) rest
  | digit isDigit _ ih =>
    rw [List.cons_append, dropIndicators_cons_of_ne (ne_opening_of_isDigit isDigit), ih, List.cons_append]
  | indicator indicates _ ih => rw [List.append_assoc, dropIndicators_append indicates, ih]

/-- Digits with other digits and a closing parenthesis behind them have no copy indicator among them. -/
theorem Interspersed.eq_digits (spread : Interspersed text digits) {number rest behind : List Char}
    (plain : ∀ c ∈ number, isDigit c = true) (same : text ++ ')' :: rest = number ++ ')' :: behind) :
    text = digits := by
  induction spread generalizing number with
  | nil => rfl
  | digit isDigit _ ih =>
    cases number with
    | nil => exact absurd (List.cons.inj same).1 (ne_closing_of_isDigit isDigit)
    | cons d number =>
      rw [ih (List.forall_mem_cons.mp plain).2 (List.cons.inj same).2]
  | indicator indicates _ _ =>
    obtain ⟨inner, _, _, rfl⟩ := indicates
    cases number with
    | nil => exact absurd (List.cons.inj same).1 (by decide)
    | cons d number =>
      obtain ⟨rfl, _⟩ := List.cons.inj same
      exact absurd rfl (ne_opening_of_isDigit (List.forall_mem_cons.mp plain).1)

theorem HidesIndicator.append_left (front : List Char) (hides : HidesIndicator s) : HidesIndicator (front ++ s) := by
  obtain ⟨before, inner, digits, behind, rfl, spread, nonempty, more⟩ := hides
  exact ⟨front ++ before, inner, digits, behind, by simp, spread, nonempty, more⟩

/-- What hides an indicator behind another one is no part of that one. -/
theorem HidesIndicator.of_append (indicates : IsIndicator i) {rest : List Char} (hides : HidesIndicator (i ++ rest)) :
    HidesIndicator rest := by
  obtain ⟨before, inner, digits, behind, shape, spread, nonempty, more⟩ := hides
  obtain ⟨number, _, isNumber, rfl⟩ := indicates
  obtain ⟨front, rfl, later⟩ | ⟨front, ends, later⟩ := List.append_eq_append_iff.mp shape
  · exact ⟨front, inner, digits, behind, later, spread, nonempty, more⟩
  · cases front with
    | nil => exact ⟨[], inner, digits, behind, later.symm, spread, nonempty, more⟩
    | cons c front =>
      -- The opening parenthesis is the one of the indicator, as the others of its characters are none.
      obtain ⟨rfl, later⟩ := List.cons.inj later
      cases before with
      | nil =>
        obtain ⟨_, rfl⟩ := List.cons.inj ends
        have same : inner ++ ')' :: behind = number ++ ')' :: rest := by simpa using later
        exact absurd (spread.eq_digits isNumber same) more
      | cons d before =>
        have member : '(' ∈ number ++ [')'] := by
          rw [(List.cons.inj ends).2]
          simp
        rcases List.mem_append.mp member with inside | last
        · exact absurd rfl (ne_opening_of_isDigit (isNumber _ inside))
        · exact absurd last (by decide)

/-- A number that is in parentheses after dropping was interspersed with indicators, or would have been one. -/
theorem hidesIndicator_of_isCopy (left : IsCopy (dropIndicators s)) : HidesIndicator s := by
  obtain ⟨_, ⟨digits, nonempty, number, rfl⟩, inside⟩ := left
  induction s using piecewise with
  | nil => exact absurd (List.infix_nil.mp inside) (by simp)
  | indicator i rest indicates ih =>
    rw [dropIndicators_append indicates] at inside
    exact (ih inside).append_left i
  | single c rest absent ih =>
    rw [dropIndicators_cons absent] at inside
    rcases List.infix_cons_iff.mp inside with ⟨behind, first⟩ | later
    · obtain ⟨rfl, left⟩ := List.cons.inj first
      have closed : dropIndicators rest = digits ++ ')' :: behind := by simpa using left.symm
      obtain ⟨inner, last, rfl, spread⟩ := exists_interspersed number closed
      refine ⟨[], inner, digits, last, rfl, spread, nonempty, ?_⟩
      rintro rfl
      exact absent _ ⟨inner, nonempty, number, rfl⟩ ⟨last, by simp⟩
    · exact (ih later).append_left [c]

theorem HidesIndicator.isCopy (hides : HidesIndicator s) : IsCopy (dropIndicators s) := by
  induction s using piecewise with
  | nil =>
    obtain ⟨before, inner, digits, behind, shape, _⟩ := hides
    simp at shape
  | indicator i rest indicates ih =>
    rw [dropIndicators_append indicates]
    exact ih (hides.of_append indicates)
  | single c rest absent ih =>
    obtain ⟨before, inner, digits, behind, shape, spread, nonempty, more⟩ := hides
    rw [dropIndicators_cons absent]
    cases before with
    | nil =>
      obtain ⟨rfl, rfl⟩ := List.cons.inj shape
      rw [spread.dropIndicators_eq]
      exact ⟨_, ⟨digits, nonempty, spread.digits_number, rfl⟩, [], dropIndicators behind, by simp⟩
    | cons d before =>
      obtain ⟨rfl, rfl⟩ := List.cons.inj shape
      obtain ⟨i, indicates, inside⟩ := ih ⟨before, inner, digits, behind, rfl, spread, nonempty, more⟩
      exact ⟨i, indicates, List.infix_cons inside⟩

/-- Copy indicators are left after dropping exactly where others hid them. -/
theorem isCopy_dropIndicators_iff : IsCopy (dropIndicators s) ↔ HidesIndicator s :=
  ⟨hidesIndicator_of_isCopy, HidesIndicator.isCopy⟩

/-- Drops the blanks that stand right before a mark. -/
def thin (mark : Char) : List Char → List Char
  | [] => []
  | c :: rest => if c == ' ' && rest.head? == some mark then thin mark rest else c :: thin mark rest

theorem squeeze_eq_thin (s : List Char) : squeeze s = thin ' ' s := by
  induction s with
  | nil => rfl
  | cons c rest ih => rw [squeeze, thin, ih]

theorem closeDots_eq_thin (s : List Char) : closeDots s = thin '.' s := by
  induction s with
  | nil => rfl
  | cons c rest ih => rw [closeDots, thin, ih]

theorem prefix_thin_iff {mark : Char} {part : List Char} (noBlank : ' ' ∉ part) (noMark : mark ∉ part)
    (s : List Char) : part <+: thin mark s ↔ part <+: s := by
  induction s generalizing part with
  | nil => rfl
  | cons c rest ih =>
    cases part with
    | nil => simp
    | cons d part =>
      rw [thin]
      split
      · rename_i dropped
        rw [Bool.and_eq_true, beq_iff_eq, beq_iff_eq] at dropped
        obtain ⟨rfl, next⟩ := dropped
        obtain ⟨behind, rfl⟩ := List.head?_eq_some_iff.mp next
        rw [ih noBlank noMark]
        refine iff_of_false (fun first => ?_) fun first => ?_
        · exact noMark ((List.cons_prefix_cons.mp first).1 ▸ List.mem_cons_self)
        · exact noBlank ((List.cons_prefix_cons.mp first).1 ▸ List.mem_cons_self)
      · rw [List.cons_prefix_cons, List.cons_prefix_cons, ih (fun inside => noBlank (List.mem_cons_of_mem _ inside))
          fun inside => noMark (List.mem_cons_of_mem _ inside)]

/-- A blank that is dropped stands between two characters of which neither belongs to the part. -/
theorem infix_thin_iff {mark : Char} {part : List Char} (noBlank : ' ' ∉ part) (noMark : mark ∉ part)
    (s : List Char) : part <:+: thin mark s ↔ part <:+: s := by
  induction s with
  | nil => rfl
  | cons c rest ih =>
    have first := prefix_thin_iff noBlank noMark (c :: rest)
    rw [thin] at first ⊢
    split
    · rename_i dropped
      rw [if_pos dropped] at first
      rw [List.infix_cons_iff, ih, or_iff_right_of_imp]
      exact fun starts => (ih.mp (first.mpr starts).isInfix)
    · rename_i kept
      rw [if_neg kept] at first
      rw [List.infix_cons_iff, List.infix_cons_iff, first, ih]

theorem IsIndicator.isBlank_eq_false (indicates : IsIndicator i) : ∀ c ∈ i, isBlank c = false := by
  obtain ⟨digits, _, number, rfl⟩ := indicates
  intro c member
  simp only [List.mem_cons, List.mem_append, List.not_mem_nil, or_false] at member
  rcases member with rfl | inside | rfl
  · decide
  · exact isBlank_of_digit (number c inside)
  · decide

theorem IsIndicator.dot_not_mem (indicates : IsIndicator i) : '.' ∉ i := by
  obtain ⟨digits, _, number, rfl⟩ := indicates
  intro member
  simp only [List.mem_cons, List.mem_append, List.not_mem_nil, or_false] at member
  rcases member with same | inside | same
  · exact absurd same (by decide)
  · exact absurd (number _ inside) (by decide)
  · exact absurd same (by decide)

/-- The blanks that are taken off a name neither make nor break a copy indicator: a clean name is a copy exactly if
indicators were hidden in the name. -/
theorem isCopy_clean_iff (name : String) : IsCopy (clean name).toList ↔ HidesIndicator name.toList := by
  rw [← isCopy_dropIndicators_iff, clean, String.toList_ofList, squeeze_eq_thin, closeDots_eq_thin]
  refine exists_congr fun i => and_congr_right fun indicates => ?_
  have solid := indicates.isBlank_eq_false
  have noBlank : ' ' ∉ i := fun member => absurd (solid _ member) (by decide)
  rw [infix_thin_iff noBlank indicates.dot_not_mem, infix_trim_iff solid, infix_thin_iff noBlank noBlank]

end FileName

end TagAudit
