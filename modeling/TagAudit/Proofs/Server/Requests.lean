import Mathlib.Data.List.Forall2
import Mathlib.Data.List.Induction
import TagAudit.Proofs.Server.Values

namespace TagAudit

/-- A part that ends in something that does not occur behind a list stands within the list. -/
theorem infix_append_iff {α : Type} {part base behind : List α} {last : α}
    (ends : part.getLast? = some last) (absent : last ∉ behind) :
    part <:+: base ++ behind ↔ part <:+: base := by
  induction behind using List.reverseRecOn with
  | nil => rw [List.append_nil]
  | append_singleton before x ih =>
    rw [List.mem_append, List.mem_singleton, not_or] at absent
    have notLast : ¬ part <:+ base ++ before ++ [x] := by
      rintro ⟨front, whole⟩
      have lasts := congrArg List.getLast? whole
      rw [List.getLast?_append, ends, List.getLast?_concat] at lasts
      exact absent.2 (Option.some.inj lasts)
    rw [← List.append_assoc, List.infix_concat_iff, or_iff_right notLast, ih absent.1]

namespace Server

/-- What a new constant is called: by the name that is asked for, with a number where it is taken. -/
def NamedAfter (base name : String) : Prop := name = base ∨ ∃ number, name = Draft.numberedName base number

/-- Whether a text ends neither in a digit nor in a blank. -/
def endsInWord (part : String) : Bool := part.toList.getLast?.any fun c => !c.isDigit && c != ' '

theorem NamedAfter.contains_iff {base name part : String} (named : NamedAfter base name)
    (word : endsInWord part = true) : Text.contains name part = true ↔ Text.contains base part = true := by
  obtain rfl | ⟨number, rfl⟩ := named
  · rfl
  · obtain ⟨last, ends, noDigit⟩ := (Option.any_eq_true _ _).mp word
    have absent : last ∉ ' ' :: Nat.toDigits 10 number := by
      rintro (_ | ⟨_, digit⟩)
      · simp at noDigit
      · simp [Nat.isDigit_of_mem_toDigits (by decide) (by decide) digit] at noDigit
    have spelled : (Draft.numberedName base number).toList = base.toList ++ ' ' :: Nat.toDigits 10 number := by
      simp [Draft.numberedName, Numeral.ofInt_natCast, Numeral.ofNat]
    rw [Text.contains, Text.contains, Text.occurs_iff, Text.occurs_iff, spelled, infix_append_iff ends absent]

theorem NamedAfter.isPrefix {base name : String} (named : NamedAfter base name) : base.toList <+: name.toList := by
  obtain rfl | ⟨number, rfl⟩ := named
  · exact List.prefix_rfl
  · rw [Draft.numberedName, String.append_assoc, String.toList_append]
    exact List.prefix_append _ _

/-- A tag asks for a constant that stands for a value. -/
structure Request where
  base : String
  what : String
  value : Json

/-- The name of the constants for identifiers of GA4. -/
def measurementName : String := constantName "ga4 measurement id"

/-- The constants that a tag asks for, in their order. -/
def requests (tag : Entity) : List Request :=
  match tag.type with
  | .str "gaawe" | .str "gawc" =>
    [⟨measurementName, "GA4 Measurement ID, z.B. G-XXXXXXXXXX", Draft.measurementId tag⟩]
  | .str "awct" | .str "adsct" =>
    [⟨constantName "google ads conversion id", "Google Ads Conversion ID, z.B. AW-123456789",
        tag.parameterValue "conversionId"⟩,
      ⟨Draft.conversionLabelName tag,
        "Conversion Label fuer " ++ if tag.name.isEmpty then "Tag" else tag.name,
        tag.parameterValue "conversionLabel"⟩]
  | _ => []

/-- The credentials that the server tag of a tag needs. -/
def credentials (tag : Entity) : List Credential :=
  ((templateVendor? tag.type.textOrEmpty).map (·.credentials)).getD []

/-- Grants a request if its value is a text that no request has been granted for. A row has the name
that is asked for, and the text. -/
def grant (rows : List (String × String)) (r : Request) : List (String × String) :=
  match r.value with
  | .str text => if text.isEmpty || rows.any (·.2 == text) then rows else rows ++ [(r.base, text)]
  | _ => rows

/-- The requests of some tags that are granted. -/
def granted (tags : List Entity) : List (String × String) := (tags.flatMap requests).foldl grant []

theorem requests_eq_nil {tag : Entity} (other : ∀ type ∈ ["gaawe", "gawc", "awct", "adsct"],
    tag.type ≠ .str type) : requests tag = [] := by
  unfold requests
  split
  · rename_i type
    exact absurd type (other _ (by decide))
  · rename_i type
    exact absurd type (other _ (by decide))
  · rename_i type
    exact absurd type (other _ (by decide))
  · rename_i type
    exact absurd type (other _ (by decide))
  · rfl

theorem mem_grant {rows : List (String × String)} {r : Request} {row : String × String}
    (member : row ∈ grant rows r) : row ∈ rows ∨ r.base = row.1 ∧ r.value = .str row.2 := by
  unfold grant at member
  split at member
  · rename_i text isText
    split at member
    · exact Or.inl member
    · rcases List.mem_append.mp member with old | new
      · exact Or.inl old
      · cases List.mem_singleton.mp new
        exact Or.inr ⟨rfl, isText⟩
  · exact Or.inl member

/-- What is granted has been asked for. -/
theorem request_of_mem_granted {tags : List Entity} {row : String × String} (member : row ∈ granted tags) :
    ∃ tag ∈ tags, ∃ r ∈ requests tag, r.base = row.1 ∧ r.value = .str row.2 := by
  have asked : ∃ r ∈ tags.flatMap requests, r.base = row.1 ∧ r.value = .str row.2 := by
    revert member
    refine List.foldlRecOn (motive := fun rows => row ∈ rows →
      ∃ r ∈ tags.flatMap requests, r.base = row.1 ∧ r.value = .str row.2) _ _ (by simp) ?_
    intro rows before r isRequest member
    rcases mem_grant member with old | new
    · exact before old
    · exact ⟨r, isRequest, new⟩
  obtain ⟨r, isRequest, same⟩ := asked
  obtain ⟨tag, isTag, ofTag⟩ := List.mem_flatMap.mp isRequest
  exact ⟨tag, isTag, r, ofTag, same⟩

namespace Draft

theorem freeNameFrom_namedAfter (d : Draft) (base : String) (tries number : Nat) :
    NamedAfter base (d.freeNameFrom base tries number) := by
  induction tries generalizing number with
  | zero => exact Or.inr ⟨number, rfl⟩
  | succ tries ih =>
    unfold freeNameFrom
    split
    · exact ih (number + 1)
    · exact Or.inr ⟨number, rfl⟩

theorem freeName_namedAfter (d : Draft) (base : String) : NamedAfter base (d.freeName base) := by
  unfold freeName
  split
  · exact d.freeNameFrom_namedAfter base _ _
  · exact Or.inl rfl

def addRequest (d : Draft) (r : Request) : Draft := d.addValue r.value r.base r.what

/-- A tag gets constants for its values and for its credentials. -/
theorem addConstantsOf_eq (d : Draft) (tag : Entity) :
    d.addConstantsOf tag = ((requests tag).foldl addRequest d).addCredentials (credentials tag) := by
  by_cases values : ∃ type ∈ ["gaawe", "gawc", "awct", "adsct"], tag.type = .str type
  · obtain ⟨type, member, isType⟩ := values
    simp only [List.mem_cons, List.not_mem_nil, or_false] at member
    rcases member with rfl | rfl | rfl | rfl <;>
      · simp only [addConstantsOf, requests, credentials, isType]
        rfl
  · have other : ∀ type ∈ ["gaawe", "gawc", "awct", "adsct"], tag.type ≠ .str type :=
      fun type member isType => values ⟨type, member, isType⟩
    rw [requests_eq_nil other, List.foldl_nil]
    unfold addConstantsOf credentials
    split
    · rename_i type
      exact absurd type (other _ (by decide))
    · rename_i type
      exact absurd type (other _ (by decide))
    · rename_i type
      exact absurd type (other _ (by decide))
    · rename_i type
      exact absurd type (other _ (by decide))
    · rename_i isText
      rw [isText]
      rfl
    · rename_i noText
      have blank : tag.type.textOrEmpty = "" := by
        cases type : tag.type with
        | str s => exact absurd type (noText s)
        | _ => rfl
      rw [blank]
      rfl

theorem addCredentials_constantOf (d : Draft) (cs : List Credential) :
    (d.addCredentials cs).constantOf = d.constantOf :=
  List.foldlRecOn (motive := fun e : Draft => e.constantOf = d.constantOf) _ _ rfl
    fun _ same _ _ => (ensureConstant_constantOf _ _ _).trans same

/-- The texts that a draft has constants for are those of the granted requests. -/
def Grants (rows : List (String × String)) (d : Draft) : Prop :=
  List.Forall₂ (fun row entry => entry.1 = row.2 ∧ NamedAfter row.1 entry.2) rows d.constantOf

variable {d : Draft} {rows : List (String × String)}

theorem Grants.any_eq (grants : Grants rows d) (text : String) :
    rows.any (·.2 == text) = (d.constantOf.lookup text).isSome := by
  unfold Grants at grants
  generalize d.constantOf = entries at grants ⊢
  induction grants with
  | nil => rfl
  | @cons row entry rows entries first rest ih =>
    rw [List.any_cons, List.lookup_cons, ih, ← first.1, BEq.comm]
    cases text == entry.1 <;> rfl

theorem Grants.addRequest (grants : Grants rows d) (r : Request) :
    Grants (grant rows r) (d.addRequest r) := by
  unfold Draft.addRequest addValue grant
  cases r.value with
  | str text =>
    dsimp only
    rw [grants.any_eq text]
    split
    · exact grants
    · exact List.rel_append grants (.cons ⟨rfl, d.freeName_namedAfter r.base⟩ .nil)
  | _ => exact grants

theorem Grants.addConstantsOf (grants : Grants rows d) (tag : Entity) :
    Grants ((requests tag).foldl grant rows) (d.addConstantsOf tag) := by
  rw [addConstantsOf_eq, Grants, addCredentials_constantOf]
  generalize requests tag = asked
  induction asked generalizing d rows with
  | nil => exact grants
  | cons r rest ih => exact ih (grants.addRequest r)

theorem Grants.foldl_addConstantsOf (grants : Grants rows d) (tags : List Entity) :
    Grants ((tags.flatMap requests).foldl grant rows) (tags.foldl Draft.addConstantsOf d) := by
  rw [List.foldl_flatMap]
  induction tags generalizing d rows with
  | nil => exact grants
  | cons tag rest ih => exact ih (grants.addConstantsOf tag)

/-- All constants whose names hold a part stand for values. -/
def ByValue (part : String) (d : Draft) : Prop :=
  (d.constants.map (·.name)).filter (Text.contains · part) =
    (d.constantOf.map (·.2)).filter (Text.contains · part)

variable {part : String}

theorem ByValue.addRequest (byValue : d.ByValue part) (r : Request) : (d.addRequest r).ByValue part := by
  unfold Draft.addRequest addValue
  split
  · split
    · exact byValue
    · unfold ByValue at byValue ⊢
      simp only [addConstant, List.map_append, List.map_cons, List.map_nil, List.filter_append, byValue]
  · exact byValue

theorem ByValue.ensureConstant (byValue : d.ByValue part) {name : String}
    (foreign : Text.contains name part = false) (value : String) : (d.ensureConstant name value).ByValue part := by
  unfold Draft.ensureConstant
  split
  · exact byValue
  · unfold ByValue at byValue ⊢
    simp only [addConstant, List.map_append, List.map_cons, List.map_nil, List.filter_append, byValue,
      List.filter_cons, foreign, List.filter_nil]
    exact List.append_nil _

theorem ByValue.addConstantsOf (byValue : d.ByValue part) {tag : Entity}
    (foreign : ∀ c ∈ credentials tag, Text.contains (constantName c.name) part = false) :
    (d.addConstantsOf tag).ByValue part := by
  rw [addConstantsOf_eq]
  refine List.foldlRecOn (motive := ByValue part) _ _ ?_ fun _ before c member =>
    before.ensureConstant (foreign c member) _
  exact List.foldlRecOn (motive := ByValue part) _ _ byValue fun _ before r _ => before.addRequest r

theorem ByValue.foldl_addConstantsOf (byValue : d.ByValue part) {tags : List Entity}
    (foreign : ∀ tag ∈ tags, ∀ c ∈ credentials tag, Text.contains (constantName c.name) part = false) :
    (tags.foldl Draft.addConstantsOf d).ByValue part :=
  List.foldlRecOn (motive := ByValue part) _ _ byValue fun _ before tag member =>
    before.addConstantsOf (foreign tag member)

theorem ByValue.findConstant?_eq (byValue : d.ByValue part) :
    d.findConstant? part = (d.constantOf.find? fun entry => Text.contains entry.2 part).map (·.2) := by
  have names : (d.constants.map (·.name)).find? (Text.contains · part) =
      (d.constantOf.map (·.2)).find? (Text.contains · part) := by
    rw [← List.head?_filter, ← List.head?_filter, byValue]
  rw [List.find?_map, List.find?_map] at names
  exact names

end Draft

section

variable {α β : Type} {R : α → β → Prop} {p : α → Bool} {q : β → Bool} {xs : List α} {ys : List β}
  (related : List.Forall₂ R xs ys) (same : ∀ a b, R a b → p a = q b)
include related same

theorem forall₂_find?_of_none (absent : xs.find? p = none) : ys.find? q = none := by
  induction related with
  | nil => rfl
  | @cons x y _ _ here _ ih =>
    rw [List.find?_cons, same x y here] at absent
    rw [List.find?_cons]
    cases holds : q y with
    | true =>
      rw [holds] at absent
      cases absent
    | false =>
      rw [holds] at absent
      exact ih absent

theorem forall₂_find?_of_some {a : α} (first : xs.find? p = some a) : ∃ b, ys.find? q = some b ∧ R a b := by
  induction related with
  | nil => cases first
  | @cons x y _ _ here _ ih =>
    rw [List.find?_cons, same x y here] at first
    rw [List.find?_cons]
    cases holds : q y with
    | true =>
      rw [holds] at first
      cases first
      exact ⟨y, rfl, here⟩
    | false =>
      rw [holds] at first
      exact ih first

end

namespace Draft

section

variable {d : Draft} {rows : List (String × String)} {part : String} (grants : Grants rows d)
  (byValue : d.ByValue part) (word : endsInWord part = true)
include grants byValue word

theorem Grants.findConstant?_of_none
    (absent : rows.find? (fun row => Text.contains row.1 part) = none) : d.findConstant? part = none := by
  have none := forall₂_find?_of_none (q := fun entry => Text.contains entry.2 part) grants
    (fun _ _ same => Bool.eq_iff_iff.mpr (same.2.contains_iff word).symm) absent
  rw [byValue.findConstant?_eq, none]
  rfl

/-- The constant that is found by a part of its name is the one of the first granted row under such a
name. -/
theorem Grants.findConstant?_of_some {row : String × String}
    (first : rows.find? (fun row => Text.contains row.1 part) = some row) :
    ∃ name, d.findConstant? part = some name ∧ NamedAfter row.1 name ∧ (row.2, name) ∈ d.constantOf := by
  obtain ⟨⟨text, name⟩, found, rfl, named⟩ := forall₂_find?_of_some
    (q := fun entry => Text.contains entry.2 part) grants
    (fun _ _ same => Bool.eq_iff_iff.mpr (same.2.contains_iff word).symm) first
  refine ⟨name, ?_, named, List.mem_of_find?_eq_some found⟩
  rw [byValue.findConstant?_eq, found]
  rfl

end

end Draft

end Server

end TagAudit
