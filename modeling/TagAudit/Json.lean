namespace TagAudit

/-- A JSON value. The fields of an object keep the order in which they were written. -/
inductive Json where
  | null
  | bool (b : Bool)
  | int (n : Int)
  | float (x : Float)
  | str (s : String)
  | arr (items : List Json)
  | obj (fields : List (String × Json))
  deriving Inhabited

namespace Json

instance : Coe String Json := ⟨.str⟩
instance : Coe Bool Json := ⟨.bool⟩
instance : Coe Nat Json := ⟨fun n => .int n⟩

/-- The value of a field, if the object has it. -/
def lookup (fields : List (String × Json)) (key : String) : Option Json :=
  match fields with
  | [] => none
  | (k, v) :: rest => if k = key then some v else lookup rest key

/-- Gives a field a new value in its place, or appends the field. -/
def assign (fields : List (String × Json)) (key : String) (value : Json) : List (String × Json) :=
  match fields with
  | [] => [(key, value)]
  | (k, v) :: rest => if k = key then (k, value) :: rest else (k, v) :: assign rest key value

/-- Assigns the fields of `changes` one after the other. -/
def assignAll (fields changes : List (String × Json)) : List (String × Json) :=
  changes.foldl (fun acc (key, value) => assign acc key value) fields

/-- Empty, zero, false and null values do not hold. -/
def holds : Json → Bool
  | null => false
  | bool b => b
  | int n => n != 0
  | float x => x != 0.0
  | str s => !s.isEmpty
  | arr items => !items.isEmpty
  | obj fields => !fields.isEmpty

/-- The items of a list; any other value counts as an empty collection. -/
def items : Json → List Json
  | arr xs => xs
  | _ => []

def isList : Json → Bool
  | arr _ => true
  | _ => false

def isText : Json → Bool
  | str _ => true
  | _ => false

def text? : Json → Option String
  | str s => some s
  | _ => none

/-- A text as it is; any other value counts as the empty text. -/
def textOrEmpty : Json → String
  | str s => s
  | _ => ""

def isNull : Json → Bool
  | null => true
  | _ => false

/-- Whether the value is this text. -/
def isStr (value : Json) (s : String) : Bool :=
  match value with
  | str t => t == s
  | _ => false

/-- Whether the value is one of these texts. -/
def isOneOf (value : Json) (texts : List String) : Bool :=
  match value with
  | str t => texts.contains t
  | _ => false

def fields? : Json → Option (List (String × Json))
  | obj fields => some fields
  | _ => none

/-- A field of an object; null where the value is no object or lacks the field. -/
def field (value : Json) (key : String) : Json :=
  match value with
  | obj fields => (lookup fields key).getD null
  | _ => null

/-- The value in place of one that does not hold. -/
def orElse (value other : Json) : Json := if value.holds then value else other

def texts (xs : List String) : Json := arr (xs.map str)

theorem isStr_iff {value : Json} {s : String} : value.isStr s = true ↔ value = .str s := by
  cases value <;> simp [isStr]

theorem eq_str_of_text? {value : Json} {s : String} (text : value.text? = some s) : value = .str s := by
  cases value <;> cases text
  rfl

theorem exists_of_isText {value : Json} (text : value.isText = true) : ∃ s, value = .str s := by
  cases value with
  | str s => exact ⟨s, rfl⟩
  | _ => cases text

theorem lookup_assign_self (fields : List (String × Json)) (key : String) (value : Json) :
    lookup (assign fields key value) key = some value := by
  induction fields with
  | nil => simp [assign, lookup]
  | cons entry rest ih =>
    obtain ⟨k, v⟩ := entry
    by_cases h : k = key <;> simp [assign, lookup, h, ih]

theorem lookup_assign_of_ne {key other : String} (ne : other ≠ key) (fields : List (String × Json))
    (value : Json) : lookup (assign fields key value) other = lookup fields other := by
  induction fields with
  | nil => simp [assign, lookup, Ne.symm ne]
  | cons entry rest ih =>
    obtain ⟨k, v⟩ := entry
    by_cases h : k = key
    · subst h
      simp [assign, lookup, Ne.symm ne]
    · simp [assign, lookup, h, ih]

/-- The value that a field is given last stands. -/
theorem assign_assign (fields : List (String × Json)) (key : String) (old new : Json) :
    assign (assign fields key old) key new = assign fields key new := by
  induction fields with
  | nil => simp [assign]
  | cons entry rest ih =>
    obtain ⟨k, v⟩ := entry
    by_cases h : k = key <;> simp [assign, h, ih]

theorem assign_of_lookup {fields : List (String × Json)} {key : String} {value : Json}
    (present : lookup fields key = some value) : assign fields key value = fields := by
  induction fields with
  | nil => simp [lookup] at present
  | cons entry rest ih =>
    obtain ⟨k, v⟩ := entry
    by_cases h : k = key
    · simp_all [assign, lookup]
    · simp_all [assign, lookup]

/-- A field that is there is given its value in place, whatever is assigned before. -/
theorem assign_comm {key other : String} (ne : other ≠ key) {fields : List (String × Json)}
    (present : (lookup fields other).isSome = true) (value new : Json) :
    assign (assign fields key value) other new = assign (assign fields other new) key value := by
  induction fields with
  | nil => simp [lookup] at present
  | cons entry rest ih =>
    obtain ⟨k, v⟩ := entry
    by_cases first : k = key
    · subst first
      simp [assign, Ne.symm ne]
    · by_cases second : k = other
      · subst second
        simp [assign, first]
      · rw [lookup, if_neg second] at present
        simp [assign, first, second, ih present]

/-- Fields that are not among the changes stay as they are. -/
theorem lookup_assignAll {changes : List (String × Json)} {key : String}
    (unchanged : lookup changes key = none) (fields : List (String × Json)) :
    lookup (assignAll fields changes) key = lookup fields key := by
  induction changes generalizing fields with
  | nil => rfl
  | cons entry rest ih =>
    obtain ⟨k, v⟩ := entry
    by_cases same : k = key
    · simp [lookup, same] at unchanged
    · rw [lookup, if_neg same] at unchanged
      rw [assignAll, List.foldl_cons, ← assignAll, ih unchanged, lookup_assign_of_ne (Ne.symm same)]

theorem assignAll_cons (fields : List (String × Json)) (key : String) (value : Json)
    (changes : List (String × Json)) :
    assignAll fields ((key, value) :: changes) = assignAll (assign fields key value) changes := rfl

theorem lookup_eq_none_of_not_mem {changes : List (String × Json)} {key : String}
    (absent : key ∉ changes.map (·.1)) : lookup changes key = none := by
  induction changes with
  | nil => rfl
  | cons entry rest ih =>
    obtain ⟨k, v⟩ := entry
    rw [List.map_cons, List.mem_cons, not_or] at absent
    rw [lookup, if_neg (Ne.symm absent.1), ih absent.2]

/-- Fields that are assigned once each have the values that they are given. -/
theorem lookup_assignAll_of_mem {changes : List (String × Json)}
    (once : (changes.map (·.1)).Nodup) {key : String} {value : Json}
    (member : (key, value) ∈ changes) (fields : List (String × Json)) :
    lookup (assignAll fields changes) key = some value := by
  induction changes generalizing fields with
  | nil => simp at member
  | cons entry rest ih =>
    obtain ⟨k, v⟩ := entry
    obtain ⟨fresh, others⟩ := List.nodup_cons.mp once
    rw [assignAll_cons]
    rcases List.mem_cons.mp member with first | later
    · cases first
      rw [lookup_assignAll (lookup_eq_none_of_not_mem fresh), lookup_assign_self]
    · exact ih others later _

theorem assign_assignAll {changes : List (String × Json)} {key : String}
    (absent : key ∉ changes.map (·.1)) {fields : List (String × Json)}
    (present : (lookup fields key).isSome = true) (value : Json) :
    assign (assignAll fields changes) key value = assignAll (assign fields key value) changes := by
  induction changes generalizing fields with
  | nil => rfl
  | cons entry rest ih =>
    obtain ⟨k, v⟩ := entry
    rw [List.map_cons, List.mem_cons, not_or] at absent
    have still : (lookup (assign fields k v) key).isSome = true := by
      rwa [lookup_assign_of_ne absent.1]
    rw [assignAll_cons, assignAll_cons, ih absent.2 still, assign_comm absent.1 present]

/-- Of two assignments to the same fields the second one stands. -/
theorem assignAll_assignAll {old new : List (String × Json)} (same : old.map (·.1) = new.map (·.1))
    (once : (old.map (·.1)).Nodup) (fields : List (String × Json)) :
    assignAll (assignAll fields old) new = assignAll fields new := by
  induction old generalizing new fields with
  | nil => cases List.map_eq_nil_iff.mp same.symm; rfl
  | cons entry rest ih =>
    obtain ⟨k, v⟩ := entry
    obtain ⟨⟨key, value⟩, newer, rfl, sameKey, sameRest⟩ := List.map_eq_cons_iff.mp same.symm
    obtain rfl : key = k := sameKey
    obtain ⟨fresh, others⟩ := List.nodup_cons.mp once
    have present : (lookup (assign fields key v) key).isSome = true := by rw [lookup_assign_self]; rfl
    rw [assignAll_cons, assignAll_cons, assignAll_cons, assign_assignAll fresh present, assign_assign,
      ih sameRest.symm others]

end Json

end TagAudit
