import TagAudit.Fault
import TagAudit.Grouping
import TagAudit.Number.Order
import TagAudit.Text.Search

namespace TagAudit

/-- A value that can be a key or a member of a set. -/
inductive Scalar where
  | null
  | bool (b : Bool)
  | int (n : Int)
  | float (x : Float)
  | str (s : String)

def Scalar.toJson : Scalar → Json
  | null => .null
  | bool b => .bool b
  | int n => .int n
  | float x => .float x
  | str s => .str s

instance : Coe String Scalar := ⟨.str⟩

/-- Numbers are the same when they have the same value, whatever their kind: 1, 1.0 and true are one
key. All values that are not numbers in a numeric field are one key too. -/
def Scalar.same : Scalar → Scalar → Bool
  | str s, str t => s == t
  | null, null => true
  | a, b =>
    match Number.ofJson? a.toJson, Number.ofJson? b.toJson with
    | some m, some n => m.same n || (!m.same m && !n.same n)
    | _, _ => false

instance : BEq Scalar := ⟨Scalar.same⟩

/-- A text is the same as itself and nothing else. -/
theorem Scalar.str_beq_iff {s : String} {x : Scalar} : (Scalar.str s == x) = true ↔ x = .str s := by
  cases x with
  | str t =>
    have compared : (Scalar.str s == Scalar.str t) = (s == t) := rfl
    rw [compared, beq_iff_eq, Scalar.str.injEq]
    exact eq_comm
  | _ => simp [BEq.beq, Scalar.same, Scalar.toJson, Number.ofJson?]

theorem Scalar.contains_str_iff {s : String} {xs : List Scalar} :
    xs.contains (Scalar.str s) = true ↔ Scalar.str s ∈ xs := by
  rw [List.contains_eq_any_beq, List.any_eq_true]
  constructor
  · rintro ⟨x, member, same⟩
    exact Scalar.str_beq_iff.mp same ▸ member
  · exact fun member => ⟨_, member, Scalar.str_beq_iff.mpr rfl⟩

theorem Scalar.str_mem_distinct {s : String} {xs : List Scalar} :
    Scalar.str s ∈ distinct xs ↔ Scalar.str s ∈ xs := by
  induction xs with
  | nil => rfl
  | cons a rest ih =>
    rw [distinct, List.mem_cons, List.mem_cons, List.mem_filter, ih]
    constructor
    · exact Or.imp_right And.left
    · rintro (first | later)
      · exact Or.inl first
      · by_cases first : a = .str s
        · exact Or.inl first.symm
        · have differ : (Scalar.str s == a) = false := by
            rw [← Bool.not_eq_true, Scalar.str_beq_iff]
            exact first
          exact Or.inr ⟨later, by simp [differ]⟩

namespace Json

def scalar? : Json → Option Scalar
  | null => some .null
  | bool b => some (.bool b)
  | int n => some (.int n)
  | float x => some (.float x)
  | str s => some (.str s)
  | _ => none

def scalar (value : Json) : Except Fault Scalar :=
  match value.scalar? with
  | some s => .ok s
  | none => .error .notKey

mutual

/-- Equality of values: numbers by value, objects whatever the order of their fields. -/
def same : Json → Json → Bool
  | arr xs, other =>
    match other with
    | arr ys => sameItems xs ys
    | _ => false
  | obj fields, other =>
    match other with
    | obj others => fields.length == others.length && sameFields fields others
    | _ => false
  | value, other =>
    match value.scalar?, other.scalar? with
    | some a, some b => a == b
    | _, _ => false

def sameItems : List Json → List Json → Bool
  | [], ys => ys.isEmpty
  | x :: xs, ys =>
    match ys with
    | [] => false
    | y :: ys => same x y && sameItems xs ys

def sameFields : List (String × Json) → List (String × Json) → Bool
  | [], _ => true
  | (key, value) :: rest, others =>
    match lookup others key with
    | some other => same value other && sameFields rest others
    | none => false

end

/-- A field of an object, null when absent. -/
def getField (value : Json) (key : String) : Except Fault Json :=
  match value with
  | obj fields => .ok ((lookup fields key).getD null)
  | _ => .error .notObject

def getFieldOr (value : Json) (key : String) (default : Json) : Except Fault Json :=
  match value with
  | obj fields => .ok ((lookup fields key).getD default)
  | _ => .error .notObject

/-- A field that has to be there. -/
def need (value : Json) (key : String) : Except Fault Json :=
  match value with
  | obj fields =>
    match lookup fields key with
    | some v => .ok v
    | none => .error (.missingField key)
  | _ => .error .notIndexed

/-- The items of a list, the characters of a text, the keys of an object. -/
def elements : Json → Except Fault (List Json)
  | arr xs => .ok xs
  | str s => .ok (s.toList.map fun c => str c.toString)
  | obj fields => .ok (fields.map fun (key, _) => str key)
  | _ => .error .notCollection

/-- Whether a value is an item of a list, a part of a text or a key of an object. -/
def isIn (value collection : Json) : Except Fault Bool :=
  match collection with
  | arr xs => .ok (xs.any (value.same ·))
  | str s =>
    match value with
    | str part => .ok (Text.contains s part)
    | _ => .error .notJoinable
  | obj fields => do
    match ← value.scalar with
    | .str key => return (lookup fields key).isSome
    | _ => return false
  | _ => .error .notCollection

/-- The number of items, characters or fields. -/
def size : Json → Except Fault Nat
  | arr xs => .ok xs.length
  | str s => .ok s.toList.length
  | obj fields => .ok fields.length
  | _ => .error .notCollection

def needText : Json → Except Fault String
  | str s => .ok s
  | _ => .error .notText

def joinable : Json → Except Fault String
  | str s => .ok s
  | _ => .error .notJoinable

def joinTexts (separator : String) (xs : List Json) : Except Fault String :=
  (xs.mapM joinable).map separator.intercalate

theorem needText_needs (value : Json) : Needs value.needText .notText (value.isText = true) := by
  cases value with
  | str s => exact (Needs.ok s).congr (by simp [isText])
  | _ => exact ⟨fun fits => Bool.noConfusion fits, fun _ => rfl⟩

theorem joinable_needs (value : Json) : Needs value.joinable .notJoinable (value.isText = true) := by
  cases value with
  | str s => exact (Needs.ok s).congr (by simp [isText])
  | _ => exact ⟨fun fits => Bool.noConfusion fits, fun _ => rfl⟩

theorem joinTexts_needs (separator : String) (xs : List Json) :
    Needs (joinTexts separator xs) .notJoinable (∀ x ∈ xs, x.isText = true) :=
  (Needs.mapM fun x _ => x.joinable_needs).map _

end Json

end TagAudit
