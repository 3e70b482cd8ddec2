import Mathlib.Data.List.Forall2
import Mathlib.Data.List.Infix
import Mathlib.Data.List.TakeWhile
import TagAudit.Text.Base64

namespace TagAudit.Text.Base64

/-- The characters that stand for six bits, in the order of their values. -/
def alphabet : List Char := "ABCDEFGHIJKLMNOPQRSTUVWXYZabcdefghijklmnopqrstuvwxyz0123456789+/".toList

def StandsFor (c : Char) (six : Nat) : Prop := alphabet[six]? = some c

/-- Texts in base64 and their octets. Three octets have the bits of four characters; of the characters before padding
some bits are left over. -/
inductive Padded : List Char → List UInt8 → Prop
  | nil : Padded [] []
  | one {a b : Char} {p q spare : Nat} {x : UInt8} : StandsFor a p → StandsFor b q →
      p * 64 + q = x.toNat * 16 + spare → spare < 16 → Padded [a, b, '=', '='] [x]
  | two {a b c : Char} {p q r spare : Nat} {x y : UInt8} : StandsFor a p → StandsFor b q → StandsFor c r →
      p * 4096 + q * 64 + r = x.toNat * 1024 + y.toNat * 4 + spare → spare < 4 → Padded [a, b, c, '='] [x, y]
  | three {a b c d : Char} {p q r s : Nat} {x y z : UInt8} {text : List Char} {octets : List UInt8} :
      StandsFor a p → StandsFor b q → StandsFor c r → StandsFor d s →
      p * 262144 + q * 4096 + r * 64 + s = x.toNat * 65536 + y.toNat * 256 + z.toNat → Padded text octets →
      Padded (a :: b :: c :: d :: text) (x :: y :: z :: octets)

theorem standsFor_char {six : Nat} (small : six < 64) : StandsFor (char six) six := by
  unfold StandsFor
  revert six
  decide

theorem StandsFor.lt {c : Char} {six : Nat} (stands : StandsFor c six) : six < 64 :=
  (List.getElem?_eq_some_iff.mp stands).1

theorem StandsFor.eq_char {c : Char} {six : Nat} (stands : StandsFor c six) : c = char six :=
  Option.some.inj (stands.symm.trans (standsFor_char stands.lt))

theorem value?_char {six : Nat} (small : six < 64) : value? (char six) = some six := by
  revert six
  decide

theorem char_of_value? {c : Char} {six : Nat} (read : value? c = some six) : six < 64 ∧ char six = c := by
  unfold value? at read
  split at read
  · rename_i upper
    cases read
    have range : 65 ≤ c.toNat ∧ c.toNat ≤ 90 :=
      (of_decide_eq_true upper).imp UInt32.le_iff_toNat_le.mp UInt32.le_iff_toNat_le.mp
    rw [char, if_pos (by omega), Nat.sub_add_cancel range.1, Char.ofNat_toNat]
    exact ⟨by omega, rfl⟩
  split at read
  · rename_i lower
    cases read
    have bounds := (Bool.and_eq_true_iff.mp lower).imp of_decide_eq_true of_decide_eq_true
    have range : 97 ≤ c.toNat ∧ c.toNat ≤ 122 :=
      ⟨UInt32.le_iff_toNat_le.mp bounds.1, UInt32.le_iff_toNat_le.mp bounds.2⟩
    rw [char, if_neg (by omega), if_pos (by omega), Nat.sub_add_cancel (by omega), Char.ofNat_toNat]
    exact ⟨by omega, rfl⟩
  split at read
  · rename_i digit
    cases read
    have bounds := (Bool.and_eq_true_iff.mp digit).imp of_decide_eq_true of_decide_eq_true
    have range : 48 ≤ c.toNat ∧ c.toNat ≤ 57 :=
      ⟨UInt32.le_iff_toNat_le.mp bounds.1, UInt32.le_iff_toNat_le.mp bounds.2⟩
    rw [char, if_neg (by omega), if_neg (by omega), if_pos (by omega), Nat.add_sub_cancel, Char.ofNat_toNat]
    exact ⟨by omega, rfl⟩
  split at read
  · rename_i plus
    cases read
    exact ⟨by decide, plus.symm⟩
  split at read
  · rename_i slash
    cases read
    exact ⟨by decide, slash.symm⟩
  · cases read

/-- The characters of the alphabet are read as their places in it, and no others are read. -/
theorem value?_eq_some_iff {c : Char} {six : Nat} : value? c = some six ↔ StandsFor c six := by
  constructor
  · intro read
    obtain ⟨small, rfl⟩ := char_of_value? read
    exact standsFor_char small
  · intro stands
    rw [stands.eq_char, value?_char stands.lt]

theorem StandsFor.ne_padding {c : Char} {six : Nat} (stands : StandsFor c six) : c ≠ '=' := by
  rintro rfl
  have unread : value? '=' = none := by decide
  cases unread.symm.trans (value?_eq_some_iff.mpr stands)

theorem mapM_value?_eq_some_iff {body : List Char} {sixes : List Nat} :
    body.mapM value? = some sixes ↔ List.Forall₂ StandsFor body sixes := by
  induction body generalizing sixes with
  | nil => simp [eq_comm]
  | cons c rest ih =>
    simp only [List.mapM_cons, Option.bind_eq_bind, Option.bind_eq_some_iff, value?_eq_some_iff, ih, Option.pure_def,
      Option.some.injEq]
    constructor
    · rintro ⟨six, here, others, later, rfl⟩
      exact .cons here later
    · intro stand
      cases stand with
      | cons here later => exact ⟨_, here, _, later, rfl⟩

/-- How much padding makes the last group complete. -/
def missing (sixes : Nat) : Nat := (4 - sixes % 4) % 4

theorem paddingFits_iff {sixes padding : Nat} :
    paddingFits sixes padding = true ↔ sixes % 4 ≠ 1 ∧ padding = missing sixes := by
  have remainder : sixes % 4 = 0 ∨ sixes % 4 = 1 ∨ sixes % 4 = 2 ∨ sixes % 4 = 3 := by omega
  rcases remainder with none | one | two | three
  · simp [paddingFits, missing, none]
  · simp [paddingFits, one]
  · simp [paddingFits, missing, two]
  · simp [paddingFits, missing, three]

theorem missing_add_four (sixes : Nat) : missing (sixes + 4) = missing sixes := by
  rw [missing, Nat.add_mod_right, missing]

theorem ofNat_eq (x : UInt8) {n : Nat} (same : n % 256 = x.toNat) : UInt8.ofNat n = x :=
  UInt8.toNat_inj.mp (by rw [UInt8.toNat_ofNat', same])

/-- The characters of the alphabet, with the padding that they need, spell the octets of their sixes. -/
theorem padded_octets : ∀ {body : List Char} {sixes : List Nat}, List.Forall₂ StandsFor body sixes →
    body.length % 4 ≠ 1 → Padded (body ++ List.replicate (missing body.length) '=') (octets sixes)
  | _, _, .nil, _ => .nil
  | _, _, .cons _ .nil, whole => absurd rfl whole
  | [_, _], [p, q], .cons first (.cons second .nil), _ => by
    have value : p * 64 + q = (UInt8.ofNat ((p * 64 + q) / 16)).toNat * 16 + (p * 64 + q) % 16 := by
      have := first.lt
      have := second.lt
      rw [UInt8.toNat_ofNat']
      omega
    exact .one first second value (Nat.mod_lt _ (by decide))
  | [_, _, _], [p, q, r], .cons first (.cons second (.cons third .nil)), _ => by
    let n := p * 4096 + q * 64 + r
    have value : n = (UInt8.ofNat (n / 1024)).toNat * 1024 + (UInt8.ofNat (n / 4)).toNat * 4 + n % 4 := by
      have := first.lt
      have := second.lt
      have := third.lt
      rw [UInt8.toNat_ofNat', UInt8.toNat_ofNat']
      omega
    exact .two first second third value (Nat.mod_lt _ (by decide))
  | a :: b :: c :: d :: body, p :: q :: r :: s :: sixes,
      .cons first (.cons second (.cons third (.cons fourth later))), whole => by
    let n := p * 262144 + q * 4096 + r * 64 + s
    have value : n = (UInt8.ofNat (n / 65536)).toNat * 65536 + (UInt8.ofNat (n / 256)).toNat * 256 +
        (UInt8.ofNat n).toNat := by
      have := first.lt
      have := second.lt
      have := third.lt
      have := fourth.lt
      rw [UInt8.toNat_ofNat', UInt8.toNat_ofNat', UInt8.toNat_ofNat']
      omega
    have rest : body.length % 4 ≠ 1 := by rwa [← Nat.add_mod_right]
    have same : missing (a :: b :: c :: d :: body).length = missing body.length := missing_add_four body.length
    rw [same]
    exact .three first second third fourth value (padded_octets later rest)

theorem Padded.exists_body {text : List Char} {os : List UInt8} (padded : Padded text os) :
    ∃ body sixes, List.Forall₂ StandsFor body sixes ∧ body.length % 4 ≠ 1 ∧
      text = body ++ List.replicate (missing body.length) '=' ∧ os = octets sixes := by
  induction padded with
  | nil => exact ⟨[], [], .nil, by decide, rfl, rfl⟩
  | @one a b p q spare x first second value small =>
    have bound := x.toNat_lt
    refine ⟨[a, b], [p, q], .cons first (.cons second .nil), by simp, rfl, ?_⟩
    rw [octets, ofNat_eq x (by omega)]
  | @two a b c p q r spare x y first second third value small =>
    have bounds := And.intro x.toNat_lt y.toNat_lt
    refine ⟨[a, b, c], [p, q, r], .cons first (.cons second (.cons third .nil)), by simp, rfl, ?_⟩
    rw [octets, ofNat_eq x (by omega), ofNat_eq y (by omega)]
  | @three a b c d p q r s x y z text os first second third fourth value later ih =>
    have bounds := And.intro x.toNat_lt (And.intro y.toNat_lt z.toNat_lt)
    obtain ⟨body, sixes, stand, whole, rfl, rfl⟩ := ih
    have longer : (a :: b :: c :: d :: body).length = body.length + 4 := rfl
    refine ⟨a :: b :: c :: d :: body, p :: q :: r :: s :: sixes,
      .cons first (.cons second (.cons third (.cons fourth stand))), ?_, ?_, ?_⟩
    · rwa [longer, Nat.add_mod_right]
    · rw [longer, missing_add_four]
      rfl
    · rw [octets, ofNat_eq x (by omega), ofNat_eq y (by omega), ofNat_eq z (by omega)]

theorem takeWhile_body {body padding : List Char} {sixes : List Nat} (stand : List.Forall₂ StandsFor body sixes)
    (padded : ∀ c ∈ padding, c = '=') : (body ++ padding).takeWhile (· ≠ '=') = body := by
  have inside : ∀ c ∈ body, decide (c ≠ '=') = true := by
    intro c member
    induction stand with
    | nil => exact absurd member List.not_mem_nil
    | cons here _ ih =>
      rcases List.mem_cons.mp member with rfl | later
      · exact decide_eq_true here.ne_padding
      · exact ih later
  have behind : padding.takeWhile (· ≠ '=') = [] := by
    cases padding with
    | nil => rfl
    | cons c rest =>
      obtain rfl := padded c List.mem_cons_self
      exact List.takeWhile_cons_of_neg (by decide)
  rw [List.takeWhile_append_of_pos inside, behind, List.append_nil]

/-- Decoding finds the characters of the alphabet and padding that may follow so many of them. -/
theorem decode?_eq_some_iff_body {s : List Char} {os : List UInt8} : decode? s = some os ↔
    ∃ body padding sixes, s = body ++ padding ∧ List.Forall₂ StandsFor body sixes ∧ (∀ c ∈ padding, c = '=') ∧
      paddingFits body.length padding.length = true ∧ os = octets sixes := by
  constructor
  · intro decoded
    unfold decode? at decoded
    dsimp only at decoded
    split at decoded
    · rename_i checked
      rw [Bool.and_eq_true, List.all_eq_true] at checked
      obtain ⟨sixes, read, rfl⟩ := Option.map_eq_some_iff.mp decoded
      refine ⟨_, _, sixes, List.prefix_append_drop (List.takeWhile_prefix _), mapM_value?_eq_some_iff.mp read,
        fun c member => of_decide_eq_true (checked.1 c member), checked.2, rfl⟩
    · cases decoded
  · rintro ⟨body, padding, sixes, rfl, stand, padded, fits, rfl⟩
    have all : padding.all (· = '=') = true := List.all_eq_true.mpr fun c member => decide_eq_true (padded c member)
    unfold decode?
    simp only [takeWhile_body stand padded, List.drop_left, all, fits, Bool.and_self, if_true,
      mapM_value?_eq_some_iff.mpr stand, Option.map_some]

/-- Decoding is strict: what is decoded is in base64, with the padding that it needs and nothing behind it. -/
theorem decode?_eq_some_iff {s : List Char} {os : List UInt8} : decode? s = some os ↔ Padded s os := by
  rw [decode?_eq_some_iff_body]
  constructor
  · rintro ⟨body, padding, sixes, rfl, stand, padded, fits, rfl⟩
    obtain ⟨whole, needed⟩ := paddingFits_iff.mp fits
    rw [List.eq_replicate_of_mem padded, needed]
    exact padded_octets stand whole
  · intro padded
    obtain ⟨body, sixes, stand, whole, rfl, rfl⟩ := padded.exists_body
    refine ⟨body, _, sixes, rfl, stand, fun c member => List.eq_of_mem_replicate member, ?_, rfl⟩
    rw [List.length_replicate]
    exact paddingFits_iff.mpr ⟨whole, rfl⟩

theorem padded_encode : ∀ os : List UInt8, Padded (encode os) os
  | [] => .nil
  | [x] => by
    have bound := x.toNat_lt
    exact .one (standsFor_char (by omega)) (standsFor_char (by omega)) (by omega) (Nat.zero_lt_succ _)
  | [x, y] => by
    have bounds := And.intro x.toNat_lt y.toNat_lt
    exact .two (standsFor_char (by omega)) (standsFor_char (by omega)) (standsFor_char (by omega)) (by omega)
      (Nat.zero_lt_succ _)
  | x :: y :: z :: rest => by
    have bounds := And.intro x.toNat_lt (And.intro y.toNat_lt z.toNat_lt)
    exact .three (standsFor_char (by omega)) (standsFor_char (by omega)) (standsFor_char (by omega))
      (standsFor_char (by omega)) (by omega) (padded_encode rest)

end TagAudit.Text.Base64
