import StructuredMessage.Number.Digits
import StructuredMessage.Proofs.Text.Numeral

namespace StructuredMessage

namespace Decimal

theorem length_padded (places n : Nat) :
    (Numeral.padded (places + 1) n).length = max (places + 1) (Numeral.digits n).length :=
  List.length_leftpad

/-- There is a digit before the point. -/
theorem splitDigits_whole_ne_nil (n places : Nat) : (splitDigits n places).1 ≠ [] := by
  have hlength := length_padded places n
  intro hnil
  have hwhole := congrArg List.length hnil
  simp only [splitDigits, List.length_take, List.length_nil] at hwhole
  omega

theorem length_splitDigits_fraction (n places : Nat) : (splitDigits n places).2.length = places := by
  have hlength := length_padded places n
  simp only [splitDigits, List.length_drop]
  omega

end Decimal

theorem Binary.fixedDigits_shape {w : Width} {x : Binary w} (hx : ∃ m e, x.magnitude = .finite m e) (places : Nat) :
    (x.fixedDigits places).1 ≠ [] ∧ (x.fixedDigits places).2.length = places := by
  obtain ⟨m, e, hmagnitude⟩ := hx
  simp only [fixedDigits, hmagnitude]
  exact ⟨Decimal.splitDigits_whole_ne_nil _ _, Decimal.length_splitDigits_fraction _ _⟩

namespace Digits

@[simp] theorem settled_whole (d : Digits) : d.settled.whole = d.whole := by
  unfold settled
  split <;> rfl

@[simp] theorem settled_fraction (d : Digits) : d.settled.fraction = d.fraction := by
  unfold settled
  split <;> rfl

end Digits

namespace Number

/-- The number has digits: it is no infinity and not something that is no number. -/
def IsFinite : Number → Prop
  | integer _ _ _ => True
  | single x => ∃ m e, x.magnitude = .finite m e
  | double x => ∃ m e, x.magnitude = .finite m e
  | decimal _ => True

theorem symbol?_eq_none_iff {x : Number} {nan positive negative : String} :
    x.symbol? nan positive negative = none ↔ x.IsFinite := by
  cases x with
  | integer signed bits n => simp [symbol?, IsFinite]
  | decimal y => simp [symbol?, IsFinite]
  | single y => cases hy : y.magnitude <;> simp [symbol?, IsFinite, hy]
  | double y => cases hy : y.magnitude <;> simp [symbol?, IsFinite, hy]

theorem decimalDigits_whole_ne_nil (x : Decimal) (places : Nat) : (decimalDigits x places).1 ≠ [] := by
  unfold decimalDigits
  exact Decimal.splitDigits_whole_ne_nil _ _

theorem length_decimalDigits_fraction (x : Decimal) (places : Nat) : (decimalDigits x places).2.length = places := by
  unfold decimalDigits
  dsimp only
  rw [List.length_append, List.length_replicate, Decimal.length_splitDigits_fraction]
  split <;> omega

/-- A finite number that is rounded has a digit before the point and as many behind it as were asked for. -/
theorem fixed_shape {x : Number} (hx : x.IsFinite) (places : Nat) :
    (x.fixed places).whole ≠ [] ∧ (x.fixed places).fraction.length = places := by
  cases x with
  | integer signed bits n =>
    simp only [fixed, Digits.settled_whole, Digits.settled_fraction, List.length_replicate, and_true]
    exact Numeral.digits_ne_nil _
  | decimal y =>
    simp only [fixed, Digits.settled_whole, Digits.settled_fraction]
    exact ⟨decimalDigits_whole_ne_nil y places, length_decimalDigits_fraction y places⟩
  | single y =>
    simp only [fixed, Digits.settled_whole, Digits.settled_fraction]
    exact Binary.fixedDigits_shape hx places
  | double y =>
    simp only [fixed, Digits.settled_whole, Digits.settled_fraction]
    exact Binary.fixedDigits_shape hx places

/-- An integer without places shows its digits, and its sign unless it is zero. -/
theorem fixed_integer (signed : Bool) (bits : Nat) (n : Int) :
    (integer signed bits n).fixed 0 = ⟨n < 0, Numeral.digits n.natAbs, []⟩ := by
  have hzero : Digits.isZero ⟨decide (n < 0), Numeral.digits n.natAbs, []⟩ = decide (n = 0) := by
    rw [Bool.eq_iff_iff, Digits.isZero, List.append_nil, Numeral.digits_all_zero_iff]
    simp
  simp only [fixed, isNegative, List.replicate_zero, Digits.settled, hzero]
  split
  next h => simp [of_decide_eq_true h]
  next => rfl

end Number

end StructuredMessage
