import StructuredMessage.Scalar.Basic

namespace StructuredMessage

theorem Decimal.same_symm {x y : Decimal} (h : x.same y) : y.same x := by
  simp only [Decimal.same, beq_iff_eq] at h ⊢
  exact h.symm

theorem Decimal.same_trans {x y z : Decimal} (hxy : x.same y) (hyz : y.same z) : x.same z := by
  simp only [Decimal.same, beq_iff_eq] at hxy hyz ⊢
  have hpos : (tenPow y.scale : Int) ≠ 0 :=
    Int.ofNat_ne_zero.mpr (Nat.ne_of_gt (Nat.pow_pos (by decide)))
  refine Int.eq_of_mul_eq_mul_right hpos ?_
  calc x.signed * tenPow z.scale * tenPow y.scale
      = x.signed * tenPow y.scale * tenPow z.scale := by ac_rfl
    _ = y.signed * tenPow z.scale * tenPow x.scale := by rw [hxy]; ac_rfl
    _ = z.signed * tenPow x.scale * tenPow y.scale := by rw [hyz]; ac_rfl

namespace Binary

variable {w : Width} {x y z : Binary w}

theorem same_iff :
    x.same y ↔ x.isNaN = false ∧ y.isNaN = false ∧ (x = y ∨ (x.isZero ∧ y.isZero)) := by
  cases x
  cases y
  simp [same, and_assoc]

theorem same_symm (h : x.same y) : y.same x := by
  obtain ⟨hx, hy, heq | hzero⟩ := same_iff.mp h
  · exact same_iff.mpr ⟨hy, hx, .inl heq.symm⟩
  · exact same_iff.mpr ⟨hy, hx, .inr hzero.symm⟩

theorem same_trans (hxy : x.same y) (hyz : y.same z) : x.same z := by
  obtain ⟨hx, -, rfl | ⟨hzx, hzy⟩⟩ := same_iff.mp hxy
  · exact hyz
  · obtain ⟨-, hz, rfl | ⟨-, hzz⟩⟩ := same_iff.mp hyz
    · exact hxy
    · exact same_iff.mpr ⟨hx, hz, .inr ⟨hzx, hzz⟩⟩

end Binary

namespace Zoned

variable {x y z : Zoned}

/-- Equal instants show the same in universal time. -/
theorem same_iff : x.same y ↔ x.universal = y.universal :=
  beq_iff_eq

theorem same_symm (h : x.same y) : y.same x :=
  same_iff.mpr (same_iff.mp h).symm

theorem same_trans (hxy : x.same y) (hyz : y.same z) : x.same z :=
  same_iff.mpr ((same_iff.mp hxy).trans (same_iff.mp hyz))

end Zoned

namespace Scalar

theorem same_symm {x y : Scalar} (h : x.same y) : y.same x := by
  cases x <;> cases y <;> simp only [same, Bool.false_eq_true] at h ⊢
  case single.single => exact Binary.same_symm h
  case double.double => exact Binary.same_symm h
  case decimal.decimal => exact Decimal.same_symm h
  case zoned.zoned => exact Zoned.same_symm h
  all_goals simp only [Bool.and_eq_true, beq_iff_eq] at h ⊢
  all_goals grind

theorem same_trans {x y z : Scalar} (hxy : x.same y) (hyz : y.same z) : x.same z := by
  cases x <;> cases y <;> simp only [same, Bool.false_eq_true] at hxy <;>
    cases z <;> simp only [same, Bool.false_eq_true] at hyz ⊢
  case single.single.single => exact Binary.same_trans hxy hyz
  case double.double.double => exact Binary.same_trans hxy hyz
  case decimal.decimal.decimal => exact Decimal.same_trans hxy hyz
  case zoned.zoned.zoned => exact Zoned.same_trans hxy hyz
  all_goals simp only [Bool.and_eq_true, beq_iff_eq] at hxy hyz ⊢
  all_goals grind

/-- Scalars that a dictionary has one entry for. A value that is no number is alike to itself only. -/
def Alike (x y : Scalar) : Prop :=
  x = y ∨ x.same y

namespace Alike

variable {x y : Scalar}

theorem refl (x : Scalar) : Alike x x :=
  .inl rfl

theorem symm (h : Alike x y) : Alike y x :=
  h.imp Eq.symm same_symm

/-- Alike scalars are the same as the same scalars. -/
theorem same_eq (h : Alike x y) (z : Scalar) : x.same z = y.same z := by
  rcases h with rfl | h
  · rfl
  · exact Bool.eq_iff_iff.mpr ⟨same_trans (same_symm h), same_trans h⟩

theorem eq_of_text {t : String} (h : Alike (text t) y) : y = text t := by
  rcases h with h | h
  · exact h.symm
  · cases y <;> simp_all [same]

end Alike

end Scalar

end StructuredMessage
