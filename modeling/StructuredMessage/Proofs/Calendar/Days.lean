import Mathlib.Algebra.GroupWithZero.Nat
import Mathlib.Data.List.GetD
import StructuredMessage.Calendar.Date

namespace StructuredMessage

namespace Calendar

theorem yearStart_yearOf_le (day : Int) : yearStart (yearOf day) ≤ day := by
  unfold yearOf
  dsimp only
  split
  next h =>
    unfold yearStart at h ⊢
    omega
  next h =>
    split
    next h' => exact h'
    next => exact Int.not_lt.mp h

theorem lt_yearStart_succ (day : Int) : day < yearStart (yearOf day + 1) := by
  unfold yearOf
  dsimp only
  split
  next h => rwa [Int.sub_add_cancel]
  next =>
    split
    next h =>
      -- The guess is at most one year too early.
      unfold yearStart at h ⊢
      omega
    next h => exact Int.not_le.mp h

theorem yearStart_succ (year : Int) :
    yearStart (year + 1) = yearStart year + ((monthLengths (isLeap year)).sum : Nat) := by
  have hsum : ((monthLengths (isLeap year)).sum : Nat) = 365 + if isLeap year then 1 else 0 := by
    cases isLeap year <;> rfl
  have hleap : isLeap year = true ↔ year % 4 = 0 ∧ (year % 100 ≠ 0 ∨ year % 400 = 0) := by
    simp [isLeap]
  rw [hsum]
  unfold yearStart
  split
  next h =>
    have hcases := hleap.mp h
    omega
  next h =>
    have hcases := mt hleap.mpr h
    omega

theorem dayOfYear_lt (day : Int) : dayOfYear day < (monthLengths (isLeap (yearOf day))).sum := by
  have hle := yearStart_yearOf_le day
  have hlt := lt_yearStart_succ day
  rw [yearStart_succ] at hlt
  unfold dayOfYear
  omega

/-- The months before a day and the days left over make up the days since the year began. -/
theorem splitMonths_spec (lengths : List Nat) (days : Nat) :
    (lengths.take (splitMonths lengths days).1).sum + (splitMonths lengths days).2 = days := by
  induction lengths generalizing days with
  | nil => exact Nat.zero_add days
  | cons length rest ih =>
    rw [splitMonths]
    split
    next => exact Nat.zero_add days
    next hle =>
      have hrest := ih (days - length)
      simp only [List.take_succ_cons, List.sum_cons]
      omega

theorem splitMonths_lt {lengths : List Nat} {days : Nat} (h : days < lengths.sum) :
    (splitMonths lengths days).2 < lengths.getD (splitMonths lengths days).1 0 := by
  induction lengths generalizing days with
  | nil => exact absurd h (Nat.not_lt_zero days)
  | cons length rest ih =>
    rw [splitMonths]
    split
    next hlt => exact hlt
    next hle =>
      rw [List.sum_cons] at h
      exact ih (by omega)

theorem dayOfMonth_le (day : Int) :
    dayOfMonth day ≤ (monthLengths (isLeap (yearOf day))).getD (monthOf day - 1) 0 :=
  splitMonths_lt (dayOfYear_lt day)

theorem monthOf_le (day : Int) : monthOf day ≤ 12 := by
  have hlt := splitMonths_lt (dayOfYear_lt day)
  refine Nat.succ_le_of_lt (Nat.lt_of_not_le fun hmonth => ?_)
  rw [List.getD_eq_default _ _ hmonth] at hlt
  exact Nat.not_lt_zero _ hlt

theorem dayOfMonth_le_31 (day : Int) : dayOfMonth day ≤ 31 := by
  have hlengths : ∀ leap, ∀ month < 13, (monthLengths leap).getD (month - 1) 0 ≤ 31 := by decide
  exact Nat.le_trans (dayOfMonth_le day) (hlengths _ _ (Nat.lt_succ_of_le (monthOf_le day)))

/-- A day is its year, the months before it and the days before it in its month. -/
theorem yearStart_add (day : Int) :
    yearStart (yearOf day) + (((monthLengths (isLeap (yearOf day))).take (monthOf day - 1)).sum : Nat) +
      (dayOfMonth day - 1 : Nat) = day := by
  have hsplit := splitMonths_spec (monthLengths (isLeap (yearOf day))) (dayOfYear day)
  have hle := yearStart_yearOf_le day
  have hdays : (dayOfYear day : Int) = day - yearStart (yearOf day) := Int.toNat_of_nonneg (by omega)
  rw [monthOf, dayOfMonth, Nat.add_sub_cancel, Nat.add_sub_cancel]
  omega

/-- Year, month and day of the month tell the day. -/
theorem eq_of_date {d d' : Int} (hyear : yearOf d = yearOf d') (hmonth : monthOf d = monthOf d')
    (hday : dayOfMonth d = dayOfMonth d') : d = d' := by
  have hsplit := splitMonths_spec (monthLengths (isLeap (yearOf d))) (dayOfYear d)
  have hsplit' := splitMonths_spec (monthLengths (isLeap (yearOf d'))) (dayOfYear d')
  have hmonths : (splitMonths (monthLengths (isLeap (yearOf d))) (dayOfYear d)).1 =
      (splitMonths (monthLengths (isLeap (yearOf d'))) (dayOfYear d')).1 := Nat.succ.inj hmonth
  have hleft : (splitMonths (monthLengths (isLeap (yearOf d))) (dayOfYear d)).2 =
      (splitMonths (monthLengths (isLeap (yearOf d'))) (dayOfYear d')).2 := Nat.succ.inj hday
  have hdays : dayOfYear d = dayOfYear d' := by
    rw [← hsplit, ← hsplit', hmonths, hleft, hyear]
  have hle := yearStart_yearOf_le d
  have hle' := yearStart_yearOf_le d'
  unfold dayOfYear at hdays
  rw [hyear] at hdays hle
  omega

end Calendar

/-- A date is found again from its year, its month and its day of the month. -/
theorem Date.of?_fields (d : Date) : of? d.year d.month d.dayOfMonth = some d := by
  have hvalid : 1 ≤ d.month ∧ 1 ≤ d.dayOfMonth ∧
      d.dayOfMonth ≤ (Calendar.monthLengths (Calendar.isLeap d.year)).getD (d.month - 1) 0 :=
    ⟨Nat.succ_pos _, Nat.succ_pos _, Calendar.dayOfMonth_le d.day⟩
  have hday : Calendar.yearStart d.year +
      (((Calendar.monthLengths (Calendar.isLeap d.year)).take (d.month - 1)).sum : Nat) +
        (d.dayOfMonth - 1 : Nat) = d.day := Calendar.yearStart_add d.day
  rw [of?, if_pos hvalid, ← List.sum_eq_foldl]
  dsimp only
  rw [hday, ofDay?, dif_pos d.inRange]

end StructuredMessage
