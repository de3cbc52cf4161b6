import StructuredMessage.Text.Numeral

namespace StructuredMessage.Numeral

theorem digits_ne_nil (n : Nat) : digits n ≠ [] :=
  Nat.toDigits_ne_nil

theorem padded_ne_nil (width n : Nat) : padded width n ≠ [] :=
  List.append_ne_nil_of_right_ne_nil _ (digits_ne_nil n)

theorem isDigit_of_mem_digits {n : Nat} {c : Char} (hc : c ∈ digits n) : c.isDigit :=
  Nat.isDigit_of_mem_toDigits (by decide) (by decide) hc

/-- A numeral is read iff it has digits and nothing else, and then as the number that they write. -/
theorem read?_eq_some_iff {cs : List Char} {n : Nat} :
    read? cs = some n ↔ cs ≠ [] ∧ (∀ c ∈ cs, c.isDigit) ∧ Nat.ofDigitChars 10 cs 0 = n := by
  unfold read?
  split
  next h =>
    simp only [reduceCtorEq, false_iff]
    rintro ⟨hne, hdigits, -⟩
    have hall : cs.all Char.isDigit = true := List.all_eq_true.mpr hdigits
    simp [hne, hall] at h
  next h =>
    simp only [Bool.or_eq_true, List.isEmpty_iff, Bool.not_eq_true', not_or, Bool.not_eq_false,
      List.all_eq_true] at h
    rw [Option.some.injEq]
    exact ⟨fun hn => ⟨h.1, h.2, hn⟩, fun hn => hn.2.2⟩

theorem read?_digits (n : Nat) : read? (digits n) = some n :=
  read?_eq_some_iff.mpr ⟨digits_ne_nil n, fun _ => isDigit_of_mem_digits, Nat.ofDigitChars_ten_toDigits⟩

theorem length_digits_le {n k : Nat} (hk : 0 < k) : (digits n).length ≤ k ↔ n < tenPow k :=
  Nat.length_toDigits_le_iff (by decide) hk

/-- Zero is the only number whose digits are all zero. -/
theorem digits_all_zero_iff (n : Nat) : (digits n).all (· == '0') ↔ n = 0 := by
  constructor
  · intro hall
    have hzeros : digits n = List.replicate (digits n).length '0' :=
      List.eq_replicate_iff.mpr ⟨rfl, fun c hc => by simpa using List.all_eq_true.mp hall c hc⟩
    have hvalue : Nat.ofDigitChars 10 (digits n) 0 = n := Nat.ofDigitChars_ten_toDigits
    rw [hzeros, Nat.ofDigitChars_replicate_zero] at hvalue
    simpa using hvalue.symm
  · rintro rfl
    decide

end StructuredMessage.Numeral
