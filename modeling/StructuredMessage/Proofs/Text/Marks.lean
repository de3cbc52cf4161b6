import StructuredMessage.Proofs.Text.Spans

namespace StructuredMessage.Text

variable {mark : Char} {a b s t : List Char}

/-- The first mark divides a text in one way only. -/
theorem eq_of_append_mark (ha : mark ∉ a) (hb : mark ∉ b) (h : a ++ mark :: s = b ++ mark :: t) : a = b ∧ s = t := by
  have htake (body rest : List Char) (hbody : mark ∉ body) :
      (body ++ mark :: rest).takeWhile (· != mark) = body :=
    takeWhile_exact (fun c hc => bne_iff_ne.mpr (ne_of_mem_of_not_mem hc hbody)) (by simp)
  have hab : a = b := by rw [← htake a s ha, h, htake b t hb]
  subst hab
  exact ⟨rfl, (List.cons.inj (List.append_cancel_left h)).2⟩

/-- The mark and a text behind it, if there is one. -/
def tail (mark : Char) (s : List Char) : List Char :=
  if s.isEmpty then [] else mark :: s

theorem eq_of_append_tail (ha : mark ∉ a) (hb : mark ∉ b) (h : a ++ tail mark s = b ++ tail mark t) :
    a = b ∧ s = t := by
  unfold tail at h
  split at h <;> split at h
  next hs ht =>
    rw [List.isEmpty_iff.mp hs, List.isEmpty_iff.mp ht]
    exact ⟨by simpa using h, rfl⟩
  next hs ht =>
    exact absurd (by rw [List.append_nil] at h; simp [h]) ha
  next hs ht =>
    exact absurd (by rw [List.append_nil] at h; simp [← h]) hb
  next hs ht => exact eq_of_append_mark ha hb h

/-- A sign is told from a text that does not begin with one. -/
theorem eq_of_sign {p q : Prop} [Decidable p] [Decidable q] (ha : a.head? ≠ some mark) (hb : b.head? ≠ some mark)
    (h : (if p then [mark] else []) ++ a = (if q then [mark] else []) ++ b) : (p ↔ q) ∧ a = b := by
  split at h <;> split at h
  next hp hq => exact ⟨iff_of_true hp hq, (List.cons.inj h).2⟩
  next => exact absurd (by simpa using (congrArg List.head? h).symm) hb
  next => exact absurd (by simpa using congrArg List.head? h) ha
  next hp hq => exact ⟨iff_of_false hp hq, h⟩

/-- Where there is always a sign, it tells the cases. -/
theorem iff_of_sign {p q : Prop} [Decidable p] [Decidable q]
    (h : (if p then '-' else '+') = if q then '-' else '+') : p ↔ q := by
  split at h <;> split at h
  next hp hq => exact iff_of_true hp hq
  next => exact absurd h (by decide)
  next => exact absurd h (by decide)
  next hp hq => exact iff_of_false hp hq

end StructuredMessage.Text
