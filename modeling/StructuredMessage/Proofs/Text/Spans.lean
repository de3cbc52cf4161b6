import StructuredMessage.Template.Parse

namespace StructuredMessage

theorem takeWhile_exact {α : Type} {p : α → Bool} {body rest : List α}
    (hb : ∀ x ∈ body, p x) (hr : ∀ x ∈ rest.head?, ¬p x) : (body ++ rest).takeWhile p = body := by
  rw [List.takeWhile_append_of_pos hb]
  cases rest with
  | nil => simp
  | cons x rest =>
    have hx : ¬p x := hr x (by simp)
    simp [hx]

theorem dropWhile_exact {α : Type} {p : α → Bool} {body rest : List α}
    (hb : ∀ x ∈ body, p x) (hr : ∀ x ∈ rest.head?, ¬p x) : (body ++ rest).dropWhile p = rest := by
  rw [List.dropWhile_append_of_pos hb]
  cases rest with
  | nil => rfl
  | cons x rest =>
    have hx : ¬p x := hr x (by simp)
    simp [hx]

namespace Text

theorem byteLength_append (xs ys : List Char) :
    byteLength (xs ++ ys) = byteLength xs + byteLength ys := by
  induction xs with
  | nil => simp [byteLength]
  | cons x xs ih =>
    simp only [List.cons_append, byteLength, ih]
    omega

theorem byteLength_pos {cs : List Char} (h : cs ≠ []) : 0 < byteLength cs := by
  cases cs with
  | nil => exact absurd rfl h
  | cons c cs =>
    have hc := c.utf8Size_pos
    simp only [byteLength]
    omega

/-- The bytes that are counted are those that the text takes in memory. -/
theorem utf8ByteSize_ofList (cs : List Char) : (String.ofList cs).utf8ByteSize = byteLength cs := by
  induction cs with
  | nil => rfl
  | cons c cs ih =>
    have hs : String.ofList (c :: cs) = String.singleton c ++ String.ofList cs := by
      rw [String.singleton_eq_ofList, ← String.ofList_append, List.singleton_append]
    rw [hs, String.utf8ByteSize_append, String.utf8ByteSize_singleton, ih, byteLength]

theorem byteLength_toList (s : String) : byteLength s.toList = s.utf8ByteSize := by
  rw [← utf8ByteSize_ofList, String.ofList_toList]

end Text

end StructuredMessage
