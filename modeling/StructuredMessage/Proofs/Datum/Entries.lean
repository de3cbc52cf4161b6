import Mathlib.Data.List.Induction
import StructuredMessage.Datum.Basic
import StructuredMessage.Proofs.Scalar.Same

namespace StructuredMessage.Entries

variable {α β : Type}

/-- The elements of a list that no later one has the key of. -/
def lasting (keyOf : β → Scalar) : List β → List β
  | [] => []
  | x :: rest =>
    if rest.any fun y => (keyOf x).same (keyOf y) then lasting keyOf rest
    else x :: lasting keyOf rest

theorem mem_lasting_concat {keyOf : β → Scalar} {x y : β} {l : List β} :
    x ∈ lasting keyOf (l ++ [y]) ↔
      x = y ∨ (x ∈ lasting keyOf l ∧ (keyOf x).same (keyOf y) = false) := by
  induction l with
  | nil => simp [lasting]
  | cons z rest ih =>
    rw [List.cons_append, lasting, lasting, List.any_append]
    cases hrest : rest.any fun y => (keyOf z).same (keyOf y) with
    | true => simpa using ih
    | false =>
      cases hy : (keyOf z).same (keyOf y) with
      | true =>
        simp only [List.any_cons, hy, Bool.true_or, Bool.or_true, if_true, ih, Bool.false_eq_true,
          if_false, List.mem_cons]
        grind
      | false =>
        simp only [List.any_cons, hy, List.any_nil, Bool.or_false, Bool.false_eq_true, if_false,
          List.mem_cons, ih]
        grind

theorem lasting_map (keyOf : β → Scalar) (f : α → β) (l : List α) :
    lasting keyOf (l.map f) = (lasting (fun x => keyOf (f x)) l).map f := by
  induction l with
  | nil => rfl
  | cons x rest ih =>
    simp only [List.map_cons, lasting, List.any_map, Function.comp_def, ih]
    split <;> rfl

/-- No two of the entries have the same key. -/
def Distinct (entries : List (Scalar × α)) : Prop :=
  entries.Pairwise fun a b => a.1.same b.1 = false

variable {key k : Scalar} {value v : α} {entries : List (Scalar × α)}

/-- A new key goes to the end, and a key that is there already gets its value in its place. -/
theorem insert_cases (key : Scalar) (value : α) (entries : List (Scalar × α)) :
    ((∀ e ∈ entries, e.1.same key = false) ∧ insert key value entries = entries ++ [(key, value)]) ∨
      ∃ before k v after, entries = before ++ (k, v) :: after ∧ k.same key ∧
        insert key value entries = before ++ (k, value) :: after := by
  induction entries with
  | nil => exact .inl ⟨by simp, rfl⟩
  | cons e rest ih =>
    rw [insert]
    split
    next h => exact .inr ⟨[], e.1, e.2, rest, rfl, h, rfl⟩
    next h =>
      rcases ih with ⟨hnew, heq⟩ | ⟨before, k, v, after, rfl, hs, heq⟩
      · exact .inl ⟨by simpa [h] using hnew, by rw [heq, List.cons_append]⟩
      · exact .inr ⟨e :: before, k, v, after, rfl, hs, by rw [heq, List.cons_append]⟩

theorem insert_of_new (h : ∀ e ∈ entries, e.1.same key = false) :
    insert key value entries = entries ++ [(key, value)] := by
  rcases insert_cases key value entries with ⟨-, heq⟩ | ⟨before, k, v, after, rfl, hs, -⟩
  · exact heq
  · simp [h (k, v) (by simp)] at hs

/-- In front of and behind the one key that is the same there are only others. -/
theorem Distinct.ne_of_same {before after : List (Scalar × α)} (hd : Distinct (before ++ (k, v) :: after))
    (hs : k.same key) : ∀ e ∈ before ++ after, e.1.same key = false := by
  obtain ⟨-, hafter, hcross⟩ := List.pairwise_append.mp hd
  intro e he
  refine Bool.eq_false_iff.mpr fun hes => ?_
  rcases List.mem_append.mp he with he | he
  · have hek := Scalar.same_trans hes (Scalar.same_symm hs)
    simp [hcross e he (k, v) List.mem_cons_self] at hek
  · have hke := Scalar.same_trans hs (Scalar.same_symm hes)
    simp [(List.pairwise_cons.mp hafter).1 e he] at hke

theorem mem_insert (hd : Distinct entries) (h : (k, v) ∈ insert key value entries) :
    ((k, v) ∈ entries ∧ k.same key = false) ∨ (v = value ∧ k.Alike key) := by
  rcases insert_cases key value entries with ⟨hnew, heq⟩ | ⟨before, k', v', after, rfl, hs, heq⟩
  · rw [heq, List.mem_append, List.mem_singleton] at h
    rcases h with h | h
    · exact .inl ⟨h, hnew (k, v) h⟩
    · obtain ⟨rfl, rfl⟩ := Prod.mk.inj h
      exact .inr ⟨rfl, .refl k⟩
  · have hne := hd.ne_of_same hs
    rw [heq] at h
    simp only [List.mem_append, List.mem_cons] at h hne ⊢
    rcases h with h | h | h
    · exact .inl ⟨.inl h, hne (k, v) (.inl h)⟩
    · obtain ⟨rfl, rfl⟩ := Prod.mk.inj h
      exact .inr ⟨rfl, .inr hs⟩
    · exact .inl ⟨.inr (.inr h), hne (k, v) (.inr h)⟩

theorem mem_insert_of_ne (h : (k, v) ∈ entries) (hk : k.same key = false) :
    (k, v) ∈ insert key value entries := by
  rcases insert_cases key value entries with ⟨-, heq⟩ | ⟨before, k', v', after, rfl, hs, heq⟩
  · rw [heq]
    exact List.mem_append_left _ h
  · rw [heq]
    simp only [List.mem_append, List.mem_cons] at h ⊢
    rcases h with h | h | h
    · exact .inl h
    · obtain ⟨rfl, rfl⟩ := Prod.mk.inj h
      simp [hk] at hs
    · exact .inr (.inr h)

theorem exists_mem_insert (key : Scalar) (value : α) (entries : List (Scalar × α)) :
    ∃ k, (k, value) ∈ insert key value entries ∧ k.Alike key := by
  rcases insert_cases key value entries with ⟨-, heq⟩ | ⟨before, k, v, after, rfl, hs, heq⟩
  · exact ⟨key, by simp [heq], .refl key⟩
  · exact ⟨k, by simp [heq], .inr hs⟩

theorem distinct_insert (hd : Distinct entries) : Distinct (insert key value entries) := by
  rcases insert_cases key value entries with ⟨hnew, heq⟩ | ⟨before, k, v, after, rfl, hs, heq⟩
  · rw [heq]
    refine List.pairwise_append.mpr ⟨hd, List.pairwise_singleton .., fun e he x hx => ?_⟩
    rw [List.mem_singleton.mp hx]
    exact hnew e he
  · rw [heq]
    simpa [Distinct, List.pairwise_append, List.pairwise_cons] using hd

theorem ofList_concat (entries : List (Scalar × α)) (e : Scalar × α) :
    ofList (entries ++ [e]) = insert e.1 e.2 (ofList entries) := by
  rw [ofList, List.foldl_append]
  rfl

theorem distinct_ofList (entries : List (Scalar × α)) : Distinct (ofList entries) := by
  induction entries using List.reverseRecOn with
  | nil => exact .nil
  | append_singleton entries e ih =>
    rw [ofList_concat]
    exact distinct_insert ih

theorem lasting_of_mem_ofList (h : (k, v) ∈ ofList entries) :
    ∃ e ∈ lasting Prod.fst entries, e.2 = v ∧ k.Alike e.1 := by
  induction entries using List.reverseRecOn with
  | nil => simp [ofList] at h
  | append_singleton entries last ih =>
    rw [ofList_concat] at h
    rcases mem_insert (distinct_ofList entries) h with ⟨h, hne⟩ | ⟨rfl, hk⟩
    · obtain ⟨e, he, hv, hk⟩ := ih h
      refine ⟨e, mem_lasting_concat.mpr (.inr ⟨he, ?_⟩), hv, hk⟩
      rwa [← hk.same_eq]
    · exact ⟨last, mem_lasting_concat.mpr (.inl rfl), rfl, hk⟩

theorem mem_ofList_of_lasting {e : Scalar × α} (h : e ∈ lasting Prod.fst entries) :
    ∃ k, (k, e.2) ∈ ofList entries ∧ k.Alike e.1 := by
  induction entries using List.reverseRecOn with
  | nil => simp [lasting] at h
  | append_singleton entries last ih =>
    rw [ofList_concat]
    rcases mem_lasting_concat.mp h with rfl | ⟨h, hne⟩
    · exact exists_mem_insert e.1 e.2 (ofList entries)
    · obtain ⟨k, hmem, hk⟩ := ih h
      exact ⟨k, mem_insert_of_ne hmem (by rwa [hk.same_eq]), hk⟩

/-- The values that stay are those of the last entries with their keys. -/
theorem mem_values_ofList :
    v ∈ (ofList entries).map Prod.snd ↔ v ∈ (lasting Prod.fst entries).map Prod.snd := by
  constructor
  · intro h
    obtain ⟨kept, hkept, rfl⟩ := List.mem_map.mp h
    obtain ⟨e, he, hv, -⟩ := lasting_of_mem_ofList hkept
    exact List.mem_map.mpr ⟨e, he, hv⟩
  · intro h
    obtain ⟨e, he, rfl⟩ := List.mem_map.mp h
    obtain ⟨k, hmem, -⟩ := mem_ofList_of_lasting he
    exact List.mem_map.mpr ⟨(k, e.2), hmem, rfl⟩

theorem mem_keys_of_ofList (h : k ∈ (ofList entries).map Prod.fst) : k ∈ entries.map Prod.fst := by
  induction entries using List.reverseRecOn with
  | nil => exact h
  | append_singleton entries last ih =>
    rw [ofList_concat] at h
    rw [List.map_append, List.mem_append]
    rcases insert_cases last.1 last.2 (ofList entries) with ⟨-, heq⟩ | ⟨before, k', v', after, hsplit, -, heq⟩
    · rw [heq, List.map_append, List.mem_append] at h
      exact h.imp ih id
    · rw [heq] at h
      rw [hsplit] at ih
      exact .inl (ih (by simpa using h))

/-- Every key stays, in itself or in one that is the same. -/
theorem exists_alike_key {e : Scalar × α} (h : e ∈ entries) :
    ∃ k ∈ (ofList entries).map Prod.fst, k.Alike e.1 := by
  induction entries using List.reverseRecOn with
  | nil => simp at h
  | append_singleton entries last ih =>
    rw [ofList_concat]
    rcases List.mem_append.mp h with h | h
    · obtain ⟨k, hk, halike⟩ := ih h
      refine ⟨k, ?_, halike⟩
      rcases insert_cases last.1 last.2 (ofList entries) with ⟨-, heq⟩ | ⟨before, k', v', after, hsplit, -, heq⟩
      · rw [heq, List.map_append]
        exact List.mem_append_left _ hk
      · rw [heq]
        rw [hsplit] at hk
        simpa using hk
    · rw [List.mem_singleton.mp h]
      obtain ⟨k, hmem, hk⟩ := exists_mem_insert last.1 last.2 (ofList entries)
      exact ⟨k, List.mem_map.mpr ⟨_, hmem, rfl⟩, hk⟩

theorem length_insert_le (key : Scalar) (value : α) (entries : List (Scalar × α)) :
    (insert key value entries).length ≤ entries.length + 1 := by
  rcases insert_cases key value entries with ⟨-, heq⟩ | ⟨before, k, v, after, rfl, -, heq⟩
  · simp [heq]
  · simp [heq]

theorem length_ofList_le (entries : List (Scalar × α)) : (ofList entries).length ≤ entries.length := by
  induction entries using List.reverseRecOn with
  | nil => exact Nat.le_refl 0
  | append_singleton entries last ih =>
    have hinsert := length_insert_le last.1 last.2 (ofList entries)
    rw [ofList_concat, List.length_append, List.length_singleton]
    omega

theorem ofList_of_distinct (hd : Distinct entries) : ofList entries = entries := by
  induction entries using List.reverseRecOn with
  | nil => rfl
  | append_singleton entries last ih =>
    obtain ⟨hinit, -, hlast⟩ := List.pairwise_append.mp hd
    rw [ofList_concat, ih hinit]
    exact insert_of_new fun e he => hlast e he last (List.mem_singleton_self last)

/-- No entry is lost iff no two of them have the same key. -/
theorem length_ofList_eq_iff : (ofList entries).length = entries.length ↔ Distinct entries := by
  constructor
  · intro h
    induction entries using List.reverseRecOn with
    | nil => exact .nil
    | append_singleton entries last ih =>
      have hle := length_ofList_le entries
      rw [ofList_concat, List.length_append, List.length_singleton] at h
      rcases insert_cases last.1 last.2 (ofList entries) with ⟨hnew, heq⟩ | ⟨before, k, v, after, hsplit, -, heq⟩
      · rw [heq, List.length_append, List.length_singleton] at h
        have hinit : Distinct entries := ih (Nat.add_right_cancel h)
        rw [ofList_of_distinct hinit] at hnew
        refine List.pairwise_append.mpr ⟨hinit, List.pairwise_singleton .., fun e he x hx => ?_⟩
        rw [List.mem_singleton.mp hx]
        exact hnew e he
      · rw [heq] at h
        rw [hsplit] at hle
        simp only [List.length_append, List.length_cons] at h hle
        omega
  · intro h
    rw [ofList_of_distinct h]

end StructuredMessage.Entries
