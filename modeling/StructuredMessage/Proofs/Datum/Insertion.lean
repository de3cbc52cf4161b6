import Mathlib.Data.Set.Card
import StructuredMessage.Proofs.Datum.Entries

namespace StructuredMessage

namespace Scalar

/-- Whether the scalar is a floating point value that is no number. -/
def isNaN : Scalar → Bool
  | single x => x.isNaN
  | double x => x.isNaN
  | _ => false

/-- A scalar is the same as itself unless it is no number. -/
theorem same_self_iff {k : Scalar} : k.same k ↔ k.isNaN = false := by
  cases k with
  | single x => simp [same, isNaN, Binary.same_iff]
  | double x => simp [same, isNaN, Binary.same_iff]
  | decimal x => simp [same, isNaN, Decimal.same]
  | zoned x => simp [same, isNaN, Zoned.same]
  | _ => simp [same, isNaN]

/-- The scalars that are the same as the given one. -/
def likes (k : Scalar) : Set Scalar :=
  {l | k.same l}

theorem Alike.likes_eq {k l : Scalar} (h : Alike k l) : k.likes = l.likes := by
  ext x
  rw [likes, likes, Set.mem_ofPred_eq, Set.mem_ofPred_eq, h.same_eq]

/-- Scalars that the same ones are like are the same. -/
theorem same_of_likes_eq {k l : Scalar} (hl : l.isNaN = false) (h : k.likes = l.likes) : k.same l := by
  have hmem : l ∈ l.likes := same_self_iff.mpr hl
  rwa [← h] at hmem

end Scalar

namespace Entries

variable {α : Type} {pairs : List (Scalar × α)}

/-- The keys without repetition, each in the form and in the place in which it comes first. -/
def firsts : List Scalar → List Scalar
  | [] => []
  | k :: rest => k :: (firsts rest).filter fun l => !k.same l

theorem firsts_concat (keys : List Scalar) (k : Scalar) :
    firsts (keys ++ [k]) = if keys.any fun l => l.same k then firsts keys else firsts keys ++ [k] := by
  induction keys with
  | nil => rfl
  | cons first rest ih =>
    rw [List.cons_append, firsts, ih, firsts, List.any_cons]
    cases hrest : rest.any fun l => l.same k with
    | true => simp
    | false => cases hfirst : first.same k <;> simp [hfirst]

theorem get?_insert (key l : Scalar) (value : α) (entries : List (Scalar × α)) :
    get? l (insert key value entries) = if key.same l then some value else get? l entries := by
  induction entries with
  | nil => rfl
  | cons e rest ih =>
    obtain ⟨k, v⟩ := e
    rw [insert]
    split
    next hk =>
      have hl : k.same l = key.same l := Scalar.Alike.same_eq (.inr hk) l
      rw [get?, get?, hl]
      split <;> rfl
    next hk =>
      rw [get?, get?, ih]
      by_cases hl : k.same l
      · have hkey : ¬key.same l := fun h => hk (Scalar.same_trans hl (Scalar.same_symm h))
        rw [if_pos hl, if_neg hkey, if_pos hl]
      · rw [if_neg hl, if_neg hl]

/-- What is found under a key is what was inserted last under it. -/
theorem get?_ofList (l : Scalar) (pairs : List (Scalar × α)) :
    get? l (ofList pairs) = (pairs.reverse.find? fun p => p.1.same l).map Prod.snd := by
  induction pairs using List.reverseRecOn with
  | nil => rfl
  | append_singleton pairs last ih =>
    rw [ofList_concat, get?_insert, ih, List.reverse_concat, List.find?_cons]
    cases last.1.same l <;> rfl

theorem keys_insert (key : Scalar) (value : α) (entries : List (Scalar × α)) :
    (insert key value entries).map Prod.fst =
      if entries.any fun e => e.1.same key then entries.map Prod.fst else entries.map Prod.fst ++ [key] := by
  rcases insert_cases key value entries with ⟨hnew, heq⟩ | ⟨before, k, v, after, rfl, hs, heq⟩
  · have hany : (entries.any fun e => e.1.same key) = false :=
      List.any_eq_false.mpr fun e he => by simp [hnew e he]
    rw [heq, hany]
    simp
  · rw [heq]
    simp [hs]

/-- A key is there iff the same one was inserted. -/
theorem any_ofList (key : Scalar) (pairs : List (Scalar × α)) :
    ((ofList pairs).any fun e => e.1.same key) = (pairs.map Prod.fst).any fun k => k.same key := by
  rw [List.any_map, Bool.eq_iff_iff, List.any_eq_true, List.any_eq_true]
  constructor
  · rintro ⟨e, he, hs⟩
    obtain ⟨p, hp, hkey⟩ := List.mem_map.mp (mem_keys_of_ofList (List.mem_map_of_mem he))
    exact ⟨p, hp, by rwa [Function.comp_apply, hkey]⟩
  · rintro ⟨p, hp, hs⟩
    obtain ⟨k, hk, halike⟩ := exists_alike_key hp
    obtain ⟨e, he, rfl⟩ := List.mem_map.mp hk
    exact ⟨e, he, by rwa [halike.same_eq]⟩

theorem keys_ofList (pairs : List (Scalar × α)) :
    (ofList pairs).map Prod.fst = firsts (pairs.map Prod.fst) := by
  induction pairs using List.reverseRecOn with
  | nil => rfl
  | append_singleton pairs last ih =>
    rw [ofList_concat, keys_insert, any_ofList, ih, List.map_append, List.map_singleton, firsts_concat]

/-- There are as many entries as there are different keys. -/
theorem length_ofList_eq_ncard (h : ∀ p ∈ pairs, p.1.isNaN = false) :
    (ofList pairs).length = {alike | ∃ p ∈ pairs, p.1.likes = alike}.ncard := by
  have hnumber : ∀ e ∈ ofList pairs, e.1.isNaN = false := by
    intro e he
    obtain ⟨p, hp, hkey⟩ := List.mem_map.mp (mem_keys_of_ofList (List.mem_map_of_mem he))
    rw [← hkey]
    exact h p hp
  have hset : {alike | ∃ p ∈ pairs, p.1.likes = alike} =
      {alike | alike ∈ (ofList pairs).map fun e => e.1.likes} := by
    ext alike
    simp only [Set.mem_ofPred_eq, List.mem_map]
    constructor
    · rintro ⟨p, hp, rfl⟩
      obtain ⟨k, hk, halike⟩ := exists_alike_key hp
      obtain ⟨e, he, rfl⟩ := List.mem_map.mp hk
      exact ⟨e, he, halike.likes_eq⟩
    · rintro ⟨e, he, rfl⟩
      obtain ⟨p, hp, hkey⟩ := List.mem_map.mp (mem_keys_of_ofList (List.mem_map_of_mem he))
      exact ⟨p, hp, by rw [hkey]⟩
  have hnodup : ((ofList pairs).map fun e => e.1.likes).Nodup := by
    refine List.pairwise_map.mpr ((distinct_ofList pairs).imp_of_mem fun {a b} _ hb hne heq => ?_)
    simp [Scalar.same_of_likes_eq (hnumber b hb) heq] at hne
  classical
  rw [hset, ← List.length_map (fun e => e.1.likes), ← List.toFinset_card_of_nodup hnodup,
    ← Set.ncard_coe_finset, List.coe_toFinset]

/-- A dictionary after any history of insertions under keys that are numbers, if they are floating point values:
no two keys are the same, under a key stands what was inserted last under the same one, the keys stand in the
order and in the form in which they were inserted first, and there are as many as were different. -/
theorem ofList_history (pairs : List (Scalar × α)) (h : ∀ p ∈ pairs, p.1.isNaN = false) :
    Distinct (ofList pairs) ∧
    (∀ k, get? k (ofList pairs) = (pairs.reverse.find? fun p => p.1.same k).map Prod.snd) ∧
    (ofList pairs).map Prod.fst = firsts (pairs.map Prod.fst) ∧
    (ofList pairs).length = {alike | ∃ p ∈ pairs, p.1.likes = alike}.ncard :=
  ⟨distinct_ofList pairs, fun k => get?_ofList k pairs, keys_ofList pairs, length_ofList_eq_ncard h⟩

/-- One as `1.0` and as `1.00`, and the two zeros. -/
def history : List (Scalar × Nat) :=
  [(.decimal ⟨false, 10, 1, by decide, by decide⟩, 1), (.double (.ofSign .double false 0), 2),
   (.decimal ⟨false, 100, 2, by decide, by decide⟩, 3), (.double (.ofSign .double true 0), 4)]

theorem ofList_history_repeated :
    (∀ p ∈ history, p.1.isNaN = false) ∧
    (ofList history).map Prod.fst =
      [.decimal ⟨false, 10, 1, by decide, by decide⟩, .double (.ofSign .double false 0)] ∧
    get? (.decimal ⟨false, 1, 0, by decide, by decide⟩) (ofList history) = some 3 ∧
    get? (.double (.ofSign .double true 0)) (ofList history) = some 4 ∧
    {alike | ∃ p ∈ history, p.1.likes = alike}.ncard = 2 := by
  have hnumbers : ∀ p ∈ history, p.1.isNaN = false := by decide
  obtain ⟨-, hget, hkeys, hlength⟩ := ofList_history history hnumbers
  refine ⟨hnumbers, ?_, ?_, ?_, ?_⟩
  · rw [hkeys]
    rfl
  · rw [hget]
    rfl
  · rw [hget]
    rfl
  · rw [← hlength]
    rfl

end Entries

end StructuredMessage
