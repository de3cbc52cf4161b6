import Mathlib.Data.List.Induction
import StructuredMessage.Capture.Bind
import StructuredMessage.Capture.Builtin

namespace StructuredMessage

namespace Properties

theorem get?_concat (name : String) (properties : List Property) (p : Property) :
    get? name (properties ++ [p]) =
      (get? name properties).or (if p.1 = name then some p.2 else none) := by
  rw [get?, get?, List.find?_append, List.find?_singleton, Option.map_or]
  simp only [beq_iff_eq]
  split <;> rfl

theorem isSome_get?_iff {name : String} {properties : List Property} :
    (get? name properties).isSome ↔ name ∈ properties.map Prod.fst := by
  simp [get?, List.find?_isSome]

theorem index_concat (properties : List Property) (p : Property) :
    index (properties ++ [p]) =
      if p.1 ∈ (index properties).map Prod.fst then index properties else index properties ++ [p] := by
  have hany : (index properties).any (fun q => q.1 == p.1) = true ↔ p.1 ∈ (index properties).map Prod.fst := by
    simp
  rw [index, List.foldl_append]
  exact if_congr hany rfl rfl

/-- Looking a name up finds its first property. -/
theorem get?_index (name : String) (properties : List Property) :
    get? name (index properties) = get? name properties := by
  induction properties using List.reverseRecOn with
  | nil => rfl
  | append_singleton properties p ih =>
    rw [index_concat, get?_concat, ← ih]
    split
    next hmem =>
      by_cases hname : p.1 = name
      · obtain ⟨d, hd⟩ := Option.isSome_iff_exists.mp (isSome_get?_iff.mpr (hname ▸ hmem))
        rw [hd, Option.some_or]
      · rw [if_neg hname, Option.or_none]
    next => exact get?_concat name (index properties) p

theorem nodup_names_index (properties : List Property) : ((index properties).map Prod.fst).Nodup := by
  induction properties using List.reverseRecOn with
  | nil => exact List.nodup_nil
  | append_singleton properties p ih =>
    rw [index_concat]
    split
    next => exact ih
    next hnew =>
      rw [List.map_append]
      refine List.nodup_append.mpr ⟨ih, List.pairwise_singleton .., fun a ha b hb heq => hnew ?_⟩
      rwa [← List.mem_singleton.mp hb, ← heq]

/-- Every name occurs somewhere first. -/
theorem exists_first {ps : List Placeholder} {i : Nat} {p : Placeholder} (hp : ps[i]? = some p) :
    ∃ (j : Nat) (q : Placeholder), j ≤ i ∧ ps[j]? = some q ∧ q.name = p.name ∧
      ∀ k < j, ∀ r, ps[k]? = some r → r.name ≠ p.name := by
  let named (q : Placeholder) : Bool := q.name == p.name
  obtain ⟨hi, hpi⟩ := List.getElem?_eq_some_iff.mp hp
  have hle : ps.findIdx named ≤ i := by
    refine Nat.le_of_not_lt fun hlt => ?_
    have hnot := List.not_of_lt_findIdx hlt
    simp [named, hpi] at hnot
  have hj : ps.findIdx named < ps.length := Nat.lt_of_le_of_lt hle hi
  have hname : named ps[ps.findIdx named] = true := List.findIdx_getElem
  refine ⟨ps.findIdx named, _, hle, List.getElem?_eq_getElem hj, by simpa [named] using hname, ?_⟩
  intro k hk r hr
  obtain ⟨hkl, rfl⟩ := List.getElem?_eq_some_iff.mp hr
  simpa [named] using List.not_of_lt_findIdx hk

/-- Among the properties of placeholders the first one of a name is found, if it has a value. -/
theorem get?_zipWith_of_first {σ : Type} (f : Placeholder → σ → Datum) {ps : List Placeholder} {values : List σ}
    {j : Nat} {q : Placeholder} (hq : ps[j]? = some q)
    (hfirst : ∀ k < j, ∀ p, ps[k]? = some p → p.name ≠ q.name) :
    get? q.name (List.zipWith (fun p v => (p.name, f p v)) ps values) = values[j]?.map (f q) := by
  induction ps generalizing values j with
  | nil => simp at hq
  | cons p ps ih =>
    cases values with
    | nil => rfl
    | cons v values =>
      rw [List.zipWith_cons_cons, get?]
      cases j with
      | zero =>
        obtain rfl : p = q := Option.some.inj hq
        simp
      | succ j =>
        have hne : p.name ≠ q.name := hfirst 0 (Nat.succ_pos j) p rfl
        rw [List.find?_cons_of_neg (by simpa using hne)]
        exact ih hq fun k hk => hfirst (k + 1) (Nat.succ_lt_succ hk)

end Properties

namespace Settings

variable {σ : Type} (s : Settings σ) (view : σ → View σ)

theorem bindNamed_value (t : Template) (values : List σ) :
    (s.bindNamed view t values).value =
      List.zipWith (fun p v => (p.name, (s.capture view v p.mode).value)) t.placeholders values := by
  rw [bindNamed, Logged.value_all, List.map_map, ← List.map_uncurry_zip_eq_zipWith]
  rfl

theorem bind_value_of_named {t : Template} (hnamed : t.binding = .named) (values : List σ) :
    (s.bind view t values).value = (s.bindNamed view t values).value := by
  unfold bind
  rw [hnamed]
  dsimp only
  split <;> rfl

/-- A template that binds by name has one property for every placeholder that there is a value for, in the order
of the placeholders. A name finds the value at the place where it occurs first, captured in the mode of that
place, and nothing if the values do not reach that far. An index of the properties finds the same. -/
theorem get?_bind_of_named {t : Template} (hnamed : t.binding = .named) (values : List σ) :
    let bound := (s.bind view t values).value
    bound = List.zipWith (fun p v => (p.name, (s.capture view v p.mode).value)) t.placeholders values ∧
    bound.length = min t.placeholders.length values.length ∧
    (∀ (i : Nat) (p : Placeholder), t.placeholders[i]? = some p →
      ∃ (j : Nat) (q : Placeholder), j ≤ i ∧ t.placeholders[j]? = some q ∧ q.name = p.name ∧
        (∀ k < j, ∀ r, t.placeholders[k]? = some r → r.name ≠ p.name) ∧
        Properties.get? p.name bound = values[j]?.map fun v => (s.capture view v q.mode).value) ∧
    ((Properties.index bound).map Prod.fst).Nodup ∧
    ∀ name, Properties.get? name (Properties.index bound) = Properties.get? name bound := by
  intro bound
  have hbound : bound =
      List.zipWith (fun p v => (p.name, (s.capture view v p.mode).value)) t.placeholders values :=
    (s.bind_value_of_named view hnamed values).trans (s.bindNamed_value view t values)
  refine ⟨hbound, by rw [hbound, List.length_zipWith], fun i p hp => ?_, Properties.nodup_names_index bound,
    fun name => Properties.get?_index name bound⟩
  obtain ⟨j, q, hji, hq, hname, hfirst⟩ := Properties.exists_first hp
  refine ⟨j, q, hji, hq, hname, hfirst, ?_⟩
  rw [hbound, ← hname]
  exact Properties.get?_zipWith_of_first _ hq fun k hk r hr => hname ▸ hfirst k hk r hr

/-- A template that mixes an index with names and repeats a name in two modes. -/
def mixed : Template :=
  .parse "\x7ba\x7d \x7b0\x7d \x7b$a\x7d \x7bb\x7d"

/-- The two truth values. -/
def bothTruths : List (Subject Empty) :=
  [.ofScalar (.bool true), .ofScalar (.bool false)]

theorem get?_bind_mixed :
    mixed.binding = .named ∧ mixed.isMixed ∧
    let bound := (bind {} (Subject.view Empty.elim) mixed bothTruths).value
    bound.length = 2 ∧
    (∀ p ∈ mixed.placeholders, p.name = "a" →
      Properties.get? p.name bound =
        bothTruths[0]?.map fun v => (capture {} (Subject.view Empty.elim) v .plain).value) ∧
    ∀ p ∈ mixed.placeholders, p.name = "b" → Properties.get? p.name bound = none := by
  have hnamed : mixed.binding = .named := by decide +kernel
  have hall : mixed.placeholders.map (fun p => (p.name, p.mode)) =
      [("a", .plain), ("0", .plain), ("a", .stringify), ("b", .plain)] := by decide +kernel
  have hat : ∀ (i : Nat) (p : Placeholder), mixed.placeholders[i]? = some p →
      [("a", Mode.plain), ("0", .plain), ("a", .stringify), ("b", .plain)][i]? = some (p.name, p.mode) := by
    intro i p hp
    rw [← hall, List.getElem?_map, hp]
    rfl
  obtain ⟨-, hlength, hlookup, -⟩ := get?_bind_of_named {} (Subject.view Empty.elim) hnamed bothTruths
  refine ⟨hnamed, by decide +kernel, hlength.trans (by decide +kernel), fun p hmem ha => ?_, fun p hmem hb => ?_⟩
  · obtain ⟨i, hp⟩ := List.mem_iff_getElem?.mp hmem
    obtain ⟨j, q, -, hq, hname, hfirst, hfound⟩ := hlookup i p hp
    -- The name stands at the first place already.
    have hj : j = 0 := by
      by_contra hne
      obtain ⟨r, hr⟩ : ∃ r, mixed.placeholders[0]? = some r :=
        ⟨_, List.getElem?_eq_getElem (by decide +kernel)⟩
      have hra := hat 0 r hr
      simp only [List.getElem?_cons_zero, Option.some.injEq, Prod.mk.injEq] at hra
      exact hfirst 0 (Nat.pos_of_ne_zero hne) r hr (hra.1.symm.trans ha.symm)
    subst hj
    have hqa := hat 0 q hq
    simp only [List.getElem?_cons_zero, Option.some.injEq, Prod.mk.injEq] at hqa
    rw [hfound, ← hqa.2]
  · obtain ⟨i, hp⟩ := List.mem_iff_getElem?.mp hmem
    obtain ⟨j, q, -, hq, hname, -, hfound⟩ := hlookup i p hp
    have hqb := hat j q hq
    rw [hname, hb] at hqb
    rw [hfound, List.getElem?_eq_none]
    · rfl
    · match j with
      | 0 | 1 | 2 => simp at hqb
      | j + 3 => exact Nat.le_add_left 2 (j + 1)

end Settings

end StructuredMessage
