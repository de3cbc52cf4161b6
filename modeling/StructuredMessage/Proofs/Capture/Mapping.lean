import StructuredMessage.Capture.Builtin
import StructuredMessage.Proofs.Capture.Outline

namespace StructuredMessage.Settings

variable {σ : Type} {s : Settings σ} {view : σ → View σ} {mode : Mode}

/-- The scalar that a value is, before texts are cut. -/
def scalarForm? (s : Settings σ) (v : View σ) : Option Scalar :=
  if v.shape.isNothing then some .null else v.scalar? s.scalarTypes

theorem outline_of_scalarForm {v : View σ} {value : Scalar} (hmode : mode ≠ .stringify)
    (h : s.scalarForm? v = some value) : s.outline view mode v = .scalar (s.limits.cutScalar value) := by
  rw [scalarForm?] at h
  rw [outline]
  split at h
  next hnothing =>
    cases Option.some.inj h
    simp [hnothing, hmode, Limits.cutScalar]
  next hsome => simp [View.isNothing, hsome, hmode, h]

/-- Where a level is left for it, a key that is a scalar is captured as it is, cut if it is a text. -/
theorem keyWithin_of_scalarForm {levels : Nat} {k : σ} {value : Scalar} (hmode : mode ≠ .stringify)
    (hlevels : 0 < levels) (h : s.scalarForm? (view k) = some value) :
    s.keyWithin view levels mode k = s.limits.cutScalar value := by
  rw [keyWithin, if_neg (Nat.ne_of_gt hlevels), keyScalar, outline_of_scalarForm hmode h]

/-- The captured entries of a mapping, before those with the same key become one. -/
def capturedEntries (s : Settings σ) (view : σ → View σ) (levels : Nat) (mode : Mode) (kept : List (σ × σ)) :
    List (Scalar × Datum) :=
  kept.map fun e => (s.keyWithin view levels mode e.1, (s.captureWithin view levels e.2 mode).value)

theorem captureWithin_mapping (hp : s.policies = []) {v : σ} (hmode : mode ≠ .stringify) {keys : SubjectType}
    {entries : Items (σ × σ)} (hshape : (view v).shape = .mapping keys entries)
    (hkeys : keys.isScalarKey ∨ keys ∈ s.scalarTypes) (hv : (view v).face.type ∉ s.scalarTypes)
    (levels : Nat) :
    (s.captureWithin view (levels + 1) v mode).value =
      .dictionary (Entries.ofList
        (s.capturedEntries view levels mode (entries.upTo s.limits.maxItems))) := by
  rw [captureWithin_succ hp, outline_of_mapping hmode hv hshape, mappingOutline]
  simp only [if_pos hkeys]
  rw [Outline.value_fill_dictionary, keyBy_captureWithin hp]
  rfl

theorem key_of_mem_capturedEntries_zero {kept : List (σ × σ)} {e : Scalar × Datum}
    (he : e ∈ s.capturedEntries view 0 mode kept) : e.1 = .null := by
  obtain ⟨x, -, rfl⟩ := List.mem_map.mp he
  rfl

theorem distinct_capturedEntries {levels : Nat} {kept : List (σ × σ)} {keyOf : σ → Scalar}
    (hmode : mode ≠ .stringify) (hlevels : 0 < levels)
    (hscalar : ∀ e ∈ kept, s.scalarForm? (view e.1) = some (keyOf e.1) ∧
      s.limits.cutScalar (keyOf e.1) = keyOf e.1)
    (hdiffer : kept.Pairwise fun a b => (keyOf a.1).same (keyOf b.1) = false) :
    Entries.Distinct (s.capturedEntries view levels mode kept) := by
  have hkey : ∀ e ∈ kept, s.keyWithin view levels mode e.1 = keyOf e.1 := by
    intro e he
    obtain ⟨hform, hcut⟩ := hscalar e he
    rw [keyWithin_of_scalarForm hmode hlevels hform, hcut]
  refine List.pairwise_map.mpr (hdiffer.imp_of_mem fun {a b} ha hb hab => ?_)
  dsimp only
  rw [hkey a ha, hkey b hb]
  exact hab

/-- A mapping whose type of keys promises scalars is captured as a dictionary. It has one entry for every
entry that is kept, in the same order, iff the keys are captured as scalars no two of which are the same.
With no level left below the mapping all keys are null. With a level left, keys that are different scalars
are captured as such, unless they are texts that have to be cut. -/
theorem captureWithin_mapping_iff (s : Settings σ) (hp : s.policies = []) (view : σ → View σ) {v : σ}
    (hmode : mode ≠ .stringify) {keys : SubjectType} {entries : Items (σ × σ)}
    (hshape : (view v).shape = .mapping keys entries) (hkeys : keys.isScalarKey ∨ keys ∈ s.scalarTypes)
    (hv : (view v).face.type ∉ s.scalarTypes) (levels : Nat) :
    let kept := entries.upTo s.limits.maxItems
    let captured := s.capturedEntries view levels mode kept
    ∃ es, (s.captureWithin view (levels + 1) v mode).value = .dictionary es ∧
      (es = captured ↔ Entries.Distinct captured) ∧
      (es.length = kept.length ↔ Entries.Distinct captured) ∧
      (levels = 0 → ∀ e ∈ captured, e.1 = .null) ∧
      (0 < levels → ∀ keyOf : σ → Scalar,
        (∀ e ∈ kept, s.scalarForm? (view e.1) = some (keyOf e.1) ∧
          s.limits.cutScalar (keyOf e.1) = keyOf e.1) →
        kept.Pairwise (fun a b => (keyOf a.1).same (keyOf b.1) = false) → Entries.Distinct captured) := by
  intro kept captured
  have hlength : captured.length = kept.length := List.length_map _
  refine ⟨_, captureWithin_mapping hp hmode hshape hkeys hv levels, ⟨fun h => ?_, Entries.ofList_of_distinct⟩,
    ?_, ?_, ?_⟩
  · rw [← h]
    exact Entries.distinct_ofList captured
  · rw [← hlength]
    exact Entries.length_ofList_eq_iff
  · rintro rfl e he
    exact key_of_mem_capturedEntries_zero he
  · intro hlevels keyOf hscalar hdiffer
    exact distinct_capturedEntries hmode hlevels hscalar hdiffer

/-- A mapping from both truth values to themselves. -/
def truths : Subject Empty :=
  .ofEntries "BTreeMap" (.named "bool" true)
    [(.ofScalar (.bool false), .ofScalar (.bool false)), (.ofScalar (.bool true), .ofScalar (.bool true))]

theorem captureWithin_truths :
    Mode.plain ≠ .stringify ∧ (SubjectType.named "bool" true).isScalarKey ∧
    ∃ es, (captureWithin {} (Subject.view Empty.elim) 2 truths .plain).value = .dictionary es ∧
      es.length = 2 := by
  have hmode : Mode.plain ≠ .stringify := by decide
  obtain ⟨es, hes, -, hlength, -, -⟩ := captureWithin_mapping_iff {} rfl (Subject.view Empty.elim)
    (v := truths) hmode rfl (.inl rfl) (by decide) 1
  refine ⟨hmode, rfl, es, hes, hlength.mpr ?_⟩
  exact List.pairwise_pair.mpr (by decide +kernel)

/-- At the last level both keys are null, and of two entries one is left. -/
theorem captureWithin_truths_merged :
    (capture { limits := { maxDepth := 1 } } (Subject.view Empty.elim) truths .plain).value =
      .dictionary [(.null, .null)] ∧
    Scalar.same (.bool false) (.bool true) = false := by
  exact ⟨rfl, by decide⟩

end StructuredMessage.Settings
