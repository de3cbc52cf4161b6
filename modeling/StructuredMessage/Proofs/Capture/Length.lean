import StructuredMessage.Capture.Builtin
import StructuredMessage.Proofs.Capture.Outline

namespace StructuredMessage

theorem Limits.length_cut_le {limits : Limits} {n : Nat} (hn : limits.maxLength = some n) (hpos : 1 ≤ n)
    (text : String) : (limits.cut text).length ≤ n := by
  simp only [Limits.cut, hn]
  split
  next h => exact h
  next =>
    rw [String.length_push, String.length_ofList, List.length_take]
    omega

namespace Settings

variable {σ : Type} (s : Settings σ) (view : σ → View σ)

/-- The text that a key falls back to when it is captured as no scalar. -/
def fallback? (mode : Mode) (k : σ) : Option String :=
  match s.outline view mode (view k) with
  | .scalar _ => none
  | _ => some (view k).front.text

/-- The texts that a value puts into what it is captured as without cutting them, with the given number of
levels left for its parts: those in the place of members that cannot be read and those of keys that are
captured as no scalar. -/
def uncutTexts (levels : Nat) (mode : Mode) (v : σ) : List String :=
  match s.outline view mode (view v) with
  | .record _ members => members.filterMap fun m => m.failure?.map Outline.failureText
  | .dictionary entries =>
    if levels = 0 then [] else entries.filterMap fun e => s.fallback? view mode e.1
  | _ => []

variable {s view} {mode : Mode}

/-- Every text in a captured value is the own text of a value that is reached on the way. -/
theorem mem_texts_captureWithin_iff (hp : s.policies = []) {levels : Nat} {root : σ} {t : String} :
    t ∈ (s.captureWithin view levels root mode).value.texts ↔
      ∃ n v, n < levels ∧ Reached (s.parts view mode) n root v ∧
        t ∈ (s.outline view mode (view v)).ownTexts (s.keyWithin view (levels - 1 - n) mode) := by
  induction levels generalizing root with
  | zero => simp [captureWithin_zero, Datum.null, Datum.texts, Scalar.text?]
  | succ levels ih =>
    -- With no level left for them the parts have no texts, so that it does not matter which of them stay.
    have hparts : (∃ w ∈ (s.outline view mode (view root)).parts (s.keyWithin view levels mode),
        t ∈ (s.captureWithin view levels w mode).value.texts) ↔
        ∃ w ∈ s.parts view mode root, t ∈ (s.captureWithin view levels w mode).value.texts := by
      cases levels with
      | zero => simp [captureWithin_zero, Datum.null, Datum.texts, Scalar.text?]
      | succ levels => rfl
    rw [captureWithin_succ hp, Outline.mem_texts_fill_iff, keyBy_captureWithin hp, hparts]
    constructor
    · rintro (ht | ⟨w, hw, ht⟩)
      · exact ⟨0, root, Nat.succ_pos levels, .self root, ht⟩
      · obtain ⟨n, v, hn, hv, ht⟩ := ih.mp ht
        refine ⟨n + 1, v, Nat.succ_lt_succ hn, .part hw hv, ?_⟩
        rwa [show levels + 1 - 1 - (n + 1) = levels - 1 - n by omega]
    · rintro ⟨n, v, hn, hv, ht⟩
      cases hv with
      | self => exact .inl ht
      | @part n _ w _ hw hv =>
        refine .inr ⟨w, hw, ih.mpr ⟨n, v, Nat.lt_of_succ_lt_succ hn, hv, ?_⟩⟩
        rwa [show levels + 1 - 1 - (n + 1) = levels - 1 - n by omega] at ht

section Cut

variable {n : Nat} (hn : s.limits.maxLength = some n) (hpos : 1 ≤ n)

include hn hpos

theorem length_le_of_outline_scalar {v : View σ} {t : String}
    (h : s.outline view mode v = .scalar (.text t)) : t.length ≤ n := by
  revert h
  refine outline_cases (P := fun o => o = .scalar (.text t) → t.length ≤ n) mode v (by simp) ?_ ?_ (by simp)
    (by simp) (by simp) (by simp) (by simp)
  · intro text h
    rw [← Scalar.text.inj (Outline.scalar.inj h)]
    exact Limits.length_cut_le hn hpos text
  · intro value _ h
    cases value with
    | text text =>
      rw [← Scalar.text.inj (Outline.scalar.inj h)]
      exact Limits.length_cut_le hn hpos text
    | _ => simp [Limits.cutScalar] at h

theorem length_le_of_outline_lines {v : View σ} {texts : List String}
    (h : s.outline view mode v = .lines texts) : ∀ t ∈ texts, t.length ≤ n := by
  revert h
  refine outline_cases (P := fun o => o = .lines texts → ∀ t ∈ texts, t.length ≤ n) mode v (by simp)
    (by simp [textOutline]) (by simp) ?_ (by simp) (by simp) (by simp) (by simp)
  intro keys entries _ _ h t ht
  rw [← Outline.lines.inj h] at ht
  obtain ⟨e, -, rfl⟩ := List.mem_map.mp ht
  exact Limits.length_cut_le hn hpos _

/-- An own text of a value is within the limit, unless it is one of those that are not cut. -/
theorem ownTexts_le_iff {levels : Nat} {v : σ} :
    (∀ t ∈ (s.outline view mode (view v)).ownTexts (s.keyWithin view levels mode), t.length ≤ n) ↔
      ∀ t ∈ s.uncutTexts view levels mode v, t.length ≤ n := by
  rw [uncutTexts]
  cases ho : s.outline view mode (view v) with
  | scalar value =>
    simp only [Outline.ownTexts, Option.mem_toList, Scalar.text?_eq_some_iff, List.not_mem_nil,
      false_implies, implies_true, iff_true]
    rintro t rfl
    exact length_le_of_outline_scalar hn hpos ho
  | lines texts =>
    simpa [Outline.ownTexts] using length_le_of_outline_lines hn hpos ho
  | sequence items => simp [Outline.ownTexts]
  | pairs entries => simp [Outline.ownTexts]
  | record tag members => rfl
  | dictionary entries =>
    cases levels with
    | zero => simp [Outline.ownTexts, keyWithin, Scalar.text?]
    | succ levels =>
      have hkey : ∀ k, (∀ t, s.keyWithin view (levels + 1) mode k = .text t → t.length ≤ n) ↔
          ∀ t, s.fallback? view mode k = some t → t.length ≤ n := by
        intro k
        rw [keyWithin, if_neg (Nat.succ_ne_zero levels), keyScalar, fallback?]
        cases hk : s.outline view mode (view k) with
        | scalar value =>
          simp only [reduceCtorEq, false_implies, implies_true, iff_true]
          rintro t rfl
          exact length_le_of_outline_scalar hn hpos hk
        | _ => simp
      simp only [Outline.ownTexts, List.mem_filterMap, Scalar.text?_eq_some_iff, if_neg (Nat.succ_ne_zero levels)]
      constructor
      · rintro h t ⟨e, he, ht⟩
        exact (hkey e.1).mp (fun t ht => h t ⟨e, he, ht⟩) t ht
      · rintro h t ⟨e, he, ht⟩
        exact (hkey e.1).mpr (fun t ht => h t ⟨e, he, ht⟩) t ht

end Cut

/-- All texts in a captured value are within the limit, iff those are that are put in without being cut. -/
theorem texts_capture_le_iff (s : Settings σ) (hp : s.policies = []) {n : Nat}
    (hn : s.limits.maxLength = some n) (hpos : 1 ≤ n) (view : σ → View σ) (root : σ) (mode : Mode) :
    (∀ t ∈ (s.capture view root mode).value.texts, t.length ≤ n) ↔
      ∀ depth v, depth < s.limits.maxDepth → Reached (s.parts view mode) depth root v →
        ∀ t ∈ s.uncutTexts view (s.limits.maxDepth - 1 - depth) mode v, t.length ≤ n := by
  simp only [capture, mem_texts_captureWithin_iff hp]
  constructor
  · intro h depth v hd hv
    exact (ownTexts_le_iff hn hpos).mp fun t ht => h t ⟨depth, v, hd, hv, ht⟩
  · rintro h t ⟨depth, v, hd, hv, ht⟩
    exact (ownTexts_le_iff hn hpos).mpr (h depth v hd hv) t ht

def ofLength (n : Nat) : Settings σ :=
  { limits := { maxLength := some n } }

/-- An object with one member, which cannot be read. -/
def flaky (_ : Unit) : View Unit :=
  ⟨[], ⟨"Flaky", "Flaky", .named "Flaky" false⟩, .object [⟨"bad", .error "boom"⟩]⟩

/-- A mapping whose keys are promised to be scalars, but whose one key is a list. -/
def broken : Bool → View Bool
  | true => ⟨[], ⟨"Map", "Map", .named "Map" false⟩,
    .mapping (.named "Key" true) (.finite [(false, false)])⟩
  | false => ⟨[], ⟨"Key", "key without a name", .named "Key" true⟩, .sequence (.finite [])⟩

theorem texts_capture_flaky_within :
    (ofLength 40 : Settings Unit).policies = [] ∧ (ofLength 40 : Settings Unit).limits.maxLength = some 40 ∧
    1 ≤ 40 ∧ ∀ t ∈ ((ofLength 40).capture flaky () .destructure).value.texts, t.length ≤ 40 := by
  refine ⟨rfl, rfl, by decide, (texts_capture_le_iff _ rfl rfl (by decide) flaky () .destructure).mpr ?_⟩
  rintro depth v - - t ht
  have hmem : t ∈ [Outline.failureText "boom"] := ht
  rw [List.mem_singleton.mp hmem]
  decide

/-- The texts in the place of a member that cannot be read and of a key that is no scalar are longer than
the limit. -/
theorem texts_capture_flaky_beyond :
    ((ofLength 4).capture flaky () .destructure).value.texts = ["The property accessor failed: boom"] ∧
    ((ofLength 4).capture broken true .plain).value.texts = ["key without a name"] ∧
    4 < "The property accessor failed: boom".length ∧ 4 < "key without a name".length := by
  exact ⟨rfl, rfl, by decide, by decide⟩

end Settings

end StructuredMessage
