import StructuredMessage.Capture.Builtin
import StructuredMessage.Proofs.Capture.Outline

namespace StructuredMessage

namespace Outline

variable {σ : Type} {view : σ → View σ} {inner : Inner σ} {mode : Mode} {o : Outline σ} {w : σ}

theorem nesting_lt_of_mem_parts (h : w ∈ o.parts (keyBy view inner mode)) :
    (inner w mode).value.nesting < (o.fill view inner mode).value.nesting := by
  cases o with
  | scalar value => simp [parts] at h
  | lines texts => simp [parts] at h
  | sequence items =>
    refine Datum.nesting_lt_of_mem_children ?_
    rw [value_fill_sequence]
    exact List.mem_map.mpr ⟨w, h, rfl⟩
  | dictionary entries =>
    refine Datum.nesting_lt_of_mem_children ?_
    rw [value_fill_dictionary]
    exact mem_values_dictionary.mpr ⟨w, h, rfl⟩
  | pairs entries =>
    obtain ⟨e, he, hw⟩ := List.mem_flatMap.mp h
    -- The record of the entry lies between the mapping and the part.
    have hrecord : (pair inner mode e).value.nesting < ((pairs entries).fill view inner mode).value.nesting := by
      refine Datum.nesting_lt_of_mem_children ?_
      rw [value_fill_pairs]
      exact List.mem_map.mpr ⟨e, he, rfl⟩
    have hpart : (inner w mode).value.nesting < (pair inner mode e).value.nesting := by
      refine Datum.nesting_lt_of_mem_children ?_
      simp only [List.mem_cons, List.not_mem_nil, or_false] at hw
      rcases hw with rfl | rfl <;> simp [pair, Datum.tagged, Datum.children]
    omega
  | record tag members =>
    obtain ⟨m, hm, hw⟩ := List.mem_filterMap.mp h
    refine Datum.nesting_lt_of_mem_children ?_
    rw [value_fill_record]
    refine List.mem_map.mpr ⟨_, List.mem_map.mpr ⟨m, hm, rfl⟩, ?_⟩
    simp [property, Member.part?_eq_some_iff.mp hw]

theorem two_le_nesting_pairs (e : σ × σ) (entries : List (σ × σ)) :
    2 ≤ ((pairs (e :: entries)).fill view inner mode).value.nesting := by
  have hrecord : (pair inner mode e).value.nesting <
      ((pairs (e :: entries)).fill view inner mode).value.nesting := by
    refine Datum.nesting_lt_of_mem_children ?_
    rw [value_fill_pairs]
    exact List.mem_map.mpr ⟨e, List.mem_cons_self, rfl⟩
  have hkey : (inner e.1 mode).value.nesting < (pair inner mode e).value.nesting :=
    Datum.nesting_lt_of_mem_children (by simp [pair, Datum.tagged, Datum.children])
  omega

/-- One level is one level of nesting, unless entries become records. -/
theorem nesting_fill_le {n : Nat} (hpairs : ∀ e entries, o ≠ .pairs (e :: entries))
    (hparts : ∀ w ∈ o.parts (keyBy view inner mode), (inner w mode).value.nesting ≤ n) :
    (o.fill view inner mode).value.nesting ≤ n + 1 := by
  refine Datum.nesting_le_succ_iff.mpr fun c hc => ?_
  cases o with
  | scalar value => simp [fill, pure, Datum.children] at hc
  | lines texts =>
    obtain ⟨t, -, rfl⟩ := List.mem_map.mp hc
    simp [Datum.text]
  | sequence items =>
    rw [value_fill_sequence] at hc
    obtain ⟨w, hw, rfl⟩ := List.mem_map.mp hc
    exact hparts w hw
  | dictionary entries =>
    rw [value_fill_dictionary] at hc
    obtain ⟨w, hw, rfl⟩ := mem_values_dictionary.mp hc
    exact hparts w hw
  | pairs entries =>
    cases entries with
    | nil => simp [value_fill_pairs, Datum.children] at hc
    | cons e rest => exact absurd rfl (hpairs e rest)
  | record tag members =>
    rw [value_fill_record] at hc
    obtain ⟨p, hp, rfl⟩ := List.mem_map.mp hc
    obtain ⟨m, hm, rfl⟩ := List.mem_map.mp hp
    cases hvalue : m.value with
    | ok w =>
      simp only [property, hvalue, Logged.value_map]
      exact hparts w (List.mem_filterMap.mpr ⟨m, hm, Member.part?_eq_some_iff.mpr hvalue⟩)
    | error e => simp [property, hvalue, Datum.text]

/-- One level is never more than two levels of nesting. -/
theorem nesting_fill_le_add_two {n : Nat}
    (hparts : ∀ w ∈ o.parts (keyBy view inner mode), (inner w mode).value.nesting ≤ n) :
    (o.fill view inner mode).value.nesting ≤ n + 2 := by
  by_cases hpairs : ∀ e entries, o ≠ .pairs (e :: entries)
  · exact Nat.le_succ_of_le (nesting_fill_le hpairs hparts)
  · simp only [not_forall, not_not] at hpairs
    obtain ⟨e, entries, rfl⟩ := hpairs
    refine Datum.nesting_le_succ_iff.mpr fun c hc => ?_
    rw [value_fill_pairs] at hc
    obtain ⟨x, hx, rfl⟩ := List.mem_map.mp hc
    refine Datum.nesting_le_succ_iff.mpr fun c hc => ?_
    have hmem : ∀ w, w = x.1 ∨ w = x.2 → w ∈ (pairs (e :: entries)).parts (keyBy view inner mode) := by
      intro w hw
      exact List.mem_flatMap.mpr ⟨x, hx, by simpa using hw⟩
    simp only [pair, Logged.value_bind, Logged.value_map, Datum.tagged, Datum.children, List.map_cons,
      List.map_nil, List.mem_cons, List.not_mem_nil, or_false] at hc
    rcases hc with rfl | rfl
    · exact hparts x.1 (hmem x.1 (.inl rfl))
    · exact hparts x.2 (hmem x.2 (.inr rfl))

end Outline

namespace Settings

variable {σ : Type} (s : Settings σ) (view : σ → View σ)

/-- The same settings with another depth limit. -/
def withDepth (depth : Nat) : Settings σ :=
  { s with limits := { s.limits with maxDepth := depth } }

/-- A mapping that is taken apart into records of its entries, there being entries: two levels of nesting
for one level of depth. -/
def Paired (mode : Mode) (v : View σ) : Prop :=
  mode = .destructure ∧ v.face.type ∉ s.scalarTypes ∧ ∃ keys entries, v.shape = .mapping keys entries ∧
    ¬(keys.isScalarKey ∨ keys ∈ s.scalarTypes) ∧ entries.upTo s.limits.maxItems ≠ []

variable {s view} {mode : Mode}

theorem paired_iff {v : View σ} :
    s.Paired mode v ↔ ∃ e entries, s.outline view mode v = .pairs (e :: entries) := by
  constructor
  · rintro ⟨hmode, hv, keys, entries, hshape, hkeys, hne⟩
    obtain ⟨e, rest, hkept⟩ := List.exists_cons_of_ne_nil hne
    refine ⟨e, rest, ?_⟩
    rw [outline_of_mapping (by simp [hmode]) hv hshape, mappingOutline]
    simp only [if_neg hkeys, if_pos hmode, hkept]
  · rintro ⟨e, rest, h⟩
    revert h
    refine outline_cases (P := fun o => o = .pairs (e :: rest) → s.Paired mode v) mode v (by simp)
      (by simp [textOutline]) (by simp) (by simp) (by simp) (by simp) ?_ (by simp)
    intro keys entries hshape hkeys hmode hv h
    have hkept := Outline.pairs.inj h
    exact ⟨hmode, hv, keys, entries, hshape, hkeys, by simp [hkept]⟩

theorem nesting_captureWithin_le (hp : s.policies = []) {levels : Nat} {root : σ}
    (h : ∀ n v, n < levels → Reached (s.parts view mode) n root v → ¬s.Paired mode (view v)) :
    (s.captureWithin view levels root mode).value.nesting ≤ levels := by
  induction levels generalizing root with
  | zero => exact Nat.le_refl 0
  | succ levels ih =>
    rw [captureWithin_succ hp]
    refine Outline.nesting_fill_le (fun e entries heq => ?_) fun w hw => ?_
    · exact h 0 root (Nat.succ_pos levels) (.self root) (paired_iff.mpr ⟨e, entries, heq⟩)
    · cases levels with
      | zero => exact Nat.le_refl 0
      | succ levels =>
        rw [keyBy_captureWithin hp] at hw
        exact ih fun n v hn hv => h (n + 1) v (Nat.succ_lt_succ hn) (.part hw hv)

/-- Whatever is captured, the nesting is at most twice the number of levels. -/
theorem nesting_captureWithin_le_two_mul (hp : s.policies = []) (levels : Nat) (root : σ) :
    (s.captureWithin view levels root mode).value.nesting ≤ 2 * levels := by
  induction levels generalizing root with
  | zero => exact Nat.le_refl 0
  | succ levels ih =>
    rw [captureWithin_succ hp]
    exact Outline.nesting_fill_le_add_two fun w _ => ih w

theorem lt_nesting_captureWithin (hp : s.policies = []) {n : Nat} {root v : σ}
    (hreached : Reached (s.parts view mode) n root v) (hv : s.Paired mode (view v)) :
    n + 1 < (s.captureWithin view (n + 1) root mode).value.nesting := by
  induction hreached with
  | self v =>
    obtain ⟨e, entries, heq⟩ := paired_iff.mp hv
    rw [captureWithin_succ hp, heq]
    exact Outline.two_le_nesting_pairs e entries
  | @part n v w u hw _ ih =>
    have hpart := ih hv
    rw [captureWithin_succ hp (n + 1)]
    refine Nat.lt_of_le_of_lt hpart (Outline.nesting_lt_of_mem_parts ?_)
    rw [keyBy_captureWithin hp]
    exact hw

/-- At every depth limit up to `depth` the captured value is nested no deeper than the limit, iff on none of
these levels a mapping is taken apart into records of its entries. -/
theorem nesting_capture_le_iff (s : Settings σ) (hp : s.policies = []) (view : σ → View σ) (root : σ)
    (mode : Mode) (depth : Nat) :
    (∀ d ≤ depth, ((s.withDepth d).capture view root mode).value.nesting ≤ d) ↔
      ∀ n v, n < depth → Reached (s.parts view mode) n root v → ¬s.Paired mode (view v) := by
  constructor
  · intro h n v hn hreached hv
    have hlt := lt_nesting_captureWithin (s := s.withDepth (n + 1)) hp hreached hv
    have hle := h (n + 1) hn
    rw [capture] at hle
    exact absurd hle (Nat.not_le.mpr hlt)
  · intro h d hd
    refine nesting_captureWithin_le (s := s.withDepth d) hp fun n v hn hreached => ?_
    exact h n v (Nat.lt_of_lt_of_le hn hd) hreached

/-- An object whose one member is the object itself. -/
def ouroboros (_ : Unit) : View Unit :=
  ⟨[], ⟨"Ouroboros", "Ouroboros", .named "Ouroboros" false⟩, .object [⟨"me", .ok ()⟩]⟩

theorem nesting_capture_ouroboros :
    ({} : Settings Unit).policies = [] ∧
    ∀ d ≤ 10, ((withDepth {} d).capture ouroboros () .destructure).value.nesting ≤ d := by
  refine ⟨rfl, (nesting_capture_le_iff {} rfl ouroboros () .destructure 10).mpr ?_⟩
  rintro n v - - ⟨-, -, keys, entries, hshape, -⟩
  simp [ouroboros] at hshape

/-- A mapping whose one key is an empty list of integers. -/
def listKeyed : Subject Empty :=
  .ofEntries "BTreeMap" (.collection "Vec" (.named "i32" true))
    [(.ofItems "Vec" (.named "i32" true) [], .ofScalar (.bool true))]

/-- One level of depth is enough for a record inside a sequence. -/
theorem nesting_capture_listKeyed :
    ((withDepth {} 1).capture (Subject.view Empty.elim) listKeyed .destructure).value =
      .sequence [.record none [("key", .null), ("value", .null)]] ∧
    ((withDepth {} 1).capture (Subject.view Empty.elim) listKeyed .destructure).value.nesting = 2 := by
  exact ⟨rfl, rfl⟩

end Settings

end StructuredMessage
