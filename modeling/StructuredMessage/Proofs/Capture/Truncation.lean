import StructuredMessage.Capture.Builtin
import StructuredMessage.Proofs.Capture.Outline
import StructuredMessage.Proofs.Datum.Truncate

namespace StructuredMessage

theorem Entries.lasting_eq_self {β : Type} {keyOf : β → Scalar} {l : List β}
    (h : l.Pairwise fun a b => (keyOf a).same (keyOf b) = false) : lasting keyOf l = l := by
  induction l with
  | nil => rfl
  | cons x rest ih =>
    obtain ⟨hx, hrest⟩ := List.pairwise_cons.mp h
    have hany : (rest.any fun y => (keyOf x).same (keyOf y)) = false :=
      List.any_eq_false.mpr fun y hy => by simp [hx y hy]
    rw [lasting, hany, ih hrest]
    rfl

namespace Items

variable {α : Type}

theorem length_upTo_le (n : Nat) (items : Items α) : (items.upTo (some n)).length ≤ n := by
  cases items with
  | finite items => exact List.length_take_le n items
  | endless item => simp [upTo]

theorem IsFinite.upTo_eq {items : Items α} (h : items.IsFinite) (n : Nat) :
    items.upTo (some n) = (items.upTo none).take n := by
  cases items with
  | finite items => rfl
  | endless item => exact h.elim

end Items

namespace Outline

variable {σ : Type} {view : σ → View σ} {inner : Inner σ} {mode : Mode} {o : Outline σ}

def count : Outline σ → Nat
  | lines texts => texts.length
  | sequence items => items.length
  | dictionary entries | pairs entries => entries.length
  | _ => 0

theorem count_fill_le : (o.fill view inner mode).value.count ≤ o.count := by
  cases o with
  | scalar value => exact Nat.le_refl 0
  | lines texts => simp [fill, pure, Datum.count, count]
  | sequence items => simp [value_fill_sequence, Datum.count, count]
  | dictionary entries =>
    rw [value_fill_dictionary]
    refine Nat.le_trans (Entries.length_ofList_le _) ?_
    simp [count]
  | pairs entries => simp [value_fill_pairs, Datum.count, count]
  | record tag members => simp [value_fill_record, Datum.tagged, Datum.count, count]

/-- What lies in a captured value lies in one of the captured parts, apart from the value itself, the texts it
contains and the records of its entries, which have no items. -/
theorem count_eq_zero_of_occurs {d : Datum} (h : Datum.Occurs d (o.fill view inner mode).value) :
    d = (o.fill view inner mode).value ∨ d.count = 0 ∨ ∃ w, Datum.Occurs d (inner w mode).value := by
  cases h with
  | self => exact .inl rfl
  | @child c _ hc hd =>
    cases o with
    | scalar value => simp [fill, pure, Datum.children] at hc
    | lines texts =>
      obtain ⟨t, -, rfl⟩ := List.mem_map.mp hc
      exact .inr (.inl (by rw [hd.eq_of_scalar]; rfl))
    | sequence items =>
      rw [value_fill_sequence] at hc
      obtain ⟨w, -, rfl⟩ := List.mem_map.mp hc
      exact .inr (.inr ⟨w, hd⟩)
    | dictionary entries =>
      rw [value_fill_dictionary] at hc
      obtain ⟨w, -, rfl⟩ := mem_values_dictionary.mp hc
      exact .inr (.inr ⟨w, hd⟩)
    | pairs entries =>
      rw [value_fill_pairs] at hc
      obtain ⟨e, -, rfl⟩ := List.mem_map.mp hc
      cases hd with
      | self => exact .inr (.inl rfl)
      | child hc hd =>
        simp only [pair, Logged.value_bind, Logged.value_map, Datum.tagged, Datum.children, List.map_cons,
          List.map_nil, List.mem_cons, List.not_mem_nil, or_false] at hc
        rcases hc with rfl | rfl
        · exact .inr (.inr ⟨e.1, hd⟩)
        · exact .inr (.inr ⟨e.2, hd⟩)
    | record tag members =>
      rw [value_fill_record] at hc
      obtain ⟨p, hp, rfl⟩ := List.mem_map.mp hc
      obtain ⟨m, -, rfl⟩ := List.mem_map.mp hp
      cases hvalue : m.value with
      | ok w =>
        simp only [property, hvalue, Logged.value_map] at hd
        exact .inr (.inr ⟨w, hd⟩)
      | error e =>
        simp only [property, hvalue, Logged.value_reporting] at hd
        exact .inr (.inl (by rw [hd.eq_of_scalar]; rfl))

/-- The outline with only the first items. -/
def take (n : Nat) : Outline σ → Outline σ
  | scalar value => scalar value
  | lines texts => lines (texts.take n)
  | sequence items => sequence (items.take n)
  | dictionary entries => dictionary (entries.take n)
  | pairs entries => pairs (entries.take n)
  | record tag members => record tag members

def scalar? : Outline σ → Option Scalar
  | scalar value => some value
  | _ => none

theorem truncate_pair {n : Nat} {limited : Inner σ} {e : σ × σ}
    (hkey : (limited e.1 mode).value = (inner e.1 mode).value.truncate n)
    (hvalue : (limited e.2 mode).value = (inner e.2 mode).value.truncate n) :
    (pair limited mode e).value = (pair inner mode e).value.truncate n := by
  simp only [pair, Logged.value_bind, Logged.value_map, Datum.truncate_tagged, List.map_cons, List.map_nil, hkey,
    hvalue]

theorem truncate_property {n : Nat} {limited : Inner σ} {m : Member σ}
    (h : ∀ w, m.part? = some w → (limited w mode).value = (inner w mode).value.truncate n) :
    (property limited mode m).value =
      ((property inner mode m).value.1, (property inner mode m).value.2.truncate n) := by
  cases hvalue : m.value with
  | ok w => simp [property, hvalue, h w (Member.part?_eq_some_iff.mpr hvalue)]
  | error e => simp [property, hvalue, Datum.text, Datum.truncate]

/-- If the parts are truncated and no entries of a dictionary become one, filling the first items is the same as
truncating afterwards. -/
theorem fill_take {n : Nat} {limited : Inner σ} (hkeys : keyBy view limited mode = keyBy view inner mode)
    (hdistinct : ∀ entries, o = .dictionary entries → entries.Pairwise fun a b =>
      (keyBy view inner mode a.1).same (keyBy view inner mode b.1) = false)
    (hparts : ∀ w ∈ o.parts (keyBy view inner mode),
      (limited w mode).value = (inner w mode).value.truncate n) :
    ((o.take n).fill view limited mode).value = (o.fill view inner mode).value.truncate n := by
  cases o with
  | scalar value => rfl
  | lines texts =>
    simp only [take, fill, pure, Datum.truncate_sequence, List.map_take, List.map_map]
    rfl
  | sequence items =>
    rw [take, value_fill_sequence, value_fill_sequence, Datum.truncate_sequence, ← List.map_take, List.map_map]
    exact congrArg _ (List.map_congr_left fun w hw => hparts w (List.mem_of_mem_take hw))
  | dictionary entries =>
    have hd := hdistinct entries rfl
    have hlimited : Entries.Distinct
        ((entries.take n).map fun e => (keyBy view limited mode e.1, (limited e.2 mode).value)) := by
      rw [hkeys]
      exact List.pairwise_map.mpr (hd.sublist (List.take_sublist n entries))
    have hwhole : Entries.Distinct
        (entries.map fun e => (keyBy view inner mode e.1, (inner e.2 mode).value)) :=
      List.pairwise_map.mpr hd
    rw [take, value_fill_dictionary, value_fill_dictionary, Entries.ofList_of_distinct hlimited,
      Entries.ofList_of_distinct hwhole, Datum.truncate_dictionary, ← List.map_take, List.map_map]
    refine congrArg _ (List.map_congr_left fun e he => ?_)
    have hmem : e.2 ∈ (dictionary entries).parts (keyBy view inner mode) := by
      rw [parts, Entries.lasting_eq_self hd]
      exact List.mem_map_of_mem (List.mem_of_mem_take he)
    rw [hkeys, hparts e.2 hmem]
    rfl
  | pairs entries =>
    rw [take, value_fill_pairs, value_fill_pairs, Datum.truncate_sequence, ← List.map_take, List.map_map]
    refine congrArg _ (List.map_congr_left fun e he => ?_)
    obtain ⟨hkey, hvalue⟩ := mem_flatMap_entry (List.mem_of_mem_take he)
    exact truncate_pair (hparts e.1 hkey) (hparts e.2 hvalue)
  | record tag members =>
    rw [take, value_fill_record, value_fill_record, Datum.truncate_tagged, List.map_map]
    refine congrArg _ (List.map_congr_left fun m hm => truncate_property fun w hw => ?_)
    exact hparts w (List.mem_filterMap.mpr ⟨m, hm, hw⟩)

end Outline

namespace Settings

variable {σ : Type} (s : Settings σ) (view : σ → View σ)

/-- The same settings with another limit on items. -/
def withItems (limit : Option Nat) : Settings σ :=
  { s with limits := { s.limits with maxItems := limit } }

variable {s view} {mode : Mode}

theorem count_outline_le {n : Nat} (hn : s.limits.maxItems = some n) (v : View σ) :
    (s.outline view mode v).count ≤ n := by
  refine outline_cases (P := fun o => o.count ≤ n) mode v (Nat.zero_le n) (fun t => Nat.zero_le n)
    (fun value _ => Nat.zero_le n) ?_ ?_ ?_ ?_ (fun members _ _ => Nat.zero_le n)
  · intro keys entries _ _
    rw [hn, Outline.count, List.length_map]
    exact entries.length_upTo_le n
  · intro items _
    rw [hn]
    exact items.length_upTo_le n
  · intro keys entries _ _
    rw [hn]
    exact entries.length_upTo_le n
  · intro keys entries _ _ _ _
    rw [hn]
    exact entries.length_upTo_le n

theorem count_le_of_occurs (hp : s.policies = []) {n : Nat} (hn : s.limits.maxItems = some n) {levels : Nat}
    {root : σ} {d : Datum} (h : Datum.Occurs d (s.captureWithin view levels root mode).value) : d.count ≤ n := by
  induction levels generalizing root with
  | zero =>
    rw [captureWithin_zero] at h
    rw [h.eq_of_scalar]
    exact Nat.zero_le n
  | succ levels ih =>
    rw [captureWithin_succ hp] at h
    rcases Outline.count_eq_zero_of_occurs h with rfl | hzero | ⟨w, hw⟩
    · exact Nat.le_trans Outline.count_fill_le (count_outline_le hn (view root))
    · omega
    · exact ih hw

/-- The limit on items does not decide which values are captured as scalars. -/
theorem outline_withItems_induction {P : Outline σ → Outline σ → Prop} {limit limit' : Option Nat} {v : View σ}
    (hscalar : ∀ value, P (.scalar value) (.scalar value))
    (hcomposite : P ((s.withItems limit).compositeOutline view mode v)
      ((s.withItems limit').compositeOutline view mode v)) :
    P ((s.withItems limit).outline view mode v) ((s.withItems limit').outline view mode v) := by
  unfold outline
  dsimp only [withItems]
  split
  next => exact hscalar _
  next =>
    split
    next => exact hscalar _
    next =>
      split
      next => exact hscalar _
      next =>
        cases v.scalar? s.scalarTypes with
        | some value => exact hscalar _
        | none => exact hcomposite

theorem keyScalar_eq_getD (mode : Mode) (k : σ) :
    s.keyScalar view mode k = (s.outline view mode (view k)).scalar?.getD (.text (view k).front.text) := by
  rw [keyScalar]
  cases s.outline view mode (view k) <;> rfl

theorem scalar?_mappingOutline (keys : SubjectType) (entries : Items (σ × σ)) :
    (s.mappingOutline view mode keys entries).scalar? = none := by
  unfold mappingOutline
  split
  next => rfl
  next => split <;> rfl

theorem keyScalar_withItems (limit limit' : Option Nat) (mode : Mode) (k : σ) :
    (s.withItems limit).keyScalar view mode k = (s.withItems limit').keyScalar view mode k := by
  rw [keyScalar_eq_getD, keyScalar_eq_getD]
  refine congrArg (Option.getD · _)
    (outline_withItems_induction (P := fun o o' => o.scalar? = o'.scalar?) (fun _ => rfl) ?_)
  rw [compositeOutline, compositeOutline]
  cases (view k).shape with
  | mapping keys entries =>
    exact (scalar?_mappingOutline keys entries).trans (scalar?_mappingOutline keys entries).symm
  | sequence items => rfl
  | _ => rfl

/-- A limit takes the first items of what is captured without it, if these come to an end. A value that is captured
as a scalar lists none. -/
theorem outline_withItems {v : View σ} (n : Nat)
    (hv : ((s.withItems none).outline view mode v).scalar? = none → v.IsFinite) :
    (s.withItems (some n)).outline view mode v = ((s.withItems none).outline view mode v).take n := by
  refine outline_withItems_induction (P := fun o o' => (o'.scalar? = none → v.IsFinite) → o = o'.take n)
    (fun _ _ => rfl) ?_ hv
  rw [compositeOutline, compositeOutline, View.IsFinite]
  cases v.shape with
  | mapping keys entries =>
    intro hfinite
    have hkept : entries.upTo (some n) = (entries.upTo none).take n :=
      (hfinite (scalar?_mappingOutline keys entries)).upTo_eq n
    dsimp only [mappingOutline, withItems]
    rw [hkept]
    split
    next => rfl
    next =>
      split
      next => rfl
      next =>
        rw [Outline.take, List.map_take]
        rfl
  | sequence items =>
    intro hfinite
    exact congrArg Outline.sequence ((hfinite rfl).upTo_eq n)
  | object members =>
    intro _
    dsimp only
    split <;> rfl
  | callable => exact fun _ => rfl
  | _ => intro _; dsimp only; split <;> rfl

/-- Nothing is lost when the value is captured with the given number of levels left for its parts: its items, if it
is not captured as a scalar, come to an end, and if it is captured as a dictionary no two of its keys are captured as
the same. -/
def Lossless (s : Settings σ) (view : σ → View σ) (levels : Nat) (mode : Mode) (v : σ) : Prop :=
  ((s.outline view mode (view v)).scalar? = none → (view v).IsFinite) ∧
    ∀ entries, s.outline view mode (view v) = .dictionary entries →
      entries.Pairwise fun a b =>
        (s.keyWithin view levels mode a.1).same (s.keyWithin view levels mode b.1) = false

theorem captureWithin_withItems (hp : s.policies = []) (n : Nat) {levels : Nat} {root : σ}
    (h : ∀ depth v, depth < levels → Reached ((s.withItems none).parts view mode) depth root v →
      (s.withItems none).Lossless view (levels - 1 - depth) mode v) :
    ((s.withItems (some n)).captureWithin view levels root mode).value =
      ((s.withItems none).captureWithin view levels root mode).value.truncate n := by
  have hnone : ∀ limit, (s.withItems limit).policies = [] := fun _ => hp
  induction levels generalizing root with
  | zero => rfl
  | succ levels ih =>
    obtain ⟨hfinite, hdistinct⟩ := h 0 root (Nat.succ_pos levels) (.self root)
    have hkeys : Outline.keyBy view ((s.withItems (some n)).captureWithin view levels) mode =
        Outline.keyBy view ((s.withItems none).captureWithin view levels) mode := by
      rw [keyBy_captureWithin (hnone _), keyBy_captureWithin (hnone _)]
      funext k
      rw [keyWithin, keyWithin, keyScalar_withItems (some n) none]
    rw [captureWithin_succ (hnone _), captureWithin_succ (hnone _), outline_withItems n hfinite]
    refine Outline.fill_take hkeys ?_ fun w hw => ?_
    · rw [keyBy_captureWithin (hnone _)]
      exact hdistinct
    · cases levels with
      | zero => rfl
      | succ levels =>
        rw [keyBy_captureWithin (hnone _)] at hw
        refine ih fun depth v hdepth hv => ?_
        have hlossless := h (depth + 1) v (Nat.succ_lt_succ hdepth) (.part hw hv)
        rwa [show levels + 1 + 1 - 1 - (depth + 1) = levels + 1 - 1 - depth by omega] at hlossless

/-- A limit on items is a truncation: no sequence and no dictionary has more of them, on any level, and if nothing
is lost without the limit, the value captured with it is the one captured without it, truncated. Without a limit
a value that lists endlessly many items cannot be captured. -/
theorem capture_withItems (s : Settings σ) (hp : s.policies = []) (view : σ → View σ) (root : σ) (mode : Mode)
    (n : Nat) :
    (∀ d, Datum.Occurs d ((s.withItems (some n)).capture view root mode).value → d.count ≤ n) ∧
    ((∀ depth v, depth < s.limits.maxDepth → Reached ((s.withItems none).parts view mode) depth root v →
        (s.withItems none).Lossless view (s.limits.maxDepth - 1 - depth) mode v) →
      ((s.withItems (some n)).capture view root mode).value =
        ((s.withItems none).capture view root mode).value.truncate n) :=
  ⟨fun _ hd => count_le_of_occurs (s := s.withItems (some n)) hp rfl hd, captureWithin_withItems hp n⟩

/-- A list of the same mapping, whose keys are letters and one of whose values is the list again. -/
def shelves : Nat → View Nat
  | 0 => ⟨[], ⟨"Shelves", "Shelves", .named "Shelves" false⟩, .sequence (.finite [1, 1, 1])⟩
  | 1 => ⟨[], ⟨"Shelf", "Shelf", .named "Shelf" false⟩,
    .mapping (.named "char" true) (.finite [(2, 3), (3, 0), (4, 2)])⟩
  | n => ⟨[], ⟨"char", "", .named "char" true⟩, .scalar (.char (Char.ofNat (95 + n)))⟩

def ofDepth (depth : Nat) : Settings Nat :=
  { limits := { maxDepth := depth } }

theorem capture_shelves :
    (ofDepth 3).policies = [] ∧
    (∀ depth v, depth < 3 → Reached (((ofDepth 3).withItems none).parts shelves .plain) depth 0 v →
      ((ofDepth 3).withItems none).Lossless shelves (3 - 1 - depth) .plain v) ∧
    let captured := (((ofDepth 3).withItems (some 2)).capture shelves 0 .plain).value
    captured = ((((ofDepth 3).withItems none).capture shelves 0 .plain).value).truncate 2 ∧
    captured = .sequence (List.replicate 2
      (.dictionary [(.char 'a', .scalar (.char 'b')), (.char 'b', .sequence [.null, .null])])) := by
  have hlossless : ∀ depth v, depth < 3 →
      Reached (((ofDepth 3).withItems none).parts shelves .plain) depth 0 v →
        ((ofDepth 3).withItems none).Lossless shelves (3 - 1 - depth) .plain v := by
    have hother : ∀ levels v, v ≠ 1 → ((ofDepth 3).withItems none).Lossless shelves levels .plain v := by
      rintro levels (_ | _ | v) hne
      · exact ⟨fun _ => trivial, fun entries h => nomatch (show Outline.sequence [1, 1, 1] = .dictionary entries from h)⟩
      · exact absurd rfl hne
      · refine ⟨fun _ => trivial, fun entries h => ?_⟩
        exact nomatch (show Outline.scalar (.char (Char.ofNat (95 + (v + 2)))) = .dictionary entries from h)
    intro depth v hdepth hv
    cases hv with
    | self => exact hother _ 0 (by decide)
    | @part n _ w _ hw hv =>
      have hshelf : w ∈ [1, 1, 1] := hw
      obtain rfl : w = 1 := by simpa using hshelf
      cases hv with
      | self =>
        refine ⟨fun _ => trivial, fun entries h => ?_⟩
        have hentries : Outline.dictionary [(2, 3), (3, 0), (4, 2)] = Outline.dictionary entries := h
        rw [← Outline.dictionary.inj hentries]
        decide
      | @part n _ w _ hw hv =>
        have hpart : w ∈ [3, 0, 2] := hw
        cases hv with
        | self =>
          refine hother _ _ ?_
          rintro rfl
          simp at hpart
        | part => omega
  refine ⟨rfl, hlossless, (capture_withItems (ofDepth 3) rfl shelves 0 .plain 2).2 hlossless, rfl⟩

end Settings

end StructuredMessage
