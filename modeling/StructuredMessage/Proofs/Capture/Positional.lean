import Mathlib.Data.List.Forall2
import Mathlib.Data.List.Induction
import StructuredMessage.Capture.Bind
import StructuredMessage.Capture.Builtin

namespace StructuredMessage

namespace Logged

theorem value_foldlM {α β : Type} (f : β → α → Logged β) (xs : List α) (init : β) :
    (xs.foldlM f init : Logged β).value = xs.foldl (fun acc x => (f acc x).value) init := by
  induction xs generalizing init with
  | nil => rfl
  | cons x xs ih =>
    rw [List.foldlM_cons]
    exact ih (f init x).value

end Logged

namespace Placeholder

/-- The last of the placeholders that name the position. -/
def lastAt (position : Nat) (ps : List Placeholder) : Option Placeholder :=
  ps.reverse.find? fun p => p.position == some position

theorem lastAt_concat (position : Nat) (ps : List Placeholder) (p : Placeholder) :
    lastAt position (ps ++ [p]) =
      if p.position = some position then some p else lastAt position ps := by
  simp only [lastAt, List.reverse_append, List.reverse_singleton, List.singleton_append,
    List.find?_cons]
  split <;> simp_all

theorem position_of_lastAt {position : Nat} {ps : List Placeholder} {p : Placeholder}
    (h : lastAt position ps = some p) : p.position = some position := by
  simpa using List.find?_some h

theorem mem_of_lastAt {position : Nat} {ps : List Placeholder} {p : Placeholder}
    (h : lastAt position ps = some p) : p ∈ ps :=
  List.mem_reverse.mp (List.mem_of_find?_eq_some h)

theorem exists_lastAt {position : Nat} {ps : List Placeholder} {p : Placeholder} (hp : p ∈ ps)
    (hq : p.position = some position) : ∃ last, lastAt position ps = some last := by
  refine Option.isSome_iff_exists.mp ?_
  rw [lastAt, List.find?_isSome]
  exact ⟨p, List.mem_reverse.mpr hp, by simp [hq]⟩

/-- Behind the last placeholder of a position there is none of it. -/
theorem split_of_lastAt {position : Nat} {ps : List Placeholder} {p : Placeholder}
    (h : lastAt position ps = some p) :
    ∃ before after, ps = before ++ p :: after ∧ ∀ q ∈ after, q.position ≠ some position := by
  obtain ⟨-, after, before, hsplit, hafter⟩ := List.find?_eq_some_iff_append.mp h
  refine ⟨before.reverse, after.reverse, ?_, fun q hq => ?_⟩
  · rw [← List.reverse_reverse ps, hsplit]
    simp
  · simpa using hafter q (List.mem_reverse.mp hq)

/-- Equal names are equal positions. -/
theorem position_congr {p q : Placeholder} (h : p.name = q.name) : p.position = q.position := by
  rw [position, position, h]

end Placeholder

/-- A search among the values that `f` has below `n` that only the value at `i` can end. -/
theorem find?_filterMap_range {α : Type} {f : Nat → Option α} {good : α → Bool} {n i : Nat}
    (honly : ∀ j, j ≠ i → (f j).any good = false) (hlt : ∀ x, f i = some x → i < n) :
    ((List.range n).filterMap f).find? good = (f i).filter good := by
  rw [List.find?_filterMap]
  cases hi : (f i).any good with
  | true =>
    obtain ⟨x, hx, hgood⟩ := (Option.any_eq_true ..).mp hi
    have hfound : (List.range n).find? (fun j => (f j).any good) = some i :=
      List.find?_range_eq_some.mpr ⟨hi, List.mem_range.mpr (hlt x hx), fun j hj => by
        simp [honly j (Nat.ne_of_lt hj)]⟩
    rw [hfound, Option.bind_some, hx, Option.filter_some_pos hgood]
  | false =>
    have hnone : (List.range n).find? (fun j => (f j).any good) = none := by
      refine List.find?_eq_none.mpr fun j _ => ?_
      by_cases hj : j = i
      · simp [hj, hi]
      · simp [honly j hj]
    rw [hnone, Option.bind_none, eq_comm, ← Option.not_isSome_iff_eq_none, Option.isSome_filter]
    simp [hi]

theorem forall₂_filter_filterMap {α β : Type} (f : α → Option β) (xs : List α) :
    List.Forall₂ (fun x y => f x = some y) (xs.filter fun x => (f x).isSome) (xs.filterMap f) := by
  induction xs with
  | nil => exact .nil
  | cons x xs ih =>
    cases hx : f x with
    | none => rwa [List.filter_cons_of_neg (by simp [hx]), List.filterMap_cons_none hx]
    | some y =>
      rw [List.filter_cons_of_pos (by simp [hx]), List.filterMap_cons_some hx]
      exact .cons hx ih

namespace Settings

variable {σ : Type} (s : Settings σ) (view : σ → View σ)

/-- What the slot of a position holds after the placeholders `ps`: the property that the last of them at
this position makes of the value there. -/
def slot (values : List σ) (ps : List Placeholder) (position : Nat) : Option Property :=
  values[position]?.bind fun value =>
    (Placeholder.lastAt position ps).map fun p => (s.property view p value).value

theorem slot_concat_of_eq {values : List σ} {ps : List Placeholder} {p : Placeholder} {position : Nat}
    {value : σ} (hp : p.position = some position) (hv : values[position]? = some value) :
    s.slot view values (ps ++ [p]) position = some (s.property view p value).value := by
  simp [slot, hv, Placeholder.lastAt_concat, hp]

theorem slot_concat_of_ne {values : List σ} {ps : List Placeholder} {p : Placeholder} {position : Nat}
    (hp : p.position ≠ some position) :
    s.slot view values (ps ++ [p]) position = s.slot view values ps position := by
  simp [slot, Placeholder.lastAt_concat, hp]

theorem fillSlot_of_value (t : Template) {values : List σ} (slots : List (Option Property))
    {p : Placeholder} {position : Nat} {value : σ} (hp : p.position = some position)
    (hv : values[position]? = some value) :
    (s.fillSlot view t values slots p).value =
      slots.set position (some (s.property view p value).value) := by
  simp only [fillSlot, hp, hv, Logged.value_map]

theorem fillSlot_of_no_value (t : Template) {values : List σ} (slots : List (Option Property))
    {p : Placeholder} (h : ∀ position, p.position = some position → values[position]? = none) :
    (s.fillSlot view t values slots p).value = slots := by
  unfold fillSlot
  cases hp : p.position with
  | none => rfl
  | some position =>
    simp only [h position hp]
    rfl

/-- Filling the slot of one more placeholder gives what the slots hold after it. -/
theorem fillSlot_value (t : Template) (values : List σ) (ps : List Placeholder) (p : Placeholder) :
    (s.fillSlot view t values ((List.range values.length).map (s.slot view values ps)) p).value =
      (List.range values.length).map (s.slot view values (ps ++ [p])) := by
  by_cases h : ∀ position, p.position = some position → values[position]? = none
  · rw [s.fillSlot_of_no_value view t _ h]
    refine List.map_congr_left fun q hq => (s.slot_concat_of_ne view ?_).symm
    intro he
    have hout := List.getElem?_eq_none_iff.mp (h q he)
    have hin := List.mem_range.mp hq
    omega
  · simp only [not_forall, exists_prop] at h
    obtain ⟨position, hp, hv⟩ := h
    obtain ⟨value, hv⟩ := Option.ne_none_iff_exists'.mp hv
    rw [s.fillSlot_of_value view t _ hp hv]
    refine List.ext_getElem (by simp) fun i hi hi' => ?_
    simp only [List.getElem_set, List.getElem_map, List.getElem_range]
    split
    next he =>
      subst he
      exact (s.slot_concat_of_eq view hp hv).symm
    next hne =>
      refine (s.slot_concat_of_ne view ?_).symm
      rw [hp]
      exact fun he => hne (Option.some.inj he)

theorem foldl_fillSlot (t : Template) (values : List σ) (ps : List Placeholder) :
    ps.foldl (fun slots p => (s.fillSlot view t values slots p).value) (values.map fun _ => none) =
      (List.range values.length).map (s.slot view values ps) := by
  induction ps using List.reverseRecOn with
  | nil =>
    refine List.ext_getElem (by simp) fun i hi hi' => ?_
    simp [slot, Placeholder.lastAt]
  | append_singleton ps p ih =>
    rw [List.foldl_append, ih]
    exact s.fillSlot_value view t values ps p

/-- The properties of a template that binds by position, in the order of the positions. -/
theorem bindPositional_value (t : Template) (values : List σ) :
    (s.bindPositional view t values).value =
      (List.range values.length).filterMap (s.slot view values t.placeholders) := by
  simp only [bindPositional, Logged.value_map, Logged.value_foldlM, s.foldl_fillSlot view]
  rw [List.filterMap_map]
  rfl

theorem bind_value_of_positional {t : Template} (values : List σ)
    (hall : ∀ p ∈ t.placeholders, p.position.isSome) (hne : t.placeholders ≠ []) :
    (s.bind view t values).value = (s.bindPositional view t values).value := by
  have hbinding : t.binding = .positional := by
    unfold Template.binding
    have hpositional : t.placeholders.all Template.isPositional = true := List.all_eq_true.mpr hall
    rw [if_neg (by simpa using hne), if_pos hpositional]
  unfold bind
  rw [hbinding]
  dsimp only
  split <;> rfl

/-- A slot can only hold a property of the given name if it is the slot of the position that the name
writes. -/
theorem slot_name {values : List σ} {ps : List Placeholder} {p : Placeholder} {position i : Nat}
    {property : Property} (hp : p.position = some position)
    (h : s.slot view values ps i = some property) (hname : property.1 = p.name) : i = position := by
  simp only [slot, Option.bind_eq_some_iff, Option.map_eq_some_iff] at h
  obtain ⟨value, _, last, hlast, rfl⟩ := h
  have hpos := Placeholder.position_of_lastAt hlast
  have hcongr := Placeholder.position_congr (p := last) (q := p) hname
  exact Option.some.inj (hpos.symm.trans (hcongr.trans hp))

theorem lt_length_of_slot {values : List σ} {ps : List Placeholder} {position : Nat} {property : Property}
    (h : s.slot view values ps position = some property) : position < values.length := by
  obtain ⟨value, hv, _⟩ := Option.bind_eq_some_iff.mp h
  exact (List.getElem?_eq_some_iff.mp hv).1

/-- Only the slot of its own position can answer for the name of a placeholder. -/
theorem get?_bindPositional (t : Template) (values : List σ) {p : Placeholder} {position : Nat}
    (hp : p.position = some position) :
    Properties.get? p.name (s.bindPositional view t values).value =
      ((s.slot view values t.placeholders position).filter fun property =>
        property.1 == p.name).map Prod.snd := by
  have honly : ∀ i, i ≠ position →
      (s.slot view values t.placeholders i).any (fun property => property.1 == p.name) = false := by
    intro i hne
    refine Bool.eq_false_iff.mpr fun hany => hne ?_
    obtain ⟨property, hproperty, hname⟩ := (Option.any_eq_true ..).mp hany
    exact s.slot_name view hp hproperty (by simpa using hname)
  rw [s.bindPositional_value view, Properties.get?, find?_filterMap_range honly fun property =>
    s.lt_length_of_slot view]

/-- A placeholder finds what the last placeholder of its position captures, if that one is written the same
way. -/
theorem get?_bind_of_lastAt {t : Template} (values : List σ)
    (hall : ∀ p ∈ t.placeholders, p.position.isSome) {p last : Placeholder} {position : Nat}
    (hmem : p ∈ t.placeholders) (hp : p.position = some position)
    (hlast : Placeholder.lastAt position t.placeholders = some last) :
    Properties.get? p.name (s.bind view t values).value =
      if last.name = p.name then values[position]?.map fun value => (s.capture view value last.mode).value
      else none := by
  have hslot : s.slot view values t.placeholders position =
      values[position]?.map fun value => (last.name, (s.capture view value last.mode).value) := by
    unfold slot
    rw [hlast]
    cases values[position]? <;> rfl
  rw [s.bind_value_of_positional view values hall (List.ne_nil_of_mem hmem),
    s.get?_bindPositional view t values hp, hslot]
  cases values[position]? with
  | none => simp
  | some value =>
    rw [Option.map_some, Option.filter_some, Option.map_some]
    simp only [beq_iff_eq]
    split <;> rfl

/-- A placeholder finds its own value in its own mode iff the last placeholder of its position is written the
same way and captures the same. -/
theorem get?_bind_eq_own_iff {t : Template} {values : List σ}
    (hall : ∀ p ∈ t.placeholders, p.position.isSome) {p last : Placeholder} {position : Nat} {value : σ}
    (hmem : p ∈ t.placeholders) (hp : p.position = some position)
    (hlast : Placeholder.lastAt position t.placeholders = some last) (hv : values[position]? = some value) :
    Properties.get? p.name (s.bind view t values).value = some (s.capture view value p.mode).value ↔
      last.name = p.name ∧ (s.capture view value last.mode).value = (s.capture view value p.mode).value := by
  rw [s.get?_bind_of_lastAt view values hall hmem hp hlast, hv, Option.map_some]
  split
  next hname => simp [hname]
  next hname => simp [hname]

/-- All placeholders find their own values iff those that share a position agree with each other. -/
theorem get?_bind_eq_own_iff_agree {t : Template} (values : List σ)
    (hall : ∀ p ∈ t.placeholders, p.position.isSome) :
    (∀ p ∈ t.placeholders, ∀ position value, p.position = some position →
        values[position]? = some value →
        Properties.get? p.name (s.bind view t values).value =
          some (s.capture view value p.mode).value) ↔
      ∀ p ∈ t.placeholders, ∀ q ∈ t.placeholders, ∀ position value, p.position = some position →
        q.position = some position → values[position]? = some value →
        p.name = q.name ∧ (s.capture view value p.mode).value = (s.capture view value q.mode).value := by
  constructor
  · intro h p hpm q hqm position value hp hq hv
    obtain ⟨last, hlast⟩ := Placeholder.exists_lastAt hpm hp
    obtain ⟨hpname, hpvalue⟩ := (s.get?_bind_eq_own_iff view hall hpm hp hlast hv).mp
      (h p hpm position value hp hv)
    obtain ⟨hqname, hqvalue⟩ := (s.get?_bind_eq_own_iff view hall hqm hq hlast hv).mp
      (h q hqm position value hq hv)
    exact ⟨hpname.symm.trans hqname, hpvalue.symm.trans hqvalue⟩
  · intro h p hmem position value hp hv
    obtain ⟨last, hlast⟩ := Placeholder.exists_lastAt hmem hp
    refine (s.get?_bind_eq_own_iff view hall hmem hp hlast hv).mpr ?_
    exact h last (Placeholder.mem_of_lastAt hlast) p hmem position value
      (Placeholder.position_of_lastAt hlast) hp hv

/-- Where there is no value a placeholder finds nothing. Where there is one it finds it in its own mode iff the
last placeholder of its position agrees with it. -/
theorem get?_bind_of_positional {t : Template} (values : List σ)
    (hall : ∀ p ∈ t.placeholders, p.position.isSome) {p : Placeholder} (hmem : p ∈ t.placeholders) :
    ∃ position last, p.position = some position ∧
      Placeholder.lastAt position t.placeholders = some last ∧
      (values.length ≤ position → Properties.get? p.name (s.bind view t values).value = none) ∧
      ∀ value, values[position]? = some value →
        (Properties.get? p.name (s.bind view t values).value =
            some (s.capture view value p.mode).value ↔
          last.name = p.name ∧
            (s.capture view value last.mode).value = (s.capture view value p.mode).value) := by
  obtain ⟨position, hp⟩ := Option.isSome_iff_exists.mp (hall p hmem)
  obtain ⟨last, hlast⟩ := Placeholder.exists_lastAt hmem hp
  refine ⟨position, last, hp, hlast, fun hout => ?_, fun value hv => ?_⟩
  · rw [s.get?_bind_of_lastAt view values hall hmem hp hlast, List.getElem?_eq_none hout]
    simp
  · exact s.get?_bind_eq_own_iff view hall hmem hp hlast hv

/-- The integers 1 and 2. -/
def oneAndTwo : List (Subject Empty) :=
  [.ofScalar (.integer ⟨.i32, 1, by decide⟩), .ofScalar (.integer ⟨.i32, 2, by decide⟩)]

/-- What a template makes of the integers 1 and 2. -/
def ofOneAndTwo (t : Template) : List Property :=
  (bind {} (Subject.view Empty.elim) t oneAndTwo).value

/-- A template that names a position twice in one spelling. -/
def repeating : Template :=
  .parse "\x7b1\x7d \x7b0\x7d \x7b1\x7d"

/-- A template that names a position in two spellings. -/
def respelling : Template :=
  .parse "\x7b0\x7d \x7b00\x7d"

theorem get?_bind_repeating :
    (∀ p ∈ repeating.placeholders, p.position.isSome) ∧
    ∀ p ∈ repeating.placeholders, ∀ position value, p.position = some position →
      oneAndTwo[position]? = some value →
      Properties.get? p.name (ofOneAndTwo repeating) =
        some (capture {} (Subject.view Empty.elim) value p.mode).value := by
  have hall : ∀ p ∈ repeating.placeholders, p.position.isSome := by decide +kernel
  have hmode : ∀ p ∈ repeating.placeholders, p.mode = .plain := by decide +kernel
  have hname : ∀ p ∈ repeating.placeholders, ∀ q ∈ repeating.placeholders,
      p.position = q.position → p.name = q.name := by decide +kernel
  refine ⟨hall, ?_⟩
  intro p hmem position value hp hv
  obtain ⟨position', last, hp', hlast, _, hfound⟩ :=
    get?_bind_of_positional {} (Subject.view Empty.elim) oneAndTwo hall hmem
  obtain rfl : position = position' := Option.some.inj (hp.symm.trans hp')
  have hlastMem := Placeholder.mem_of_lastAt hlast
  refine (hfound value hv).mpr ⟨hname last hlastMem p hmem ?_, ?_⟩
  · rw [Placeholder.position_of_lastAt hlast, hp]
  · rw [hmode last hlastMem, hmode p hmem]

/-- The second spelling of a position takes its slot, and the first one finds nothing. -/
theorem get?_bind_respelling :
    (∀ p ∈ respelling.placeholders, p.position = some 0) ∧
    (∃ p ∈ respelling.placeholders, Properties.get? p.name (ofOneAndTwo respelling) = none) ∧
    respelling.render (ofOneAndTwo respelling) .neutral = "\x7b0\x7d 1" := by
  decide +kernel

/-- The property is made of the value at the position by the last placeholder that names it. -/
def MadeAt (t : Template) (values : List σ) (position : Nat) (property : Property) : Prop :=
  ∃ before p after value, t.placeholders = before ++ p :: after ∧ p.position = some position ∧
    (∀ q ∈ after, q.position ≠ some position) ∧ values[position]? = some value ∧
    property = (p.name, (s.capture view value p.mode).value)

theorem madeAt_of_slot {t : Template} {values : List σ} {position : Nat} {property : Property}
    (h : s.slot view values t.placeholders position = some property) :
    s.MadeAt view t values position property := by
  obtain ⟨value, hv, hlast⟩ := Option.bind_eq_some_iff.mp h
  obtain ⟨p, hp, rfl⟩ := Option.map_eq_some_iff.mp hlast
  obtain ⟨before, after, hsplit, hafter⟩ := Placeholder.split_of_lastAt hp
  exact ⟨before, p, after, value, hsplit, Placeholder.position_of_lastAt hp, hafter, hv, rfl⟩

theorem isSome_slot_iff {values : List σ} {ps : List Placeholder} {position : Nat} :
    (s.slot view values ps position).isSome ↔
      position < values.length ∧ ∃ p ∈ ps, p.position = some position := by
  constructor
  · intro h
    obtain ⟨property, hslot⟩ := Option.isSome_iff_exists.mp h
    obtain ⟨value, hv, hlast⟩ := Option.bind_eq_some_iff.mp hslot
    obtain ⟨p, hp, -⟩ := Option.map_eq_some_iff.mp hlast
    exact ⟨s.lt_length_of_slot view hslot, p, Placeholder.mem_of_lastAt hp, Placeholder.position_of_lastAt hp⟩
  · rintro ⟨hlt, p, hmem, hp⟩
    obtain ⟨last, hlast⟩ := Placeholder.exists_lastAt hmem hp
    simp [slot, List.getElem?_eq_getElem hlt, hlast]

/-- Without placeholders all slots are empty, so that there are no properties either. -/
theorem bind_value_eq_filterMap {t : Template} (hall : ∀ p ∈ t.placeholders, p.position.isSome) (values : List σ) :
    (s.bind view t values).value =
      (List.range values.length).filterMap (s.slot view values t.placeholders) := by
  by_cases hne : t.placeholders = []
  · have hbinding : t.binding = .none := by
      rw [Template.binding, hne]
      rfl
    have hslot : ∀ i ∈ List.range values.length, s.slot view values t.placeholders i = none := by
      intro i _
      rw [hne, slot]
      cases values[i]? <;> rfl
    rw [List.filterMap_eq_nil_iff.mpr hslot]
    unfold bind
    rw [hbinding]
    dsimp only
    split <;> rfl
  · rw [s.bind_value_of_positional view values hall hne, s.bindPositional_value view]

/-- A template that binds by position has one property for every position that has a value and is named, in the order of
the positions. It is made by the last placeholder of its position. -/
theorem bind_by_position {t : Template} (hall : ∀ p ∈ t.placeholders, p.position.isSome) (values : List σ) :
    ∃ positions : List Nat, positions.Pairwise (· < ·) ∧
      (∀ i, i ∈ positions ↔ i < values.length ∧ ∃ p ∈ t.placeholders, p.position = some i) ∧
      List.Forall₂ (s.MadeAt view t values) positions (s.bind view t values).value := by
  let filled (i : Nat) : Bool := (s.slot view values t.placeholders i).isSome
  refine ⟨(List.range values.length).filter filled, List.pairwise_lt_range.filter _, fun i => ?_, ?_⟩
  · rw [List.mem_filter, List.mem_range, s.isSome_slot_iff view]
    exact ⟨And.right, fun h => ⟨h.1, h⟩⟩
  · rw [s.bind_value_eq_filterMap view hall]
    exact (forall₂_filter_filterMap (s.slot view values t.placeholders) _).imp fun _ _ => s.madeAt_of_slot view

/-- A template that names a position in two spellings and modes, leaves one out and names one beyond its values. -/
def scattered : Template :=
  .parse "\x7b2\x7d \x7b0\x7d \x7b$02\x7d \x7b7\x7d"

theorem bind_by_position_scattered :
    (∀ p ∈ scattered.placeholders, p.position.isSome) ∧
    let values := oneAndTwo ++ oneAndTwo
    let bound := (bind {} (Subject.view Empty.elim) scattered values).value
    (∃ positions : List Nat, positions.Pairwise (· < ·) ∧
      (∀ i, i ∈ positions ↔ i < values.length ∧ ∃ p ∈ scattered.placeholders, p.position = some i) ∧
      List.Forall₂ (MadeAt {} (Subject.view Empty.elim) scattered values) positions bound) ∧
    bound.map Prod.fst = ["0", "02"] := by
  have hall : ∀ p ∈ scattered.placeholders, p.position.isSome := by decide +kernel
  exact ⟨hall, bind_by_position {} (Subject.view Empty.elim) hall _, by decide +kernel⟩

end Settings

end StructuredMessage
