import StructuredMessage.Capture.Builtin
import StructuredMessage.Proofs.Capture.Deepen
import StructuredMessage.Proofs.Datum.Truncate

namespace StructuredMessage

namespace Outline

variable {σ : Type} {view : σ → View σ} {inner : Inner σ} {mode : Mode} {o : Outline σ}

/-- Whether no record is built on this level. -/
def Recordless : Outline σ → Prop
  | pairs _ | record _ _ => False
  | _ => True

/-- A record that is not built on this level lies in one of the captured parts. -/
theorem Recordless.occurs_part (ho : o.Recordless) {tag : Option String} {properties : List Property}
    (h : Datum.Occurs (.record tag properties) (o.fill view inner mode).value) :
    ∃ w, Datum.Occurs (.record tag properties) (inner w mode).value := by
  cases o with
  | scalar value => cases h.eq_of_scalar
  | lines texts =>
    cases h with
    | child hc hd =>
      obtain ⟨t, -, rfl⟩ := List.mem_map.mp hc
      cases hd.eq_of_scalar
  | sequence items =>
    rw [value_fill_sequence] at h
    cases h with
    | child hc hd =>
      obtain ⟨w, -, rfl⟩ := List.mem_map.mp hc
      exact ⟨w, hd⟩
  | dictionary entries =>
    rw [value_fill_dictionary] at h
    cases h with
    | child hc hd =>
      obtain ⟨w, -, rfl⟩ := mem_values_dictionary.mp hc
      exact ⟨w, hd⟩
  | pairs entries => exact ho.elim
  | record tag members => exact ho.elim

end Outline

namespace Settings

variable {σ : Type} (s : Settings σ)

/-- The same settings with other policies. -/
def withPolicies (policies : List (Policy σ)) : Settings σ :=
  { s with policies }

variable {s} {view : σ → View σ} {mode : Mode}

theorem recordless_outline (hmode : mode ≠ .destructure) (v : View σ) : (s.outline view mode v).Recordless := by
  refine outline_cases (P := Outline.Recordless) mode v trivial (fun _ => trivial) (fun _ _ => trivial)
    (fun _ _ _ _ => trivial) (fun _ _ => trivial) (fun _ _ _ _ => trivial) ?_ ?_
  · intro _ _ _ _ hdestructure
    exact absurd hdestructure hmode
  · intro _ _ hdestructure
    exact absurd hdestructure hmode

/-- Where values are not taken apart, one level with policies is one level without. -/
theorem captureWithin_succ_of_ne (hmode : mode ≠ .destructure) (levels : Nat) (v : σ) :
    s.captureWithin view (levels + 1) v mode =
      (s.outline view mode (view v)).fill view (s.captureWithin view levels) mode :=
  level_eq_fill _ (fun h => absurd h hmode) (view v)

theorem captureWithin_withPolicies (hmode : mode ≠ .destructure) (policies : List (Policy σ)) (levels : Nat)
    (v : σ) :
    (s.withPolicies policies).captureWithin view levels v mode =
      (s.withPolicies []).captureWithin view levels v mode := by
  induction levels generalizing v with
  | zero => rfl
  | succ levels ih =>
    rw [captureWithin_succ_of_ne hmode, captureWithin_succ_of_ne hmode]
    exact Outline.fill_congr fun w _ => ih w

theorem not_occurs_record (hmode : mode ≠ .destructure) (levels : Nat) (v : σ) (tag : Option String)
    (properties : List Property) :
    ¬Datum.Occurs (.record tag properties) (s.captureWithin view levels v mode).value := by
  induction levels generalizing v with
  | zero =>
    rw [captureWithin_zero]
    intro h
    cases h.eq_of_scalar
  | succ levels ih =>
    rw [captureWithin_succ_of_ne hmode]
    intro h
    obtain ⟨w, hw⟩ := (recordless_outline hmode (view v)).occurs_part h
    exact ih w hw

theorem captureWithin_stringify (levels : Nat) (v : σ) :
    (s.captureWithin view levels v .stringify).value = .null ∨
      ∃ text, (s.captureWithin view levels v .stringify).value = .text text := by
  cases levels with
  | zero => exact .inl rfl
  | succ levels =>
    rw [captureWithin_succ_of_ne (by decide), outline]
    split
    next => exact .inl rfl
    next => exact .inr ⟨_, rfl⟩

/-- Policies have a say only where values are taken apart: in any other mode, whatever the policies, the value
is captured and reported on as it is without them, and no record is in it on any level. As text it is null or a
text. -/
theorem capture_withPolicies (s : Settings σ) (policies : List (Policy σ)) (view : σ → View σ) (root : σ)
    {mode : Mode} (hmode : mode ≠ .destructure) :
    (s.withPolicies policies).capture view root mode = (s.withPolicies []).capture view root mode ∧
    (∀ tag properties,
      ¬Datum.Occurs (.record tag properties) ((s.withPolicies policies).capture view root mode).value) ∧
    (mode = .stringify →
      ((s.withPolicies policies).capture view root mode).value = .null ∨
        ∃ text, ((s.withPolicies policies).capture view root mode).value = .text text) := by
  refine ⟨captureWithin_withPolicies hmode policies _ root, not_occurs_record hmode _ root, ?_⟩
  rintro rfl
  exact captureWithin_stringify _ root

/-- A policy that takes every value apart, into its text. -/
def labelled : Policy σ := fun v _ => pure (some (.tagged none [("text", .text v.front.text)]))

/-- A list of an object under an optional. -/
def crate : Subject Empty :=
  .ofItems "Vec" (.named "Crate" false)
    [.present (.named "Crate" false) (.ofMembers "Crate" [("id", .ofBareText "c1")])]

theorem capture_labelled_crate :
    Mode.plain ≠ .destructure ∧
    (withPolicies {} [labelled]).capture (Subject.view Empty.elim) crate .plain =
      (withPolicies {} []).capture (Subject.view Empty.elim) crate .plain ∧
    ((withPolicies {} [labelled]).capture (Subject.view Empty.elim) crate .plain).value =
      .sequence [.text "Crate"] ∧
    ((withPolicies {} [labelled]).capture (Subject.view Empty.elim) crate .destructure).value =
      .record none [("text", .text "[Crate]")] :=
  ⟨by decide, (capture_withPolicies {} [labelled] (Subject.view Empty.elim) crate (by decide)).1, rfl, rfl⟩

end Settings

end StructuredMessage
