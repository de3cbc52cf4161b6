import StructuredMessage.Proofs.Capture.Stepwise

namespace StructuredMessage

/-- A collection that goes on for ever, with room for all of it. -/
def Outcome.Unending {σ : Type} : Outcome σ → Prop
  | .sequence walk => walk.room = none ∧ ¬walk.rest.IsFinite
  | .dictionary walk => walk.room = none ∧ ¬walk.rest.IsFinite
  | .done _ => False

namespace Settings

variable {σ : Type} (s : Settings σ) (view : σ → View σ) (rules : List (Rule σ))

/-- The outermost conversion is on its way through a collection that goes on for ever. -/
def Unending : Progress σ → Prop
  | .ended _ => False
  | .working task waiting _ =>
    match waiting.getLast?, task with
    | some next, _ => ∀ captured, (next captured).Keeps (fun _ => True) Outcome.Unending
    | none, .follow plan => plan.Keeps (fun _ => True) Outcome.Unending
    | none, .look v mode =>
      mode ≠ .stringify ∧ v.shape.isNothing = false ∧
        (s.levelPlan view rules mode v.inside).Keeps (fun _ => True) Outcome.Unending

variable {s view rules} {a : Progress σ} {waiting : List (Datum → Plan σ (Outcome σ))} {log : List Diagnostic}

theorem keeps_next_of_unending {α : Type} {walk : Walk σ α} {collect : List α → Datum}
    {again : Walk σ α → Outcome σ} (hagain : ∀ w, w.room = none ∧ ¬w.rest.IsFinite → (again w).Unending)
    (h : walk.room = none ∧ ¬walk.rest.IsFinite) :
    (walk.next collect again).Keeps (fun _ => True) Outcome.Unending := by
  obtain ⟨taken, rest, room⟩ := walk
  obtain ⟨rfl, hrest⟩ := h
  cases rest with
  | finite items => exact absurd trivial hrest
  | endless item =>
    exact (Plan.keeps_of_asks fun _ _ => trivial).map fun result _ => hagain _ ⟨rfl, not_false⟩

theorem unending_iff {bottom : Datum → Plan σ (Outcome σ)} (h : waiting.getLast? = some bottom) (task : Task σ) :
    s.Unending view rules (.working task waiting log) ↔
      ∀ captured, (bottom captured).Keeps (fun _ => True) Outcome.Unending := by
  simp only [Unending, h]

theorem unending_look {v : View σ} {mode : Mode} (h : s.Unending view rules (.working (.look v mode) [] log)) :
    s.Unending view rules (.working (s.look view rules v mode) [] log) := by
  obtain ⟨wrappers, face, shape⟩ := v
  obtain ⟨hmode, hshape, hplan⟩ := h
  have hsome : ∀ wrappers, View.isNothing ⟨wrappers, face, shape⟩ = false := fun wrappers => by
    rw [View.isNothing, hshape, Bool.and_false]
  rw [look, hsome, if_neg hmode]
  cases wrappers with
  | nil => exact hplan
  | cons outer wrappers => exact ⟨hmode, hshape, hplan⟩

theorem unending_advance (h : s.Unending view rules a) : s.Unending view rules (s.advance view rules a) := by
  cases a with
  | ended captured => exact h
  | working task waiting log =>
    cases waiting with
    | nil =>
      cases task with
      | look v mode => exact unending_look h
      | follow plan =>
        cases plan with
        | report d next => exact h
        | ask v mode next =>
          rw [advance]
          split
          next => exact h.2 _
          next => exact h.2
        | finish outcome =>
          cases outcome with
          | sequence walk => exact keeps_next_of_unending (fun _ => id) h
          | dictionary walk => exact keeps_next_of_unending (fun _ => id) h
          | done captured => exact h.elim
    | cons inner waiting =>
      -- The outermost conversion is left as it is until the last of those inside it has ended.
      obtain ⟨bottom, hbottom⟩ : ∃ bottom, (inner :: waiting).getLast? = some bottom :=
        ⟨_, List.getLast?_eq_some_getLast (List.cons_ne_nil inner waiting)⟩
      have hkeeps := (unending_iff hbottom task).mp h
      cases task with
      | look v mode => exact (unending_iff hbottom _).mpr hkeeps
      | follow plan =>
        cases plan with
        | report d next => exact (unending_iff hbottom _).mpr hkeeps
        | ask v mode next =>
          rw [advance]
          split
          next => exact (unending_iff hbottom _).mpr hkeeps
          next => exact (unending_iff (List.getLast?_cons_cons.trans hbottom) _).mpr hkeeps
        | finish outcome =>
          cases outcome with
          | sequence walk => exact (unending_iff hbottom _).mpr hkeeps
          | dictionary walk => exact (unending_iff hbottom _).mpr hkeeps
          | done captured =>
            cases waiting with
            | nil =>
              obtain rfl : inner = bottom := by simpa using hbottom
              exact hkeeps captured
            | cons outer waiting =>
              exact (unending_iff (List.getLast?_cons_cons.symm.trans hbottom) _).mpr hkeeps

/-- Without a limit on items a list that goes on for ever is never captured. -/
theorem iterate_advance_ne_ended (hlimit : s.limits.maxItems = none) {v : View σ} {item : Nat → σ}
    (hshape : v.shape = .sequence (.endless item)) (hscalar : v.face.type ∉ s.scalarTypes) {mode : Mode}
    (hmode : mode ≠ .stringify) (hrules : mode = .destructure → rules = []) (n : Nat) (captured : Logged Datum) :
    (s.advance view rules)^[n] (.start v mode) ≠ .ended captured := by
  have hplan : s.levelPlan view rules mode v.inside =
      .finish (.sequence (s.walk (fun item => .ask (view item) mode .finish) (.endless item))) := by
    have hnone : v.inside.scalar? s.scalarTypes = none := by simp [View.scalar?, View.inside, hshape, hscalar]
    have hclaim : (if mode = .destructure then Rule.claim v.inside rules else .finish none) = .finish none := by
      split
      next h => rw [hrules h, Rule.claim]
      next => rfl
    rw [levelPlan, hnone, hclaim]
    simp only [Plan.bind, compositePlan, View.inside, hshape]
  have hunending : s.Unending view rules ((s.advance view rules)^[n] (.start v mode)) := by
    induction n with
    | zero =>
      refine ⟨hmode, by rw [hshape]; rfl, ?_⟩
      rw [hplan]
      exact ⟨hlimit, not_false⟩
    | succ n ih =>
      rw [Function.iterate_succ_apply']
      exact unending_advance ih
  intro hended
  rw [hended] at hunending
  exact hunending

end Settings

end StructuredMessage
