import Mathlib.Logic.Relation
import StructuredMessage.Proofs.Capture.Deepen
import StructuredMessage.Proofs.Capture.Level

namespace StructuredMessage

namespace Outline

variable {σ : Type} {view : σ → View σ} {inner : Inner σ} {mode other : Mode} {o : Outline σ}

/-- The mode matters only for how the parts are captured. -/
theorem fill_congr_mode (h : ∀ w ∈ o.asked, inner w mode = inner w other) :
    o.fill view inner mode = o.fill view inner other := by
  have hfixed : o.fill view inner mode = o.fill view (fun w _ => inner w other) mode := fill_congr h
  rw [hfixed]
  cases o <;> rfl

end Outline

namespace Settings

variable {σ : Type} (s : Settings σ) (view : σ → View σ)

/-- Data that has no form of its own: it is captured as a scalar, or through its items, or through its entries as
a dictionary. -/
def Plain (v : View σ) : Prop :=
  v.face.type ∈ s.scalarTypes ∨
    match v.shape with
    | .null | .absent | .scalar _ | .variant _ | .bytes _ | .sequence _ => True
    | .mapping keys _ => keys.isScalarKey ∨ keys ∈ s.scalarTypes
    | .object _ | .callable | .formless => False

/-- From a value to one of its parts. Values of a declared type have none. -/
def Opens (v w : σ) : Prop :=
  (view v).face.type ∉ s.scalarTypes ∧ (view v).Lists w

variable {s view} {mode : Mode}

theorem outline_of_declared {v : View σ} (hv : v.face.type ∈ s.scalarTypes) :
    ∃ value, s.outline view mode v = .scalar value := by
  unfold outline
  split
  next => exact ⟨_, rfl⟩
  next =>
    split
    next => exact ⟨_, rfl⟩
    next =>
      split
      next => exact ⟨_, rfl⟩
      next =>
        obtain ⟨value, hvalue⟩ : ∃ value, v.scalar? s.scalarTypes = some value := by
          unfold View.scalar?
          split
          next => exact ⟨_, rfl⟩
          next => exact ⟨_, if_pos hv⟩
        rw [hvalue]
        exact ⟨_, rfl⟩

theorem lists_of_mem_asked {v : View σ} {w : σ} (hw : w ∈ (s.outline view mode v).asked) : v.Lists w := by
  revert hw
  have hentry {keys : SubjectType} {entries : Items (σ × σ)} (hshape : v.shape = .mapping keys entries)
      (hw : w ∈ (entries.upTo s.limits.maxItems).flatMap fun e => [e.1, e.2]) : v.Lists w := by
    obtain ⟨e, he, hw⟩ := List.mem_flatMap.mp hw
    have he := Items.mem_of_mem_upTo he
    simp only [List.mem_cons, List.not_mem_nil, or_false] at hw
    obtain rfl | rfl := hw
    · exact .key hshape he
    · exact .value hshape he
  refine outline_cases (P := fun o => w ∈ o.asked → v.Lists w) mode v ?_ ?_ ?_ ?_ ?_ ?_ ?_ ?_
  · exact fun hw => absurd hw List.not_mem_nil
  · exact fun _ hw => absurd hw List.not_mem_nil
  · exact fun _ _ hw => absurd hw List.not_mem_nil
  · exact fun _ _ _ _ hw => absurd hw List.not_mem_nil
  · exact fun items hshape hw => .item hshape (Items.mem_of_mem_upTo hw)
  · exact fun keys entries hshape _ hw => hentry hshape hw
  · exact fun keys entries hshape _ _ _ hw => hentry hshape hw
  · rintro members (hshape | rfl) _ hw
    · obtain ⟨m, hm, hpart⟩ := List.mem_filterMap.mp hw
      exact .member hshape hm (Member.part?_eq_some_iff.mp hpart)
    · exact absurd hw List.not_mem_nil

theorem opens_of_mem_asked {v w : σ} (hw : w ∈ (s.outline view mode (view v)).asked) : s.Opens view v w := by
  refine ⟨fun hv => ?_, lists_of_mem_asked hw⟩
  obtain ⟨value, hvalue⟩ : ∃ value, s.outline view mode (view v) = .scalar value := outline_of_declared hv
  rw [hvalue] at hw
  exact absurd hw List.not_mem_nil

theorem Plain.compositeOutline_eq {v : View σ} (hv : s.Plain v) (hsome : v.shape.isNothing = false)
    (hscalar : v.scalar? s.scalarTypes = none) :
    s.compositeOutline view .plain v = s.compositeOutline view .destructure v := by
  rw [compositeOutline, compositeOutline]
  rw [View.scalar?] at hscalar
  rcases hv with hv | hv
  · cases hshape : v.shape <;> simp [hshape, hv] at hscalar
  · cases hshape : v.shape with
    | mapping keys entries =>
      rw [hshape] at hv
      simp only [mappingOutline, if_pos hv]
    | sequence items => rfl
    | object members => rw [hshape] at hv; exact hv.elim
    | callable => rfl
    | formless => rw [hshape] at hv; exact hv.elim
    | null | absent => rw [hshape] at hsome; cases hsome
    | scalar value => simp [hshape] at hscalar
    | variant name => simp [hshape] at hscalar; split at hscalar <;> cases hscalar
    | bytes content => simp [hshape] at hscalar; split_ifs at hscalar

theorem Plain.outline_eq {v : View σ} (hv : s.Plain v) :
    s.outline view .plain v = s.outline view .destructure v := by
  have hplain : Mode.plain ≠ .stringify := by decide
  have hdestructure : Mode.destructure ≠ .stringify := by decide
  rw [outline, outline, if_neg hplain, if_neg hdestructure]
  split
  next => rfl
  next =>
    split
    next => rfl
    next hsome =>
      cases hscalar : v.scalar? s.scalarTypes with
      | some value => rfl
      | none => exact hv.compositeOutline_eq (by simpa using hsome) hscalar

/-- Plain data is captured in the same way whether or not values are taken apart, and the same is reported: with
any number of levels left, the same value, if all that there is in it on any level is plain. -/
theorem captureWithin_plain (s : Settings σ) (hp : s.policies = []) (view : σ → View σ) {root : σ}
    (h : ∀ v, Relation.ReflTransGen (s.Opens view) root v → s.Plain (view v)) (levels : Nat) :
    s.captureWithin view levels root .plain = s.captureWithin view levels root .destructure := by
  induction levels generalizing root with
  | zero => rfl
  | succ levels ih =>
    rw [captureWithin_succ hp, captureWithin_succ hp, (h root .refl).outline_eq]
    refine Outline.fill_congr_mode fun w hw => ih fun v hv => h v (.head (opens_of_mem_asked hw) hv)

/-- A basket that lists itself and other things again and again: a box under an optional, with a letter on the
basket and on a tool, and the tool. Tools are no plain data, and neither is what is in them. -/
def basket : Nat → View Nat
  | 0 => ⟨[], ⟨"Basket", "", .named "Basket" false⟩, .sequence (.endless fun n => n % 4)⟩
  | 1 => ⟨[⟨"Box", "", .option .dynamic⟩], ⟨"Box", "", .collection "Box" (.named "char" true)⟩,
    .mapping (.named "char" true) (.finite [(2, 0), (2, 3)])⟩
  | 2 => ⟨[], ⟨"char", "a", .named "char" true⟩, .scalar (.char 'a')⟩
  | 3 => ⟨[], ⟨"Tool", "saw", .named "Tool" false⟩, .object [⟨"use", .ok 4⟩]⟩
  | _ => ⟨[], ⟨"fn()", "fn()", .named "fn()" false⟩, .callable⟩

/-- Tools are captured as scalars, and three items of every collection are kept. -/
def ofTools : Settings Nat :=
  { limits := { maxItems := some 3 }, scalarTypes := [.named "Tool" false] }

theorem lt_four_of_opens {v w : Nat} (hv : v < 4) (h : ofTools.Opens basket v w) : w < 4 := by
  obtain ⟨hdeclared, hlists⟩ := h
  match v, hv with
  | 0, _ =>
    cases hlists with
    | item hshape hw =>
      cases hshape
      obtain ⟨n, rfl⟩ := hw
      exact Nat.mod_lt n (by decide)
    | key hshape | value hshape | member hshape => cases hshape
  | 1, _ =>
    cases hlists with
    | @key keys entries e hshape he =>
      cases hshape
      have hentry : e ∈ [(2, 0), (2, 3)] := he
      revert e
      decide
    | @value keys entries e hshape he =>
      cases hshape
      have hentry : e ∈ [(2, 0), (2, 3)] := he
      revert e
      decide
    | item hshape | member hshape => cases hshape
  | 2, _ => cases hlists with | item hshape | key hshape | value hshape | member hshape => cases hshape
  | 3, _ => exact absurd (by decide) hdeclared

theorem captureWithin_plain_basket :
    ofTools.policies = [] ∧
    (∀ v, Relation.ReflTransGen (ofTools.Opens basket) 0 v → ofTools.Plain (basket v)) ∧
    ofTools.captureWithin basket 3 0 .plain = ofTools.captureWithin basket 3 0 .destructure ∧
    (ofTools.captureWithin basket 3 0 .plain).value =
      .sequence [
        .sequence [.sequence [.null, .null, .null], .dictionary [(.null, .null)], .scalar (.char 'a')],
        .dictionary [(.char 'a', .scalar (.other "Tool" "saw"))],
        .scalar (.char 'a')] := by
  have hplain : ∀ v, Relation.ReflTransGen (ofTools.Opens basket) 0 v → ofTools.Plain (basket v) := by
    intro v h
    have hv : v < 4 := by
      induction h with
      | refl => decide
      | tail _ hopens ih => exact lt_four_of_opens ih hopens
    match v, hv with
    | 0, _ => exact .inr trivial
    | 1, _ => exact .inr (.inl rfl)
    | 2, _ => exact .inr trivial
    | 3, _ => exact .inl (by decide)
  exact ⟨rfl, hplain, captureWithin_plain ofTools rfl basket hplain 3, rfl⟩

end Settings

end StructuredMessage
