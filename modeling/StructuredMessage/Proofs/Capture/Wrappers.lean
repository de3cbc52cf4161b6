import StructuredMessage.Capture.Builtin
import StructuredMessage.Proofs.Capture.Level

namespace StructuredMessage

/-! Parts of a value replaced; the keys of mappings stay. -/

section

variable {σ : Type} (f : σ → σ)

def Member.map (m : Member σ) : Member σ :=
  ⟨m.name, m.value.map f⟩

def Shape.map : Shape σ → Shape σ
  | mapping keys entries => mapping keys (entries.map (Prod.map id f))
  | sequence items => sequence (items.map f)
  | object members => object (members.map (Member.map f))
  | shape => shape

def View.map (v : View σ) : View σ :=
  { v with shape := v.shape.map f }

def Outline.map : Outline σ → Outline σ
  | scalar value => scalar value
  | lines texts => lines texts
  | sequence items => sequence (items.map f)
  | dictionary entries => dictionary (entries.map (Prod.map id f))
  | pairs entries => pairs (entries.map (Prod.map id f))
  | record tag members => record tag (members.map (Member.map f))

theorem Shape.isNothing_map (shape : Shape σ) : (shape.map f).isNothing = shape.isNothing := by
  cases shape <;> rfl

theorem View.scalar?_map (v : View σ) (scalarTypes : List SubjectType) :
    (v.map f).scalar? scalarTypes = v.scalar? scalarTypes := by
  obtain ⟨wrappers, face, shape⟩ := v
  cases shape <;> rfl

variable {f}

namespace Settings

variable {s : Settings σ} {view : σ → View σ} {mode : Mode}

/-- The outline keeps the texts of parts, so these must stay. -/
theorem mappingOutline_map (htext : ∀ w, (view (f w)).front.text = (view w).front.text) (keys : SubjectType)
    (entries : Items (σ × σ)) :
    s.mappingOutline view mode keys (entries.map (Prod.map id f)) =
      (s.mappingOutline view mode keys entries).map f := by
  unfold mappingOutline
  dsimp only
  rw [Items.upTo_map]
  split
  next => rfl
  next =>
    split
    next => rfl
    next =>
      have hline : (fun e => s.limits.cut (entryText view e)) ∘ Prod.map id f =
          fun e => s.limits.cut (entryText view e) := by
        funext e
        simp [entryText, htext]
      rw [List.map_map, hline]
      rfl

theorem outline_map (htext : ∀ w, (view (f w)).front.text = (view w).front.text) (v : View σ) :
    s.outline view mode (v.map f) = (s.outline view mode v).map f := by
  have hnothing : (v.map f).isNothing = v.isNothing := by
    rw [View.isNothing, View.isNothing, View.map, Shape.isNothing_map]
  unfold outline
  rw [hnothing, View.scalar?_map, View.map, Shape.isNothing_map]
  split
  next => rfl
  next =>
    split
    next => rfl
    next =>
      split
      next => rfl
      next =>
        cases v.scalar? s.scalarTypes with
        | some value => rfl
        | none =>
          dsimp only [compositeOutline]
          cases v.shape with
          | mapping keys entries => exact mappingOutline_map htext keys entries
          | sequence items => exact congrArg Outline.sequence (Items.upTo_map _ f items)
          | object members => dsimp only [Shape.map]; split <;> rfl
          | callable => rfl
          | _ => dsimp only [Shape.map]; split <;> rfl

end Settings

/-- Parts that are captured alike can stand for each other. -/
theorem Outline.fill_map {view : σ → View σ} {inner : Inner σ} {mode : Mode}
    (h : ∀ w, inner (f w) mode = inner w mode) (o : Outline σ) :
    (o.map f).fill view inner mode = o.fill view inner mode := by
  cases o with
  | scalar value => rfl
  | lines texts => rfl
  | sequence items => simp [map, fill, Function.comp_def, h]
  | dictionary entries =>
    have hentry : Settings.entry view inner mode ∘ Prod.map id f = Settings.entry view inner mode := by
      funext e
      simp [Settings.entry, h]
    rw [map, fill, List.map_map, hentry, fill]
  | pairs entries =>
    have hpair : pair inner mode ∘ Prod.map id f = pair inner mode := by
      funext e
      simp [pair, h]
    rw [map, fill, List.map_map, hpair, fill]
  | record tag members =>
    have hproperty : property inner mode ∘ Member.map f = property inner mode := by
      funext m
      obtain ⟨name, value⟩ := m
      cases value with
      | ok w => simp [property, Member.map, Except.map, h]
      | error e => rfl
    rw [map, fill, List.map_map, hproperty, fill]

end

namespace Subject

variable {κ : Type} (optionals : Bool)

mutual

/-- The value without pointers, and without the optionals that are present if `optionals`: at the root and in
every part, the keys of mappings apart. -/
def unwrapped : Subject κ → Subject κ
  | pointer target => unwrapped target
  | present type inner => if optionals then unwrapped inner else present type (unwrapped inner)
  | sequence typeName type items => sequence typeName type (unwrappedItems items)
  | tuple typeName type parts => tuple typeName type (unwrappedItems parts)
  | mapping face keys entries => mapping face keys (unwrappedEntries entries)
  | object face members => object face (unwrappedMembers members)
  | foreign value => foreign value
  | unit => unit
  | scalar face value => scalar face value
  | absent type => absent type
  | bytes typeName type content => bytes typeName type content
  | json document => json document
  | variant face name => variant face name
  | callable face => callable face
  | formless face => formless face

def unwrappedItems : List (Subject κ) → List (Subject κ)
  | [] => []
  | item :: rest => unwrapped item :: unwrappedItems rest

def unwrappedEntries : List (Subject κ × Subject κ) → List (Subject κ × Subject κ)
  | [] => []
  | (key, value) :: rest => (key, unwrapped value) :: unwrappedEntries rest

def unwrappedMembers :
    List (String × Except String (Subject κ)) → List (String × Except String (Subject κ))
  | [] => []
  | (name, .ok value) :: rest => (name, .ok (unwrapped value)) :: unwrappedMembers rest
  | (name, .error e) :: rest => (name, .error e) :: unwrappedMembers rest

end

variable {optionals}

theorem unwrappedItems_eq (items : List (Subject κ)) :
    unwrappedItems optionals items = items.map (unwrapped optionals) := by
  induction items with
  | nil => rfl
  | cons item rest ih => rw [unwrappedItems, List.map_cons, ih]

theorem unwrappedEntries_eq (entries : List (Subject κ × Subject κ)) :
    unwrappedEntries optionals entries = entries.map (Prod.map id (unwrapped optionals)) := by
  induction entries with
  | nil => rfl
  | cons e rest ih => rw [unwrappedEntries, List.map_cons, ih]; rfl

theorem unwrappedMembers_eq (members : List (String × Except String (Subject κ))) :
    unwrappedMembers optionals members =
      members.map fun m => (m.1, m.2.map (unwrapped optionals)) := by
  induction members with
  | nil => rfl
  | cons m rest ih =>
    obtain ⟨name, value⟩ := m
    cases value <;> rw [unwrappedMembers, List.map_cons, ih] <;> rfl

variable {foreignView : κ → View (Subject κ)}

mutual

theorem typeName_front_unwrapped (v : Subject κ) :
    (front foreignView (v.unwrapped optionals)).typeName = (front foreignView v).typeName := by
  match v with
  | pointer target => simp only [unwrapped, front, typeName_front_unwrapped target]
  | present type inner =>
    rw [unwrapped]
    split
    · exact typeName_front_unwrapped inner
    · exact typeName_front_unwrapped inner
  | sequence .. | tuple .. | mapping .. | object .. | foreign _ | unit | scalar .. | absent _ | bytes .. | json _
  | variant .. | callable _ | formless _ => rfl

theorem text_front_unwrapped (v : Subject κ) :
    (front foreignView (v.unwrapped optionals)).text = (front foreignView v).text := by
  match v with
  | pointer target => simp only [unwrapped, front, text_front_unwrapped target]
  | present type inner =>
    rw [unwrapped]
    split
    · exact text_front_unwrapped inner
    · exact text_front_unwrapped inner
  | sequence typeName type items => simp only [unwrapped, front, texts_unwrappedItems items]
  | tuple typeName type parts => simp only [unwrapped, front, texts_unwrappedItems parts]
  | mapping .. | object .. | foreign _ | unit | scalar .. | absent _ | bytes .. | json _ | variant .. | callable _
  | formless _ => rfl

theorem texts_unwrappedItems (items : List (Subject κ)) :
    texts foreignView (unwrappedItems optionals items) = texts foreignView items := by
  match items with
  | [] => rfl
  | item :: rest => simp only [unwrappedItems, texts, text_front_unwrapped item, texts_unwrappedItems rest]

end

theorem front_view (v : Subject κ) : (view foreignView v).front = front foreignView v := by
  match v with
  | foreign _ => rfl
  | pointer target => exact front_view target
  | present type inner =>
    rw [front, ← front_view inner]
    rfl
  | sequence .. | tuple .. | mapping .. | object .. | unit | scalar .. | absent _ | bytes .. | json _
  | variant .. | callable _ | formless _ => rfl

theorem tupleMembers_map (f : Subject κ → Subject κ) (parts : List (Subject κ)) :
    tupleMembers (parts.map f) = (tupleMembers parts).map (Member.map f) := by
  rw [tupleMembers, tupleMembers, List.length_map, List.zip_map_right, List.map_map, List.map_map]
  rfl

/-- A value with parts is viewed as before, but for the parts. -/
def IsContainer : Subject κ → Prop
  | sequence .. | tuple .. | mapping .. | object .. => True
  | _ => False

theorem IsContainer.view_unwrapped {v : Subject κ} (h : v.IsContainer) :
    view foreignView (v.unwrapped optionals) = (view foreignView v).map (unwrapped optionals) := by
  cases v with
  | sequence typeName type items =>
    rw [unwrapped, view, view, View.map, front, texts_unwrappedItems, unwrappedItems_eq]
    rfl
  | tuple typeName type parts =>
    rw [unwrapped, view, view, View.map, front, texts_unwrappedItems, unwrappedItems_eq, tupleMembers_map]
    rfl
  | mapping face keys entries =>
    rw [unwrapped, view, view, View.map, unwrappedEntries_eq]
    rfl
  | object face members =>
    rw [unwrapped, view, view, View.map, unwrappedMembers_eq, List.map_map]
    simp [Shape.map, Member.map, Function.comp_def]
  | _ => exact h.elim

end Subject

namespace Settings

section

variable {σ : Type} {s : Settings σ} {view : σ → View σ} {mode : Mode}

/-- One more optional around a value makes no difference, unless only its text is asked for. -/
theorem outline_wrapped (hmode : mode ≠ .stringify) (face : Face) (v : View σ) :
    s.outline view mode (v.wrapped face) = s.outline view mode v := by
  rw [outline, outline, if_neg hmode, if_neg hmode]
  by_cases hshape : v.shape.isNothing
  · simp [View.wrapped, View.isNothing, hshape]
  · have hnothing : v.isNothing = false := by simp [View.isNothing, hshape]
    rw [hnothing]
    rfl

theorem outline_wrapped_stringify (face : Face) (v : View σ) :
    s.outline view .stringify (v.wrapped face) = s.textOutline face.text := rfl

end

variable {κ : Type} {s : Settings (Subject κ)} {foreignView : κ → View (Subject κ)} {mode : Mode}
  {optionals : Bool}

theorem captureWithin_present (hp : s.policies = []) (hmode : mode ≠ .stringify) (levels : Nat)
    (type : SubjectType) (inner : Subject κ) :
    s.captureWithin (Subject.view foreignView) (levels + 1) (.present type inner) mode =
      s.captureWithin (Subject.view foreignView) (levels + 1) inner mode := by
  rw [captureWithin_succ hp, captureWithin_succ hp, Subject.view, outline_wrapped hmode]

/-- If unwrapping makes no difference to what is captured of the parts, it makes none to the whole. -/
theorem captureWithin_succ_unwrapped (hp : s.policies = []) (hmode : optionals = true → mode ≠ .stringify)
    {levels : Nat}
    (ih : ∀ w : Subject κ, s.captureWithin (Subject.view foreignView) levels (w.unwrapped optionals) mode =
      s.captureWithin (Subject.view foreignView) levels w mode) (v : Subject κ) :
    s.captureWithin (Subject.view foreignView) (levels + 1) (v.unwrapped optionals) mode =
      s.captureWithin (Subject.view foreignView) (levels + 1) v mode := by
  have hcontainer : ∀ w : Subject κ, w.IsContainer →
      s.captureWithin (Subject.view foreignView) (levels + 1) (w.unwrapped optionals) mode =
        s.captureWithin (Subject.view foreignView) (levels + 1) w mode := by
    intro w hw
    have htext : ∀ u : Subject κ, (Subject.view foreignView (u.unwrapped optionals)).front.text =
        (Subject.view foreignView u).front.text := by
      intro u
      rw [Subject.front_view, Subject.front_view, Subject.text_front_unwrapped]
    rw [captureWithin_succ hp, captureWithin_succ hp, hw.view_unwrapped, outline_map htext,
      Outline.fill_map ih]
  match v with
  | .pointer target =>
    rw [Subject.unwrapped]
    exact captureWithin_succ_unwrapped hp hmode ih target
  | .present type inner =>
    have hinner := captureWithin_succ_unwrapped hp hmode ih inner
    rw [Subject.unwrapped]
    by_cases hstringify : mode = .stringify
    · have hoptionals : optionals = false := by
        cases optionals with
        | false => rfl
        | true => exact absurd hstringify (hmode rfl)
      subst hstringify hoptionals
      rw [if_neg (by decide), captureWithin_succ hp, captureWithin_succ hp, Subject.view, Subject.view,
        outline_wrapped_stringify, outline_wrapped_stringify, Subject.front_view, Subject.front_view,
        Subject.text_front_unwrapped]
    · split
      · rw [captureWithin_present hp hstringify]
        exact hinner
      · rw [captureWithin_present hp hstringify, captureWithin_present hp hstringify]
        exact hinner
  | .sequence .. | .tuple .. | .mapping .. | .object .. => exact hcontainer _ trivial
  | .foreign _ | .unit | .scalar .. | .absent _ | .bytes .. | .json _ | .variant .. | .callable _
  | .formless _ => rfl

/-- Wrappers are transparent. On any number of levels a value without its pointers is captured and reported on
as the value itself, and so is one without its pointers and its optionals, unless only its text is asked for. -/
theorem captureWithin_unwrapped (s : Settings (Subject κ)) (hp : s.policies = [])
    (foreignView : κ → View (Subject κ)) {mode : Mode} {optionals : Bool}
    (hmode : optionals = true → mode ≠ .stringify) (levels : Nat) (v : Subject κ) :
    s.captureWithin (Subject.view foreignView) levels (v.unwrapped optionals) mode =
      s.captureWithin (Subject.view foreignView) levels v mode := by
  induction levels generalizing v with
  | zero =>
    -- What is reported at the limit names the type of the value.
    rw [captureWithin, captureWithin, captureView, captureView, Subject.front_view, Subject.front_view,
      Subject.typeName_front_unwrapped]
  | succ levels ih => exact captureWithin_succ_unwrapped hp hmode ih v

/-- A mapping behind a pointer, its key behind one too, its value a list of an optional under an optional. -/
def parcel : Subject Empty :=
  .pointer (.ofEntries "BTreeMap" (.named "Box" false) [(.pointer (.ofScalar (.bool true)),
    .present (.named "Option" false) (.ofItems "Vec" (.named "Box" false)
      [.pointer (.present (.named "Option" false) (.present (.named "Option" false) (.ofScalar (.bool false))))]))])

theorem captureWithin_unwrapped_parcel :
    ({} : Settings (Subject Empty)).policies = [] ∧ (true = true → Mode.destructure ≠ .stringify) ∧
    parcel.unwrapped true = .ofEntries "BTreeMap" (.named "Box" false) [(.pointer (.ofScalar (.bool true)),
      .ofItems "Vec" (.named "Box" false) [.ofScalar (.bool false)])] ∧
    (∀ levels, ({} : Settings (Subject Empty)).captureWithin (Subject.view Empty.elim) levels
        (parcel.unwrapped true) .destructure =
      ({} : Settings (Subject Empty)).captureWithin (Subject.view Empty.elim) levels parcel .destructure) ∧
    (({} : Settings (Subject Empty)).captureWithin (Subject.view Empty.elim) 2 parcel .destructure).value =
      .sequence [.record none [("key", .scalar (.bool true)), ("value", .sequence [.null])]] :=
  ⟨rfl, by decide, rfl,
    fun levels => captureWithin_unwrapped {} rfl Empty.elim (by decide) levels parcel, rfl⟩

/-- As text an optional is there even if there is nothing in it. -/
example :
    (({} : Settings (Subject Empty)).capture (Subject.view Empty.elim)
        (.present (.named "Option" false) (.absent (.named "Option" false))) .stringify).value = .text "" ∧
    (({} : Settings (Subject Empty)).capture (Subject.view Empty.elim)
        (.absent (.named "Option" false)) .stringify).value = .null :=
  ⟨rfl, rfl⟩

end Settings

end StructuredMessage
