import Mathlib.Data.List.Forall2
import StructuredMessage.Proofs.Capture.Deepen

namespace StructuredMessage

/-- Which of two values is meant, the one before members were lost or the one after. -/
inductive Phase
  | before
  | after

def Phase.pick {α : Type} (phase : Phase) (x y : α) : α :=
  match phase with
  | before => x
  | after => y

/-- A member that is lost: what it was captured as before, and why it cannot be read any more. -/
structure Loss where
  name : String
  before : Logged Datum
  error : String

def Loss.report (loss : Loss) : Diagnostic :=
  .accessorFailed loss.name loss.error

/-- What takes the place of a lost member. -/
def Loss.after (loss : Loss) : Logged Datum :=
  .reporting loss.report (.text (Outline.failureText loss.error))

def Loss.captured (phase : Phase) (loss : Loss) : Logged Datum :=
  phase.pick loss.before loss.after

mutual

/-- A captured value with slots for the members that are lost. -/
inductive Frame
  | whole (captured : Logged Datum)
  | sequence (items : List Frame)
  | dictionary (entries : List KeyedFrame)
  | record (tag : Option String) (slots : List Slot)

/-- An entry of a dictionary. Of what its key was captured as only the reports stay. -/
inductive KeyedFrame
  | entry (key : Scalar) (asked : Frame) (reports : List Diagnostic) (value : Frame)

inductive Slot
  | kept (name : String) (part : Frame)
  | lost (loss : Loss)

end

section

variable (filler : Loss → Logged Datum)

mutual

/-- The captured value with every slot filled. -/
def Frame.fill : Frame → Logged Datum
  | .whole captured => captured
  | .sequence items => (Frame.fillItems items).map .sequence
  | .dictionary entries => (Frame.fillEntries entries).map fun es => .dictionary (Entries.ofList es)
  | .record tag slots => (Frame.fillSlots slots).map (.tagged tag)

def KeyedFrame.fill : KeyedFrame → Logged (Scalar × Datum)
  | .entry key asked reports value =>
    (asked.fill.bind fun _ => (⟨key, reports⟩ : Logged Scalar)).bind fun k => value.fill.map fun d => (k, d)

def Slot.fill : Slot → Logged Property
  | .kept name part => part.fill.map fun d => (name, d)
  | .lost loss => (filler loss).map fun d => (loss.name, d)

def Frame.fillItems : List Frame → Logged (List Datum)
  | [] => pure []
  | item :: rest => item.fill.bind fun d => (Frame.fillItems rest).map fun ds => d :: ds

def Frame.fillEntries : List KeyedFrame → Logged (List (Scalar × Datum))
  | [] => pure []
  | entry :: rest => entry.fill.bind fun e => (Frame.fillEntries rest).map fun es => e :: es

def Frame.fillSlots : List Slot → Logged (List Property)
  | [] => pure []
  | slot :: rest => slot.fill.bind fun p => (Frame.fillSlots rest).map fun ps => p :: ps

end

theorem Frame.fillItems_eq_all (items : List Frame) :
    Frame.fillItems filler items = Logged.all (items.map (Frame.fill filler)) := by
  induction items with
  | nil => rfl
  | cons item rest ih => rw [Frame.fillItems, ih, List.map_cons, Logged.all_cons]

theorem Frame.fillEntries_eq_all (entries : List KeyedFrame) :
    Frame.fillEntries filler entries = Logged.all (entries.map (KeyedFrame.fill filler)) := by
  induction entries with
  | nil => rfl
  | cons entry rest ih => rw [Frame.fillEntries, ih, List.map_cons, Logged.all_cons]

theorem Frame.fillSlots_eq_all (slots : List Slot) :
    Frame.fillSlots filler slots = Logged.all (slots.map (Slot.fill filler)) := by
  induction slots with
  | nil => rfl
  | cons slot rest ih => rw [Frame.fillSlots, ih, List.map_cons, Logged.all_cons]

/-- Whether a scalar was captured, and which, is settled before the slots are filled. -/
theorem Frame.scalar?_fill (other : Loss → Logged Datum) (f : Frame) :
    (f.fill filler).value.scalar? = (f.fill other).value.scalar? := by
  cases f <;> simp only [Frame.fill] <;> rfl

end

section

variable {α γ δ : Type} {R : α → α → Prop} {xs ys : List α} {f : α → α → γ} {k : γ → δ}

theorem map_zipWith_pick (phase : Phase) (h : List.Forall₂ R xs ys) {g : α → δ}
    (hg : ∀ x y, R x y → k (f x y) = g (phase.pick x y)) :
    (List.zipWith f xs ys).map k = (phase.pick xs ys).map g := by
  induction h with
  | nil => cases phase <;> rfl
  | cons hxy _ ih =>
    rw [List.zipWith_cons_cons, List.map_cons, hg _ _ hxy, ih]
    cases phase <;> rfl

theorem flatMap_zipWith_pick (phase : Phase) (h : List.Forall₂ R xs ys) {k : γ → List δ} {g : α → List δ}
    (hg : ∀ x y, R x y → k (f x y) = g (phase.pick x y)) :
    (List.zipWith f xs ys).flatMap k = (phase.pick xs ys).flatMap g := by
  rw [List.flatMap_def, List.flatMap_def, map_zipWith_pick phase h hg]

end

/-- The member, or one of the same name that cannot be read. -/
inductive Member.Loses {σ : Type} (R : σ → σ → Prop) : Member σ → Member σ → Prop
  | kept {v w : σ} (name : String) : R v w → Loses R ⟨name, .ok v⟩ ⟨name, .ok w⟩
  | lost (name : String) (value : Except String σ) (error : String) :
    Loses R ⟨name, value⟩ ⟨name, .error error⟩

inductive Items.Related {α β : Type} (R : α → β → Prop) : Items α → Items β → Prop
  | finite {xs : List α} {ys : List β} : List.Forall₂ R xs ys → Related R (.finite xs) (.finite ys)
  | endless {f : Nat → α} {g : Nat → β} : (∀ n, R (f n) (g n)) → Related R (.endless f) (.endless g)

theorem Items.Related.upTo {α β : Type} {R : α → β → Prop} {xs : Items α} {ys : Items β} (h : xs.Related R ys)
    (limit : Option Nat) : List.Forall₂ R (xs.upTo limit) (ys.upTo limit) := by
  cases h with
  | finite h =>
    cases limit with
    | none => exact h
    | some n => exact List.forall₂_take n h
  | endless h =>
    cases limit with
    | none => exact .nil
    | some n =>
      rw [Items.upTo, Items.upTo, List.forall₂_map_left_iff, List.forall₂_map_right_iff]
      exact List.forall₂_same.mpr fun i _ => h i

def Entry.Related {σ : Type} (R : σ → σ → Prop) (e e' : σ × σ) : Prop :=
  R e.1 e'.1 ∧ R e.2 e'.2

inductive Shape.Loses {σ : Type} (R : σ → σ → Prop) : Shape σ → Shape σ → Prop
  | null : Loses R .null .null
  | absent : Loses R .absent .absent
  | scalar (value : Scalar) : Loses R (.scalar value) (.scalar value)
  | variant (name : String) : Loses R (.variant name) (.variant name)
  | bytes (content : List UInt8) : Loses R (.bytes content) (.bytes content)
  | callable : Loses R .callable .callable
  | formless : Loses R .formless .formless
  | mapping {entries entries' : Items (σ × σ)} (keys : SubjectType) :
    entries.Related (Entry.Related R) entries' → Loses R (.mapping keys entries) (.mapping keys entries')
  | sequence {items items' : Items σ} : items.Related R items' → Loses R (.sequence items) (.sequence items')
  | object {members members' : List (Member σ)} :
    List.Forall₂ (Member.Loses R) members members' → Loses R (.object members) (.object members')

/-- The value, but for members that are lost from it or from a part of it. It presents itself as before. -/
inductive View.Loses {σ : Type} (R : σ → σ → Prop) : View σ → View σ → Prop
  | of_shape {shape shape' : Shape σ} (wrappers : List Face) (face : Face) :
    shape.Loses R shape' → Loses R ⟨wrappers, face, shape⟩ ⟨wrappers, face, shape'⟩

theorem View.Loses.front_eq {σ : Type} {R : σ → σ → Prop} {v w : View σ} (h : v.Loses R w) : v.front = w.front := by
  cases h
  rfl

inductive Outline.Loses {σ : Type} (R : σ → σ → Prop) : Outline σ → Outline σ → Prop
  | scalar (value : Scalar) : Loses R (.scalar value) (.scalar value)
  | sequence {items items' : List σ} : List.Forall₂ R items items' → Loses R (.sequence items) (.sequence items')
  | dictionary {entries entries' : List (σ × σ)} :
    List.Forall₂ (Entry.Related R) entries entries' → Loses R (.dictionary entries) (.dictionary entries')
  | pairs {entries entries' : List (σ × σ)} :
    List.Forall₂ (Entry.Related R) entries entries' → Loses R (.pairs entries) (.pairs entries')
  | record {members members' : List (Member σ)} (tag : String) :
    List.Forall₂ (Member.Loses R) members members' → Loses R (.record tag members) (.record tag members')

namespace Settings

variable {σ : Type} {s : Settings σ} {view : σ → View σ} {R : σ → σ → Prop}

theorem loses_mappingOutline {entries entries' : Items (σ × σ)} (keys : SubjectType)
    (h : entries.Related (Entry.Related R) entries') :
    (s.mappingOutline view .destructure keys entries).Loses R
      (s.mappingOutline view .destructure keys entries') := by
  dsimp only [mappingOutline]
  split
  next => exact .dictionary (h.upTo _)
  next => exact .pairs (h.upTo _)

theorem loses_compositeOutline {v w : View σ} (h : v.Loses R w) :
    (s.compositeOutline view .destructure v).Loses R (s.compositeOutline view .destructure w) := by
  obtain ⟨wrappers, face, hshape⟩ := h
  rw [compositeOutline, compositeOutline]
  cases hshape with
  | mapping keys hentries => exact loses_mappingOutline keys hentries
  | sequence hitems => exact .sequence (hitems.upTo _)
  | object hmembers => exact .record _ hmembers
  | callable => exact .scalar _
  | null | absent | scalar | variant | bytes | formless => exact .record _ .nil

theorem loses_outline {v w : View σ} (h : v.Loses R w) :
    (s.outline view .destructure v).Loses R (s.outline view .destructure w) := by
  have hmode : Mode.destructure ≠ .stringify := by decide
  have hnothing : v.isNothing = w.isNothing ∧ v.shape.isNothing = w.shape.isNothing := by
    obtain ⟨wrappers, face, hshape⟩ := h
    cases hshape <;> exact ⟨rfl, rfl⟩
  have hscalar : v.scalar? s.scalarTypes = w.scalar? s.scalarTypes := by
    obtain ⟨wrappers, face, hshape⟩ := h
    cases hshape <;> rfl
  rw [outline, outline, hnothing.1, hnothing.2, hscalar, if_neg hmode, if_neg hmode]
  split
  next => exact .scalar _
  next =>
    split
    next => exact .scalar _
    next =>
      cases w.scalar? s.scalarTypes with
      | some value => exact .scalar _
      | none => exact loses_compositeOutline h

end Settings

namespace Outline

variable {σ : Type} (view : σ → View σ) (inner : Inner σ) (deeper : σ → σ → Frame)

def memberSlot (m m' : Member σ) : Slot :=
  match m'.value with
  | .error e => .lost ⟨m.name, (property inner .destructure m).map Prod.snd, e⟩
  | .ok w =>
    match m.value with
    | .ok v => .kept m.name (deeper v w)
    | .error _ => .kept m.name (.whole ((property inner .destructure m).map Prod.snd))

def keyReports (k : σ) : List Diagnostic :=
  if (inner k .destructure).value.scalar?.isSome then [] else [.keyNotScalar (view k).front.typeName]

def entryFrame (e e' : σ × σ) : KeyedFrame :=
  .entry (keyBy view inner .destructure e.1) (deeper e.1 e'.1) (keyReports view inner e.1) (deeper e.2 e'.2)

def pairFrame (e e' : σ × σ) : Frame :=
  .record none [.kept "key" (deeper e.1 e'.1), .kept "value" (deeper e.2 e'.2)]

/-- What two outlines that differ in lost members have in common, when `deeper` is what their parts have in
common. -/
def frame : Outline σ → Outline σ → Frame
  | sequence items, sequence items' => .sequence (List.zipWith deeper items items')
  | dictionary entries, dictionary entries' =>
    .dictionary (List.zipWith (entryFrame view inner deeper) entries entries')
  | pairs entries, pairs entries' => .sequence (List.zipWith (pairFrame deeper) entries entries')
  | record tag members, record _ members' =>
    .record (some tag) (List.zipWith (memberSlot inner deeper) members members')
  | o, _ => .whole (o.fill view inner .destructure)

variable {view inner deeper} {R : σ → σ → Prop} {o o' : Outline σ}

theorem key_eq (k : σ) : Settings.key view inner .destructure k =
    (inner k .destructure).bind fun _ => ⟨keyBy view inner .destructure k, keyReports view inner k⟩ := by
  rw [keyReports, keyBy, Settings.key]
  simp only [Logged.bind]
  cases (inner k .destructure).value <;> rfl

theorem keyBy_congr {k k' : σ} (hfront : (view k).front = (view k').front)
    (hscalar : (inner k .destructure).value.scalar? = (inner k' .destructure).value.scalar?) :
    keyBy view inner .destructure k = keyBy view inner .destructure k' ∧
      keyReports view inner k = keyReports view inner k' := by
  have hkey : ∀ k, keyBy view inner .destructure k =
      (inner k .destructure).value.scalar?.getD (.text (view k).front.text) := by
    intro k
    rw [keyBy, Settings.key, Logged.value_bind]
    cases (inner k .destructure).value <;> rfl
  rw [hkey, hkey, keyReports, keyReports, hfront, hscalar]
  exact ⟨rfl, rfl⟩

theorem fill_pairFrame {filler : Loss → Logged Datum} {e e' : σ × σ} {k v : Logged Datum}
    (hk : (deeper e.1 e'.1).fill filler = k) (hv : (deeper e.2 e'.2).fill filler = v) :
    (pairFrame deeper e e').fill filler =
      k.bind fun k => v.map fun value => .tagged none [("key", k), ("value", value)] := by
  rw [pairFrame, Frame.fill, Frame.fillSlots_eq_all]
  simp [Slot.fill, hk, hv, Logged.all, Logged.map, Logged.bind]

theorem fill_entryFrame {filler : Loss → Logged Datum} {e e' : σ × σ} {k v : Logged Datum}
    (hk : (deeper e.1 e'.1).fill filler = k) (hv : (deeper e.2 e'.2).fill filler = v) :
    (entryFrame view inner deeper e e').fill filler =
      (k.bind fun _ => ⟨keyBy view inner .destructure e.1, keyReports view inner e.1⟩).bind fun key =>
        v.map fun value => (key, value) := by
  rw [entryFrame, KeyedFrame.fill, hk, hv]

/-- If the parts are fillings of what they have in common, so are the values. -/
theorem fill_frame (h : o.Loses R o') (hfront : ∀ v w, R v w → (view v).front = (view w).front)
    (hdeeper : ∀ phase v w, R v w → (deeper v w).fill (Loss.captured phase) = inner (phase.pick v w) .destructure)
    (phase : Phase) :
    (o.frame view inner deeper o').fill (Loss.captured phase) = (phase.pick o o').fill view inner .destructure := by
  cases h with
  | scalar value => cases phase <;> rfl
  | sequence hitems =>
    have hitem : ∀ v w, R v w → (deeper v w).fill (Loss.captured phase) = inner (phase.pick v w) .destructure :=
      hdeeper phase
    rw [frame, Frame.fill, Frame.fillItems_eq_all,
      map_zipWith_pick phase (g := fun w => inner w .destructure) hitems hitem]
    cases phase <;> rfl
  | dictionary hentries =>
    have hentry : ∀ e e', Entry.Related R e e' → (entryFrame view inner deeper e e').fill (Loss.captured phase) =
        Settings.entry view inner .destructure (phase.pick e e') := by
      intro e e' he
      -- A key is a scalar with and without the members, or neither time, so the entry keeps its key.
      have hscalar : (inner e.1 .destructure).value.scalar? = (inner e'.1 .destructure).value.scalar? := by
        have hbefore := hdeeper .before _ _ he.1
        have hafter := hdeeper .after _ _ he.1
        dsimp only [Phase.pick] at hbefore hafter
        rw [← hbefore, ← hafter]
        exact Frame.scalar?_fill _ _ _
      obtain ⟨hkey, hreports⟩ := keyBy_congr (hfront _ _ he.1) hscalar
      rw [fill_entryFrame (hdeeper phase _ _ he.1) (hdeeper phase _ _ he.2)]
      cases phase with
      | before =>
        rw [Phase.pick, Phase.pick, Phase.pick, ← key_eq]
        rfl
      | after =>
        rw [Phase.pick, Phase.pick, Phase.pick, hkey, hreports, ← key_eq]
        rfl
    rw [frame, Frame.fill, Frame.fillEntries_eq_all, map_zipWith_pick phase hentries hentry]
    cases phase <;> rfl
  | pairs hentries =>
    have hpair : ∀ e e', Entry.Related R e e' →
        (pairFrame deeper e e').fill (Loss.captured phase) = pair inner .destructure (phase.pick e e') := by
      intro e e' he
      rw [fill_pairFrame (hdeeper phase _ _ he.1) (hdeeper phase _ _ he.2)]
      cases phase <;> rfl
    rw [frame, Frame.fill, Frame.fillItems_eq_all, map_zipWith_pick phase hentries hpair]
    cases phase <;> rfl
  | record tag hmembers =>
    have hmember : ∀ m m', Member.Loses R m m' →
        (memberSlot inner deeper m m').fill (Loss.captured phase) = property inner .destructure (phase.pick m m') := by
      intro m m' hm
      cases hm with
      | kept name hvw =>
        simp only [memberSlot, Slot.fill, hdeeper phase _ _ hvw]
        cases phase <;> rfl
      | lost name value error =>
        cases phase with
        | before => cases value <;> rfl
        | after => rfl
    rw [frame, Frame.fill, Frame.fillSlots_eq_all, map_zipWith_pick phase hmembers hmember]
    cases phase <;> rfl

end Outline

namespace Settings

variable {σ : Type} (s : Settings σ) (view : σ → View σ)

def frame : Nat → σ → σ → Frame
  | 0, v, _ => .whole (.reporting (.depthReached s.limits.maxDepth (view v).front.typeName) .null)
  | levels + 1, v, w =>
    (s.outline view .destructure (view v)).frame view (s.captureWithin view levels) (frame levels)
      (s.outline view .destructure (view w))

variable {s view} {R : σ → σ → Prop}

theorem fill_frame (hp : s.policies = []) (hR : ∀ v w, R v w → (view v).Loses R (view w)) (levels : Nat) {v w : σ}
    (h : R v w) (phase : Phase) :
    (s.frame view levels v w).fill (Loss.captured phase) =
      s.captureWithin view levels (phase.pick v w) .destructure := by
  have hfront : ∀ v w, R v w → (view v).front = (view w).front := fun v w h => (hR v w h).front_eq
  induction levels generalizing v w phase with
  | zero =>
    cases phase with
    | before => rfl
    | after =>
      rw [frame, hfront v w h]
      rfl
  | succ levels ih =>
    have houtline : (s.outline view .destructure (view v)).Loses R (s.outline view .destructure (view w)) :=
      loses_outline (hR v w h)
    have hfill := Outline.fill_frame houtline hfront (fun phase v w h => ih h phase) phase
    rw [captureWithin_succ hp, frame, hfill]
    cases phase <;> rfl

end Settings

end StructuredMessage
