import Mathlib.Data.List.Basic
import StructuredMessage.Proofs.Capture.Depth

namespace StructuredMessage

def Diagnostic.isDepthReached : Diagnostic → Bool
  | depthReached _ _ => true
  | _ => false

namespace Logged

variable {α β : Type}

/-- The reports of what lies too deep. -/
def cuts (x : Logged α) : List Diagnostic :=
  x.log.filter Diagnostic.isDepthReached

theorem cuts_map (f : α → β) (x : Logged α) : (x.map f).cuts = x.cuts := rfl

theorem cuts_bind (x : Logged α) (f : α → Logged β) : (x.bind f).cuts = x.cuts ++ (f x.value).cuts :=
  List.filter_append _ _

theorem cuts_all (xs : List (Logged α)) : (all xs).cuts = xs.flatMap cuts :=
  List.filter_flatMap

end Logged

/-- A captured value with gaps, each in the place of a value that is still to be captured. -/
inductive Sketch (σ : Type)
  | gap (v : σ)
  | captured (part : Logged Datum)
  | sequence (items : List (Sketch σ))
  | record (tag : Option String) (properties : List (String × Sketch σ))

namespace Sketch

variable {σ : Type} (inner : σ → Logged Datum)

mutual

/-- The captured value with every gap filled by what `inner` captures its value as. -/
def fill : Sketch σ → Logged Datum
  | gap v => inner v
  | captured part => part
  | sequence items => (fillItems items).map .sequence
  | record tag properties => (fillProperties properties).map (.tagged tag)

def fillItems : List (Sketch σ) → Logged (List Datum)
  | [] => pure []
  | item :: rest => (fill item).bind fun d => (fillItems rest).map fun ds => d :: ds

def fillProperties : List (String × Sketch σ) → Logged (List Property)
  | [] => pure []
  | (name, part) :: rest =>
    ((fill part).map fun d => (name, d)).bind fun p => (fillProperties rest).map fun ps => p :: ps

end

mutual

/-- The values that are still to be captured, from left to right. -/
def gaps : Sketch σ → List σ
  | gap v => [v]
  | captured _ => []
  | sequence items => itemsGaps items
  | record _ properties => propertiesGaps properties

def itemsGaps : List (Sketch σ) → List σ
  | [] => []
  | item :: rest => item.gaps ++ itemsGaps rest

def propertiesGaps : List (String × Sketch σ) → List σ
  | [] => []
  | (_, part) :: rest => part.gaps ++ propertiesGaps rest

end

theorem fillItems_eq_all (items : List (Sketch σ)) : fillItems inner items = Logged.all (items.map (fill inner)) := by
  induction items with
  | nil => rfl
  | cons item rest ih => rw [fillItems, ih, List.map_cons, Logged.all_cons]

theorem fillProperties_eq_all (properties : List (String × Sketch σ)) :
    fillProperties inner properties =
      Logged.all (properties.map fun p => (p.2.fill inner).map fun d => (p.1, d)) := by
  induction properties with
  | nil => rfl
  | cons p rest ih => rw [fillProperties, ih, List.map_cons, Logged.all_cons]

theorem itemsGaps_eq_flatMap (items : List (Sketch σ)) : itemsGaps items = items.flatMap gaps := by
  induction items with
  | nil => rfl
  | cons item rest ih => rw [itemsGaps, ih, List.flatMap_cons]

theorem propertiesGaps_eq_flatMap (properties : List (String × Sketch σ)) :
    propertiesGaps properties = properties.flatMap fun p => p.2.gaps := by
  induction properties with
  | nil => rfl
  | cons p rest ih => rw [propertiesGaps, ih, List.flatMap_cons]

end Sketch

namespace Outline

variable {σ : Type} {view : σ → View σ} {inner other : Inner σ} {mode : Mode} {o : Outline σ}

/-- All values that are captured on the way, keys included. -/
def asked : Outline σ → List σ
  | scalar _ | lines _ => []
  | sequence items => items
  | dictionary entries | pairs entries => entries.flatMap fun e => [e.1, e.2]
  | record _ members => members.filterMap Member.part?

theorem fill_congr (h : ∀ w ∈ o.asked, inner w mode = other w mode) :
    o.fill view inner mode = o.fill view other mode := by
  cases o with
  | scalar value => rfl
  | lines texts => rfl
  | sequence items => exact congrArg (fun parts => (Logged.all parts).map Datum.sequence) (List.map_congr_left h)
  | dictionary entries =>
    rw [fill, fill, List.map_congr_left fun e he => ?_]
    rw [Settings.entry, Settings.entry, Settings.key, Settings.key, h e.1 (mem_flatMap_entry he).1,
      h e.2 (mem_flatMap_entry he).2]
  | pairs entries =>
    rw [fill, fill, List.map_congr_left fun e he => ?_]
    rw [pair, pair, h e.1 (mem_flatMap_entry he).1, h e.2 (mem_flatMap_entry he).2]
  | record tag members =>
    rw [fill, fill, List.map_congr_left fun m hm => ?_]
    cases hvalue : m.value with
    | ok w =>
      have hw : w ∈ (record tag members).asked :=
        List.mem_filterMap.mpr ⟨m, hm, Member.part?_eq_some_iff.mpr hvalue⟩
      simp only [property, hvalue, h w hw]
    | error e => simp only [property, hvalue]

theorem cuts_key (k : σ) : (Settings.key view inner mode k).cuts = (inner k mode).cuts := by
  rw [Settings.key, Logged.cuts_bind]
  cases (inner k mode).value <;> simp [pure, Logged.reporting, Logged.cuts, Diagnostic.isDepthReached]

theorem cuts_property (m : Member σ) :
    (property inner mode m).cuts = m.part?.toList.flatMap fun w => (inner w mode).cuts := by
  rw [property, Member.part?]
  cases m.value with
  | ok w => simp [Logged.cuts_map, Except.toOption]
  | error e => rfl

/-- What lies too deep is reported by the captured parts alone. -/
theorem cuts_fill : (o.fill view inner mode).cuts = o.asked.flatMap fun w => (inner w mode).cuts := by
  cases o with
  | scalar value => rfl
  | lines texts => rfl
  | sequence items => rw [fill, Logged.cuts_map, Logged.cuts_all, List.flatMap_map, asked]
  | dictionary entries =>
    rw [fill, Logged.cuts_map, Logged.cuts_all, List.flatMap_map, asked, List.flatMap_assoc]
    simp [Settings.entry, Logged.cuts_bind, Logged.cuts_map, cuts_key]
  | pairs entries =>
    rw [fill, Logged.cuts_map, Logged.cuts_all, List.flatMap_map, asked, List.flatMap_assoc]
    simp [pair, Logged.cuts_bind, Logged.cuts_map]
  | record tag members =>
    rw [fill, Logged.cuts_map, Logged.cuts_all, List.flatMap_map, asked, List.filterMap_eq_flatMap_toList,
      List.flatMap_assoc]
    simp only [cuts_property]

def memberSketch (deeper : σ → Sketch σ) (m : Member σ) : String × Sketch σ :=
  match m.value with
  | .ok value => (m.name, deeper value)
  | .error e => (m.name, .captured (.reporting (.accessorFailed m.name e) (.text (failureText e))))

/-- The captured value with the sketches of its parts. For a dictionary there is none, since what its keys are
captured as decides which entries it has. -/
def sketch (deeper : σ → Sketch σ) : Outline σ → Sketch σ
  | scalar value => .captured (pure (.scalar value))
  | lines texts => .captured (pure (.sequence (texts.map .text)))
  | sequence items => .sequence (items.map deeper)
  | pairs entries => .sequence (entries.map fun e => .record none [("key", deeper e.1), ("value", deeper e.2)])
  | record tag members => .record (some tag) (members.map (memberSketch deeper))
  | dictionary _ => .captured (pure .null)

variable {deeper : σ → Sketch σ}

theorem fill_sketch {filler : σ → Logged Datum} (ho : ∀ entries, o ≠ .dictionary entries)
    (h : ∀ w ∈ o.asked, (deeper w).fill filler = inner w mode) :
    (o.sketch deeper).fill filler = o.fill view inner mode := by
  cases o with
  | scalar value => rfl
  | lines texts => rfl
  | sequence items =>
    rw [sketch, Sketch.fill, Sketch.fillItems_eq_all, List.map_map, fill]
    exact congrArg (fun parts => (Logged.all parts).map Datum.sequence) (List.map_congr_left h)
  | dictionary entries => exact absurd rfl (ho entries)
  | pairs entries =>
    rw [sketch, Sketch.fill, Sketch.fillItems_eq_all, List.map_map, fill, List.map_congr_left fun e he => ?_]
    rw [Function.comp_apply, Sketch.fill, Sketch.fillProperties_eq_all]
    simp [Logged.all, Logged.map, pair, Logged.bind, h e.1 (mem_flatMap_entry he).1,
      h e.2 (mem_flatMap_entry he).2]
  | record tag members =>
    rw [sketch, Sketch.fill, Sketch.fillProperties_eq_all, List.map_map, fill,
      List.map_congr_left fun m hm => ?_]
    cases hvalue : m.value with
    | ok w =>
      have hw : w ∈ (record tag members).asked :=
        List.mem_filterMap.mpr ⟨m, hm, Member.part?_eq_some_iff.mpr hvalue⟩
      simp only [Function.comp_apply, memberSketch, property, hvalue, h w hw]
    | error e =>
      simp only [Function.comp_apply, memberSketch, property, hvalue]
      rfl

theorem gaps_sketch (ho : ∀ entries, o ≠ .dictionary entries) :
    (o.sketch deeper).gaps = o.asked.flatMap fun w => (deeper w).gaps := by
  cases o with
  | scalar value => rfl
  | lines texts => rfl
  | sequence items => rw [sketch, Sketch.gaps, Sketch.itemsGaps_eq_flatMap, List.flatMap_map, asked]
  | dictionary entries => exact absurd rfl (ho entries)
  | pairs entries =>
    rw [sketch, Sketch.gaps, Sketch.itemsGaps_eq_flatMap, List.flatMap_map, asked, List.flatMap_assoc]
    simp [Sketch.gaps, Sketch.propertiesGaps]
  | record tag members =>
    rw [sketch, Sketch.gaps, Sketch.propertiesGaps_eq_flatMap, List.flatMap_map, asked,
      List.filterMap_eq_flatMap_toList, List.flatMap_assoc]
    refine congrArg (List.flatMap · members) (funext fun m => ?_)
    rw [memberSketch, Member.part?]
    cases m.value with
    | ok w => simp [Except.toOption]
    | error e => rfl

end Outline

namespace Settings

variable {σ : Type} (s : Settings σ) (view : σ → View σ)

/-- A mapping whose keys promise to become scalars. -/
def Keyed (v : View σ) : Prop :=
  ∃ keys entries, v.shape = .mapping keys entries ∧ (keys.isScalarKey ∨ keys ∈ s.scalarTypes)

/-- The captured value as far as the given number of levels goes. -/
def sketch (mode : Mode) : Nat → σ → Sketch σ
  | 0, v => .gap v
  | levels + 1, v => (s.outline view mode (view v)).sketch (sketch mode levels)

variable {s view} {mode : Mode}

theorem sketch_withDepth (depth levels : Nat) (v : σ) :
    (s.withDepth depth).sketch view mode levels v = s.sketch view mode levels v := by
  induction levels generalizing v with
  | zero => rfl
  | succ levels ih =>
    rw [sketch, sketch, funext ih]
    rfl

theorem outline_ne_dictionary {v : View σ} (hv : ¬s.Keyed v) (entries : List (σ × σ)) :
    s.outline view mode v ≠ .dictionary entries := by
  refine outline_cases (P := fun o => o ≠ .dictionary entries) mode v (by simp) (by simp [textOutline]) (by simp)
    (by simp) (by simp) ?_ (by simp) (by simp)
  intro keys items hshape hkeys
  exact absurd ⟨keys, items, hshape, hkeys⟩ hv

theorem asked_outline {v : σ} (hv : ¬s.Keyed (view v)) :
    (s.outline view mode (view v)).asked = s.parts view mode v := by
  rw [parts]
  cases ho : s.outline view mode (view v) with
  | dictionary entries => exact absurd ho (outline_ne_dictionary hv entries)
  | _ => rfl

theorem captureWithin_eq_fill_sketch (hp : s.policies = []) (more : Nat) {levels : Nat} {root : σ}
    (h : ∀ n v, n < levels → Reached (s.parts view mode) n root v → ¬s.Keyed (view v)) :
    s.captureWithin view (levels + more) root mode =
      (s.sketch view mode levels root).fill fun w => s.captureWithin view more w mode := by
  induction levels generalizing root with
  | zero => rw [Nat.zero_add, sketch, Sketch.fill]
  | succ levels ih =>
    have hroot : ¬s.Keyed (view root) := h 0 root (Nat.succ_pos levels) (.self root)
    rw [Nat.succ_add, captureWithin_succ hp, sketch,
      Outline.fill_sketch (outline_ne_dictionary hroot) fun w hw => ?_]
    rw [asked_outline hroot] at hw
    exact (ih fun n v hn hv => h (n + 1) v (Nat.succ_lt_succ hn) (.part hw hv)).symm

theorem cuts_captureWithin (hp : s.policies = []) {levels : Nat} {root : σ}
    (h : ∀ n v, n < levels → Reached (s.parts view mode) n root v → ¬s.Keyed (view v)) :
    (s.captureWithin view levels root mode).cuts =
      (s.sketch view mode levels root).gaps.map fun w =>
        .depthReached s.limits.maxDepth (view w).front.typeName := by
  induction levels generalizing root with
  | zero => rfl
  | succ levels ih =>
    have hroot : ¬s.Keyed (view root) := h 0 root (Nat.succ_pos levels) (.self root)
    rw [captureWithin_succ hp, Outline.cuts_fill, sketch, Outline.gaps_sketch (outline_ne_dictionary hroot),
      List.map_flatMap]
    refine List.flatMap_congr fun w hw => ?_
    rw [asked_outline hroot] at hw
    exact ih fun n v hn hv => h (n + 1) v (Nat.succ_lt_succ hn) (.part hw hv)

/-- If nothing lies too deep, more levels and another limit change nothing. -/
theorem captureWithin_withDepth (hp : s.policies = []) (depth more : Nat) {levels : Nat} {root : σ}
    (h : (s.captureWithin view levels root mode).cuts = []) :
    (s.withDepth depth).captureWithin view (levels + more) root mode =
      s.captureWithin view levels root mode := by
  induction levels generalizing root with
  | zero => exact absurd h (List.cons_ne_nil _ _)
  | succ levels ih =>
    rw [captureWithin_succ hp, Outline.cuts_fill] at h
    rw [Nat.succ_add, captureWithin_succ (s := s.withDepth depth) hp, captureWithin_succ hp]
    exact Outline.fill_congr fun w hw => ih (List.flatMap_eq_nil_iff.mp h w hw)

/-- More levels only fill in what was cut. If no mapping that becomes a dictionary is reached, the two captured
values are one sketch, its gaps filled by reported nulls in the one and by what is captured with the levels
that are left in the other. If nothing was cut they are the same, whatever is reached. -/
theorem capture_withDepth (s : Settings σ) (hp : s.policies = []) (view : σ → View σ) (root : σ) (mode : Mode)
    {depth deeper : Nat} (hdepth : depth ≤ deeper) :
    let shallow := (s.withDepth depth).capture view root mode
    let deep := (s.withDepth deeper).capture view root mode
    ((∀ n v, n < depth → Reached (s.parts view mode) n root v → ¬s.Keyed (view v)) →
      ∃ t : Sketch σ,
        shallow = t.fill (fun w => .reporting (.depthReached depth (view w).front.typeName) .null) ∧
        deep = t.fill (fun w => (s.withDepth deeper).captureWithin view (deeper - depth) w mode) ∧
        shallow.cuts = t.gaps.map fun w => .depthReached depth (view w).front.typeName) ∧
    (shallow.cuts = [] → deep = shallow) := by
  obtain ⟨more, rfl⟩ := Nat.exists_eq_add_of_le hdepth
  rw [Nat.add_sub_cancel_left]
  refine ⟨fun h => ⟨s.sketch view mode depth root, ?_, ?_, ?_⟩, ?_⟩
  · rw [← sketch_withDepth depth]
    exact captureWithin_eq_fill_sketch (s := s.withDepth depth) hp 0 h
  · rw [← sketch_withDepth (depth + more)]
    exact captureWithin_eq_fill_sketch (s := s.withDepth (depth + more)) hp more h
  · rw [← sketch_withDepth depth]
    exact cuts_captureWithin (s := s.withDepth depth) hp h
  · exact captureWithin_withDepth (s := s.withDepth depth) hp (depth + more) more

/-- Stairs without an end, every step of which has a light that is out. -/
def stairs (step : Nat) : View Nat :=
  ⟨[], ⟨"Step", "Step", .named "Step" false⟩, .object [⟨"up", .ok (step + 1)⟩, ⟨"light", .error "out"⟩]⟩

def stairsAbove (up : Datum) : Datum :=
  .record (some "Step") [("up", up), ("light", .text "The property accessor failed: out")]

/-- A mapping of one letter to itself, and the letter. -/
def register : Bool → View Bool
  | true => ⟨[], ⟨"Register", "Register", .named "Register" false⟩,
    .mapping (.named "char" true) (.finite [(false, false)])⟩
  | false => ⟨[], ⟨"char", "a", .named "char" true⟩, .scalar (.char 'a')⟩

theorem capture_stairs_and_register :
    (({} : Settings Nat).policies = [] ∧ ({} : Settings Bool).policies = [] ∧ 1 ≤ 2 ∧ 2 ≤ 9) ∧
    (∀ n v, n < 1 → Reached (({} : Settings Nat).parts stairs .destructure) n 0 v →
      ¬({} : Settings Nat).Keyed (stairs v)) ∧
    (((withDepth {} 1).capture stairs 0 .destructure).value = stairsAbove .null ∧
      ((withDepth {} 2).capture stairs 0 .destructure).value = stairsAbove (stairsAbove .null)) ∧
    (∃ t : Sketch Nat,
      (withDepth {} 1).capture stairs 0 .destructure =
        t.fill (fun w => .reporting (.depthReached 1 (stairs w).front.typeName) .null) ∧
      (withDepth {} 2).capture stairs 0 .destructure =
        t.fill (fun w => (withDepth {} 2).captureWithin stairs 1 w .destructure) ∧
      ((withDepth {} 1).capture stairs 0 .destructure).cuts =
        t.gaps.map fun w => .depthReached 1 (stairs w).front.typeName) ∧
    ((withDepth {} 2).capture register true .plain).value =
      .dictionary [(.char 'a', .scalar (.char 'a'))] ∧
    ((withDepth {} 2).capture register true .plain).cuts = [] ∧
    (withDepth {} 9).capture register true .plain = (withDepth {} 2).capture register true .plain := by
  have hkeyed : ∀ v, ¬({} : Settings Nat).Keyed (stairs v) := by
    rintro v ⟨keys, entries, hshape, -⟩
    simp [stairs] at hshape
  refine ⟨⟨rfl, rfl, by decide, by decide⟩, fun n v _ _ => hkeyed v, ⟨rfl, rfl⟩, ?_, rfl, rfl, ?_⟩
  · exact (capture_withDepth {} rfl stairs 0 .destructure (by decide)).1 fun n v _ _ => hkeyed v
  · exact (capture_withDepth {} rfl register true .plain (by decide)).2 rfl

end Settings

end StructuredMessage
