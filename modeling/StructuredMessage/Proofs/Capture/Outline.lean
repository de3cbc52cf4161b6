import StructuredMessage.Capture.Convert
import StructuredMessage.Proofs.Datum.Entries
import StructuredMessage.Proofs.Datum.Parts

namespace StructuredMessage

namespace Member

variable {σ : Type}

def part? (m : Member σ) : Option σ :=
  m.value.toOption

def failure? (m : Member σ) : Option String :=
  match m.value with
  | .ok _ => none
  | .error e => some e

theorem part?_eq_some_iff {m : Member σ} {w : σ} : m.part? = some w ↔ m.value = .ok w := by
  rw [part?]
  cases m.value <;> simp [Except.toOption]

end Member

/-- Whether all items can be listed. -/
def Items.IsFinite {α : Type} : Items α → Prop
  | finite _ => True
  | endless _ => False

/-- Whether the value lists finitely many items. -/
def View.IsFinite {σ : Type} (v : View σ) : Prop :=
  match v.shape with
  | .mapping _ entries => entries.IsFinite
  | .sequence items => items.IsFinite
  | _ => True

/-- What a value is captured as when its parts are still to be captured. -/
inductive Outline (σ : Type)
  | scalar (value : Scalar)
  /-- The entries of a mapping, each as a text. -/
  | lines (texts : List String)
  | sequence (items : List σ)
  | dictionary (entries : List (σ × σ))
  /-- The entries of a mapping, each as a record of its key and its value. -/
  | pairs (entries : List (σ × σ))
  | record (tag : String) (members : List (Member σ))

namespace Outline

variable {σ : Type} (view : σ → View σ) (inner : Inner σ) (mode : Mode)

def pair (e : σ × σ) : Logged Datum :=
  (inner e.1 mode).bind fun k =>
    (inner e.2 mode).map fun value => .tagged none [("key", k), ("value", value)]

/-- What stands in the place of a member that cannot be read. -/
def failureText (message : String) : String :=
  "The property accessor failed: " ++ message

def property (m : Member σ) : Logged Property :=
  match m.value with
  | .ok value => (inner value mode).map fun d => (m.name, d)
  | .error e => .reporting (.accessorFailed m.name e) (m.name, .text (failureText e))

/-- The captured value, the parts captured by `inner`. -/
def fill : Outline σ → Logged Datum
  | scalar value => pure (.scalar value)
  | lines texts => pure (.sequence (texts.map .text))
  | sequence items => (Logged.all (items.map fun item => inner item mode)).map .sequence
  | dictionary entries =>
    (Logged.all (entries.map (Settings.entry view inner mode))).map fun es =>
      .dictionary (Entries.ofList es)
  | pairs entries => (Logged.all (entries.map (pair inner mode))).map .sequence
  | record tag members => (Logged.all (members.map (property inner mode))).map (.tagged (some tag))

/-- The parts that what is captured of them stays. Of the entries of a dictionary with the same key the
value of the last one stays. -/
def parts (keyOf : σ → Scalar) : Outline σ → List σ
  | scalar _ | lines _ => []
  | sequence items => items
  | dictionary entries => (Entries.lasting (fun e => keyOf e.1) entries).map Prod.snd
  | pairs entries => entries.flatMap fun e => [e.1, e.2]
  | record _ members => members.filterMap Member.part?

def ownTexts (keyOf : σ → Scalar) : Outline σ → List String
  | scalar value => value.text?.toList
  | lines texts => texts
  | dictionary entries => entries.filterMap fun e => (keyOf e.1).text?
  | record _ members => members.filterMap fun m => m.failure?.map failureText
  | _ => []

theorem mem_flatMap_entry {entries : List (σ × σ)} {e : σ × σ} (he : e ∈ entries) :
    e.1 ∈ entries.flatMap (fun e => [e.1, e.2]) ∧ e.2 ∈ entries.flatMap fun e => [e.1, e.2] :=
  ⟨List.mem_flatMap.mpr ⟨e, he, by simp⟩, List.mem_flatMap.mpr ⟨e, he, by simp⟩⟩

abbrev keyBy (k : σ) : Scalar :=
  (Settings.key view inner mode k).value

variable {view inner mode}

theorem value_fill_sequence (items : List σ) :
    ((sequence items).fill view inner mode).value = .sequence (items.map fun w => (inner w mode).value) := by
  simp [fill, Function.comp_def]

theorem value_fill_dictionary (entries : List (σ × σ)) :
    ((dictionary entries).fill view inner mode).value =
      .dictionary (Entries.ofList
        (entries.map fun e => (keyBy view inner mode e.1, (inner e.2 mode).value))) := by
  rw [fill, Logged.value_map, Logged.value_all, List.map_map]
  rfl

theorem value_fill_pairs (entries : List (σ × σ)) :
    ((pairs entries).fill view inner mode).value =
      .sequence (entries.map fun e => (pair inner mode e).value) := by
  simp [fill, Function.comp_def]

theorem value_fill_record (tag : String) (members : List (Member σ)) :
    ((record tag members).fill view inner mode).value =
      .tagged (some tag) (members.map fun m => (property inner mode m).value) := by
  simp [fill, Function.comp_def]

/-- The captured values of the entries of a dictionary are those of the parts that stay. -/
theorem mem_values_dictionary {entries : List (σ × σ)} {c : Datum} :
    c ∈ (Entries.ofList
        (entries.map fun e => (keyBy view inner mode e.1, (inner e.2 mode).value))).map Prod.snd ↔
      ∃ w ∈ (dictionary entries).parts (keyBy view inner mode), (inner w mode).value = c := by
  rw [Entries.mem_values_ofList, Entries.lasting_map, List.map_map, parts]
  simp only [List.mem_map, Function.comp_apply, exists_exists_and_eq_and]

/-- A key of a dictionary is a text iff one of its source keys is captured as that text. -/
theorem text_mem_keys_iff {entries : List (Scalar × Datum)} {t : String} :
    .text t ∈ (Entries.ofList entries).map Prod.fst ↔ .text t ∈ entries.map Prod.fst := by
  constructor
  · exact Entries.mem_keys_of_ofList
  · intro h
    obtain ⟨e, he, hkey⟩ := List.mem_map.mp h
    obtain ⟨k, hk, halike⟩ := Entries.exists_alike_key he
    rw [hkey] at halike
    rwa [← halike.symm.eq_of_text]

theorem mem_texts_property {m : Member σ} {t : String} :
    t ∈ (property inner mode m).value.2.texts ↔
      (∃ e, m.failure? = some e ∧ failureText e = t) ∨
        ∃ w, m.part? = some w ∧ t ∈ (inner w mode).value.texts := by
  rw [property, Member.failure?, Member.part?]
  cases m.value with
  | ok w => simp [Except.toOption]
  | error e => simpa [Except.toOption, Datum.text, Datum.texts, Scalar.text?] using eq_comm

theorem mem_texts_pair {e : σ × σ} {t : String} :
    t ∈ (pair inner mode e).value.texts ↔
      t ∈ (inner e.1 mode).value.texts ∨ t ∈ (inner e.2 mode).value.texts := by
  simp [pair, Datum.tagged, Datum.texts, Datum.mem_propertiesTexts_iff]

/-- The texts of a captured value are its own and those of the parts that stay. -/
theorem mem_texts_fill_iff {o : Outline σ} {t : String} :
    t ∈ (o.fill view inner mode).value.texts ↔
      t ∈ o.ownTexts (keyBy view inner mode) ∨
        ∃ w ∈ o.parts (keyBy view inner mode), t ∈ (inner w mode).value.texts := by
  cases o with
  | scalar value => simp [fill, pure, Datum.texts, ownTexts, parts]
  | lines texts =>
    simp [fill, pure, Datum.texts, Datum.mem_itemsTexts_iff, Datum.text, Scalar.text?, ownTexts, parts]
  | sequence items =>
    rw [value_fill_sequence, Datum.texts, Datum.mem_itemsTexts_iff]
    simp [ownTexts, parts]
  | dictionary entries =>
    rw [value_fill_dictionary, Datum.texts, Datum.mem_entriesTexts_iff, text_mem_keys_iff]
    simp [mem_values_dictionary, ownTexts, Scalar.text?_eq_some_iff]
  | pairs entries =>
    rw [value_fill_pairs, Datum.texts, Datum.mem_itemsTexts_iff]
    simp only [List.mem_map, exists_exists_and_eq_and, mem_texts_pair, ownTexts, parts, List.not_mem_nil, false_or,
      List.mem_flatMap, List.mem_cons, or_false]
    constructor
    · rintro ⟨e, he, ht | ht⟩
      · exact ⟨e.1, ⟨e, he, .inl rfl⟩, ht⟩
      · exact ⟨e.2, ⟨e, he, .inr rfl⟩, ht⟩
    · rintro ⟨w, ⟨e, he, rfl | rfl⟩, ht⟩
      · exact ⟨e, he, .inl ht⟩
      · exact ⟨e, he, .inr ht⟩
  | record tag members =>
    rw [value_fill_record, Datum.tagged, Datum.texts, Datum.mem_propertiesTexts_iff]
    simp only [List.mem_map, exists_exists_and_eq_and, mem_texts_property, ownTexts, parts, List.mem_filterMap,
      Option.map_eq_some_iff]
    constructor
    · rintro ⟨m, hm, he | ⟨w, hw, ht⟩⟩
      · exact .inl ⟨m, hm, he⟩
      · exact .inr ⟨w, ⟨m, hm, hw⟩, ht⟩
    · rintro (⟨m, hm, he⟩ | ⟨w, ⟨m, hm, hw⟩, ht⟩)
      · exact ⟨m, hm, .inl he⟩
      · exact ⟨m, hm, .inr ⟨w, hw, ht⟩⟩

end Outline

namespace Settings

variable {σ : Type} (s : Settings σ) (view : σ → View σ)

def textOutline (text : String) : Outline σ :=
  .scalar (.text (s.limits.cut text))

/-- The text of an entry whose key is no scalar. -/
def entryText (e : σ × σ) : String :=
  "[" ++ (view e.1).front.text ++ ", " ++ (view e.2).front.text ++ "]"

def mappingOutline (mode : Mode) (keys : SubjectType) (entries : Items (σ × σ)) : Outline σ :=
  let kept := entries.upTo s.limits.maxItems
  if keys.isScalarKey ∨ keys ∈ s.scalarTypes then .dictionary kept
  else if mode = .destructure then .pairs kept
  else .lines (kept.map fun e => s.limits.cut (entryText view e))

def compositeOutline (mode : Mode) (v : View σ) : Outline σ :=
  match v.shape with
  | .mapping keys entries => s.mappingOutline view mode keys entries
  | .sequence items => .sequence (items.upTo s.limits.maxItems)
  | .callable => s.textOutline v.face.text
  | .object members =>
    if mode = .destructure then .record v.face.typeName members else s.textOutline v.face.text
  | _ => if mode = .destructure then .record v.face.typeName [] else s.textOutline v.face.text

def outline (mode : Mode) (v : View σ) : Outline σ :=
  if v.isNothing then .scalar .null
  else if mode = .stringify then s.textOutline v.front.text
  else if v.shape.isNothing then .scalar .null
  else
    match v.scalar? s.scalarTypes with
    | some value => .scalar (s.limits.cutScalar value)
    | none => s.compositeOutline view mode v

variable {s view}

/-- What the outline of a value can be. -/
theorem outline_cases {P : Outline σ → Prop} (mode : Mode) (v : View σ) (null : P (.scalar .null))
    (text : ∀ t, P (s.textOutline t))
    (scalar : ∀ value, v.scalar? s.scalarTypes = some value → P (.scalar (s.limits.cutScalar value)))
    (lines : ∀ keys entries, v.shape = .mapping keys entries → mode ≠ .destructure →
      P (.lines ((entries.upTo s.limits.maxItems).map fun e => s.limits.cut (entryText view e))))
    (sequence : ∀ items, v.shape = .sequence items → P (.sequence (items.upTo s.limits.maxItems)))
    (dictionary : ∀ keys entries, v.shape = .mapping keys entries →
      (keys.isScalarKey ∨ keys ∈ s.scalarTypes) → P (.dictionary (entries.upTo s.limits.maxItems)))
    (pairs : ∀ keys entries, v.shape = .mapping keys entries → ¬(keys.isScalarKey ∨ keys ∈ s.scalarTypes) →
      mode = .destructure → v.face.type ∉ s.scalarTypes → P (.pairs (entries.upTo s.limits.maxItems)))
    (record : ∀ members, (v.shape = .object members ∨ members = []) → mode = .destructure →
      P (.record v.face.typeName members)) :
    P (s.outline view mode v) := by
  unfold outline
  split
  next => exact null
  next =>
    split
    next => exact text _
    next =>
      split
      next => exact null
      next =>
        cases hscalar : v.scalar? s.scalarTypes with
        | some value => exact scalar value hscalar
        | none =>
          dsimp only
          rw [compositeOutline]
          cases hshape : v.shape with
          | mapping keys entries =>
            dsimp only
            rw [mappingOutline]
            split
            next hkeys => exact dictionary keys entries hshape hkeys
            next hkeys =>
              split
              next hmode =>
                refine pairs keys entries hshape hkeys hmode fun hv => ?_
                simp [View.scalar?, hshape, hv] at hscalar
              next hmode => exact lines keys entries hshape hmode
          | sequence items => exact sequence items hshape
          | callable => exact text _
          | object members =>
            dsimp only
            split
            next hmode => exact record members (.inl hshape) hmode
            next => exact text _
          | _ =>
            dsimp only
            split
            next hmode => exact record [] (.inr rfl) hmode
            next => exact text _

theorem outline_of_mapping {mode : Mode} {v : View σ} {keys : SubjectType} {entries : Items (σ × σ)}
    (hmode : mode ≠ .stringify) (hv : v.face.type ∉ s.scalarTypes) (hshape : v.shape = .mapping keys entries) :
    s.outline view mode v = s.mappingOutline view mode keys entries := by
  have hscalar : v.scalar? s.scalarTypes = none := by
    simp [View.scalar?, hshape, hv]
  simp [outline, View.isNothing, hshape, Shape.isNothing, hmode, hscalar, compositeOutline]

theorem mapping_eq_fill (inner : Inner σ) (mode : Mode) (keys : SubjectType) (entries : Items (σ × σ)) :
    s.mapping view inner mode keys entries =
      (s.mappingOutline view mode keys entries).fill view inner mode := by
  unfold mapping mappingOutline
  split
  next => rfl
  next =>
    by_cases hmode : mode = .destructure
    · have hpair : s.pair view inner mode = Outline.pair inner mode := by
        funext e
        rw [pair, if_pos hmode]
        rfl
      rw [if_pos hmode, hpair]
      rfl
    · have hpair : s.pair view inner mode = fun e => pure (s.cutText (entryText view e)) := by
        funext e
        rw [pair, if_neg hmode]
        rfl
      rw [if_neg hmode, hpair, Outline.fill, List.map_map]
      simp [Logged.all, Logged.map, List.map_map, List.flatMap_map, Function.comp_def, pure, cutText]

theorem composite_eq_fill (inner : Inner σ) (mode : Mode) (v : View σ) :
    s.composite view inner mode v = (s.compositeOutline view mode v).fill view inner mode := by
  unfold composite compositeOutline
  cases v.shape with
  | mapping keys entries => exact mapping_eq_fill inner mode keys entries
  | sequence items => rfl
  | callable => rfl
  | object members =>
    dsimp only
    split
    next hmode => subst hmode; rfl
    next => rfl
  | _ => dsimp only; split <;> rfl

/-- Without policies one level of capturing fills the outline of the value. -/
theorem level_eq_fill (factory : Factory σ) {mode : Mode} (hp : mode = .destructure → s.policies = [])
    (v : View σ) :
    s.level view factory mode v =
      (s.outline view mode v).fill view (fun part => factory (view part)) mode := by
  unfold level outline
  split
  next => rfl
  next =>
    split
    next => rfl
    next =>
      split
      next => rfl
      next =>
        cases v.scalar? s.scalarTypes with
        | some value => rfl
        | none =>
          have hclaimed : (if mode = .destructure then v.inside.firstAnswer factory s.policies
              else pure none) = pure none := by
            split
            next hmode => rw [hp hmode]; rfl
            next => rfl
          dsimp only
          rw [hclaimed]
          exact composite_eq_fill _ mode v.inside

theorem captureWithin_succ (hp : s.policies = []) (levels : Nat) (v : σ) (mode : Mode) :
    s.captureWithin view (levels + 1) v mode =
      (s.outline view mode (view v)).fill view (s.captureWithin view levels) mode :=
  level_eq_fill _ (fun _ => hp) (view v)

theorem captureWithin_zero (v : σ) (mode : Mode) : (s.captureWithin view 0 v mode).value = .null := rfl

variable (s view)

/-- The scalar that a key is captured as where a level is left for it. -/
def keyScalar (mode : Mode) (k : σ) : Scalar :=
  match s.outline view mode (view k) with
  | .scalar value => value
  | _ => .text (view k).front.text

/-- The scalar that a key is captured as with the given number of levels left. -/
def keyWithin (levels : Nat) (mode : Mode) (k : σ) : Scalar :=
  if levels = 0 then .null else s.keyScalar view mode k

/-- The parts of a value that are captured one level deeper and stay. -/
def parts (mode : Mode) (v : σ) : List σ :=
  (s.outline view mode (view v)).parts (s.keyScalar view mode)

variable {s view}

theorem keyBy_captureWithin (hp : s.policies = []) (levels : Nat) (mode : Mode) :
    Outline.keyBy view (s.captureWithin view levels) mode = s.keyWithin view levels mode := by
  funext k
  cases levels with
  | zero => rfl
  | succ levels =>
    rw [keyWithin, if_neg (Nat.succ_ne_zero levels), keyScalar, Outline.keyBy, key, Logged.value_bind,
      captureWithin_succ hp]
    cases s.outline view mode (view k) <;> rfl

end Settings

/-- What is reached from a value by going from values to their parts, a number of times. -/
inductive Reached {σ : Type} (parts : σ → List σ) : Nat → σ → σ → Prop
  | self (v : σ) : Reached parts 0 v v
  | part {n : Nat} {v w u : σ} : w ∈ parts v → Reached parts n w u → Reached parts (n + 1) v u

end StructuredMessage
