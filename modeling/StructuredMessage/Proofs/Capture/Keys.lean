import StructuredMessage.Capture.Builtin
import StructuredMessage.Proofs.Capture.Outline

namespace StructuredMessage

/-- A value without parts that needs no declaration to be captured as a scalar. -/
def Shape.IsSimple {σ : Type} : Shape σ → Prop
  | scalar _ | variant _ => True
  | _ => False

namespace Subject

variable {κ : Type}

/-- The values of the types that can be captured as they are. Of a type made for the purpose it is known that it
is an enumeration or has members, and of what is behind a dynamic pointer nothing. -/
inductive Inhabits : Subject κ → SubjectType → Prop
  | bool (value : Bool) : Inhabits (ofScalar (.bool value)) (.named "bool" true)
  | char (value : Char) : Inhabits (ofScalar (.char value)) (.named "char" true)
  | integer (n : Integer) : Inhabits (ofScalar (.integer n)) (.named n.type.name true)
  | signedSize (n : Integer) : n.type = .i64 →
    Inhabits (ofScalarNamed "isize" (.integer n)) (.named "isize" true)
  | size (n : Integer) : n.type = .u64 → Inhabits (ofScalarNamed "usize" (.integer n)) (.named "usize" true)
  | single (x : Binary .single) : Inhabits (ofScalar (.single x)) (.named "f32" true)
  | double (x : Binary .double) : Inhabits (ofScalar (.double x)) (.named "f64" true)
  | decimal (x : Decimal) : Inhabits (ofScalar (.decimal x)) (.named "Decimal" true)
  | moment (m : Moment) : Inhabits (ofScalar (.moment m)) (.named "NaiveDateTime" true)
  | zoned (z : Zoned) : Inhabits (ofScalar (.zoned z)) (.named "DateTime" true)
  | date (d : Date) : Inhabits (ofScalar (.date d)) (.named "NaiveDate" true)
  | time (t : TimeOfDay) : Inhabits (ofScalar (.time t)) (.named "NaiveTime" true)
  | span (s : Span) : Inhabits (ofScalar (.span s)) (.named "TimeDelta" true)
  | duration (seconds nanos : Nat) : Inhabits (ofDuration seconds nanos) (.named "Duration" true)
  | uuid (u : Uuid) : Inhabits (ofScalar (.uuid u)) (.named "Uuid" true)
  | uri (value : String) : Inhabits (ofScalar (.uri value)) (.named "Url" true)
  | text (value : String) : Inhabits (ofScalar (.text value)) (.named "String" true)
  | sharedText (value : String) : Inhabits (ofScalarNamed "Cow" (.text value)) (.named "Cow" true)
  | bareText (value : String) : Inhabits (scalar ⟨"str", value, .bareText⟩ (.text value)) .bareText
  | variant (type name : String) : Inhabits (ofVariant type name) (.named type true)
  | pointer {target : Subject κ} {t : SubjectType} :
    Inhabits target t → Inhabits (pointer target) (.pointer t)
  | dynamic (v : Subject κ) : Inhabits v .dynamic
  | unit : Inhabits unit .unit
  | absent (t : SubjectType) : Inhabits (absent (.option t)) (.option t)
  | present {inner : Subject κ} {t : SubjectType} :
    Inhabits inner t → Inhabits (present (.option t) inner) (.option t)
  | items (kind : String) {t : SubjectType} {items : List (Subject κ)} :
    (∀ item ∈ items, Inhabits item t) → Inhabits (ofItems kind t items) (.collection kind t)
  | bytes (kind : String) (content : List UInt8) :
    Inhabits (ofBytes kind content) (.collection kind (.named "u8" true))
  | entries (kind : String) {keys values : SubjectType} {entries : List (Subject κ × Subject κ)} :
    (∀ e ∈ entries, Inhabits e.1 keys) → (∀ e ∈ entries, Inhabits e.2 values) →
      Inhabits (ofEntries kind keys entries) (.collection kind keys)
  | pair {v w : Subject κ} {t u : SubjectType} :
    Inhabits v t → Inhabits w u → Inhabits (tuple "(_)" (.pair t u) [v, w]) (.pair t u)
  | tuple (parts : List (Subject κ)) : Inhabits (tuple "(_)" (.named "Tuple" false) parts) (.named "Tuple" false)
  | members (type : String) (members : List (String × Subject κ)) : .named type false ≠ SubjectType.bareText →
    Inhabits (ofMembers type members) (.named type false)
  | function (type : String) : .named type false ≠ SubjectType.bareText →
    Inhabits (ofFunction type) (.named type false)
  | document (j : Json) : Inhabits (json j) jsonType

variable {foreignView : κ → View (Subject κ)} {k : Subject κ} {t : SubjectType}

theorem Inhabits.isSimple_of_bareText (h : k.Inhabits .bareText) : (view foreignView k).shape.IsSimple := by
  generalize hbare : SubjectType.bareText = t at h
  cases h with
  | bareText value => trivial
  | members type members hother | function type hother => exact absurd hbare.symm hother
  | _ => simp [SubjectType.bareText, SubjectType.dynamic, SubjectType.unit, SubjectType.option,
      SubjectType.collection, SubjectType.pair, jsonType] at hbare

/-- If a type promises scalars, all its values keep the promise. -/
theorem Inhabits.isSimple (h : k.Inhabits t) (ht : t.isScalarKey) : (view foreignView k).shape.IsSimple := by
  cases h with
  | pointer htarget =>
    have htext := eq_of_beq ht
    subst htext
    exact htarget.isSimple_of_bareText
  | bool | char | integer | signedSize | size | single | double | decimal | moment | zoned | date | time | span
  | duration | uuid | uri | text | sharedText | variant => trivial
  | bareText | dynamic | unit | absent | present | items | bytes | entries | pair | tuple | members | function
  | document => cases ht

end Subject

namespace Settings

variable {σ : Type} {s : Settings σ} {view : σ → View σ} {mode : Mode}

theorem level_of_isSimple (factory : Factory σ) (mode : Mode) {v : View σ} (h : v.shape.IsSimple) :
    ∃ value, s.level view factory mode v = pure (.scalar value) := by
  have hsome : v.shape.isNothing = false := by
    revert h
    cases v.shape <;> simp [Shape.IsSimple, Shape.isNothing]
  have hscalar : ∃ value, v.scalar? s.scalarTypes = some value := by
    unfold View.scalar?
    cases hshape : v.shape with
    | scalar value => exact ⟨_, rfl⟩
    | variant name => by_cases hv : v.face.type ∈ s.scalarTypes <;> simp [hv]
    | _ => rw [hshape] at h; exact h.elim
  obtain ⟨value, hvalue⟩ := hscalar
  simp only [level, View.isNothing, hsome, hvalue, Bool.and_false, Bool.false_eq_true, if_false]
  split
  next => exact ⟨_, rfl⟩
  next => exact ⟨_, rfl⟩

/-- On every level a simple key is captured as a scalar, and nothing is reported but that it lies too deep. -/
theorem captureWithin_of_isSimple (levels : Nat) (mode : Mode) {k : σ} (h : (view k).shape.IsSimple) :
    ∃ value log, s.captureWithin view levels k mode = ⟨.scalar value, log⟩ ∧
      ∀ type, .keyNotScalar type ∉ log := by
  cases levels with
  | zero => exact ⟨_, _, rfl, by simp⟩
  | succ levels =>
    have hlevel : ∃ value, s.level view (s.captureView view levels) mode (view k) = pure (.scalar value) :=
      level_of_isSimple _ mode h
    obtain ⟨value, hvalue⟩ := hlevel
    exact ⟨value, [], hvalue, by simp⟩

variable (s view) in
/-- Nothing claims the value on this level, neither that its type was declared nor a policy. -/
def Unclaimed (levels : Nat) (mode : Mode) (v : σ) : Prop :=
  (view v).face.type ∉ s.scalarTypes ∧
    (mode = .destructure →
      ((view v).inside.firstAnswer (s.captureView view levels) s.policies).value = none)

theorem Unclaimed.value_mapping {levels : Nat} {v : σ} (h : s.Unclaimed view levels mode v)
    (hmode : mode ≠ .stringify) {keys : SubjectType} {entries : Items (σ × σ)}
    (hshape : (view v).shape = .mapping keys entries) :
    (s.captureWithin view (levels + 1) v mode).value =
      ((s.mappingOutline view mode keys entries).fill view (s.captureWithin view levels) mode).value := by
  obtain ⟨hv, hdeclined⟩ := h
  have hscalar : (view v).scalar? s.scalarTypes = none := by simp [View.scalar?, hshape, hv]
  have hclaimed : (if mode = .destructure then
      (view v).inside.firstAnswer (s.captureView view levels) s.policies else pure none).value = none := by
    split
    next hdestructure => exact hdeclined hdestructure
    next => rfl
  have hcomposite : s.composite view (s.captureWithin view levels) mode (view v).inside =
      s.mapping view (s.captureWithin view levels) mode keys entries := by
    simp only [composite, View.inside, hshape]
  rw [← mapping_eq_fill, ← hcomposite, captureWithin, captureView, level]
  simp only [View.isNothing, hshape, Shape.isNothing, Bool.and_false, Bool.false_eq_true, if_false, hmode, hscalar,
    Logged.value_bind, hclaimed]
  rfl

theorem value_fill_mappingOutline (inner : Inner σ) (keys : SubjectType) (entries : Items (σ × σ)) :
    ((s.mappingOutline view mode keys entries).fill view inner mode).value =
      if keys.isScalarKey ∨ keys ∈ s.scalarTypes then
        .dictionary (Entries.ofList ((entries.upTo s.limits.maxItems).map fun e =>
          (Outline.keyBy view inner mode e.1, (inner e.2 mode).value)))
      else .sequence ((entries.upTo s.limits.maxItems).map fun e =>
        if mode = .destructure then
          .record none [("key", (inner e.1 mode).value), ("value", (inner e.2 mode).value)]
        else .text (s.limits.cut (entryText view e))) := by
  dsimp only [mappingOutline]
  split
  next => exact Outline.value_fill_dictionary _
  next =>
    split
    next => exact Outline.value_fill_pairs _
    next => simp [Outline.fill, pure]

/-- A key that is captured as a scalar is that scalar, and nothing more is reported. -/
theorem key_of_scalar {inner : Inner σ} {k : σ} {value : Scalar} {log : List Diagnostic}
    (h : inner k mode = ⟨.scalar value, log⟩) : key view inner mode k = ⟨value, log⟩ := by
  rw [key, h]
  simp [Logged.bind, pure]

/-- The type of its keys decides what becomes of a mapping that nothing claims: a dictionary if the type promises
scalars or was declared, and otherwise a sequence with one element for every entry that is kept. The types that
promise scalars keep the promise: with any number of levels left their values are captured as scalars, so as keys
they are never replaced by their texts. -/
theorem captureWithin_by_keys {κ : Type} (s : Settings (Subject κ)) (foreignView : κ → View (Subject κ)) :
    let view := Subject.view foreignView
    (∀ levels mode v keys entries, mode ≠ .stringify → (view v).shape = .mapping keys entries →
      s.Unclaimed view levels mode v →
      let inner := s.captureWithin view levels
      let kept := entries.upTo s.limits.maxItems
      let captured := (s.captureWithin view (levels + 1) v mode).value
      ((∃ es, captured = .dictionary es) ↔ keys.isScalarKey ∨ keys ∈ s.scalarTypes) ∧
      (¬(keys.isScalarKey ∨ keys ∈ s.scalarTypes) → captured = .sequence (kept.map fun e =>
        if mode = .destructure then
          .record none [("key", (inner e.1 mode).value), ("value", (inner e.2 mode).value)]
        else .text (s.limits.cut (entryText view e))))) ∧
    (∀ k type, Subject.Inhabits k type → type.isScalarKey → ∀ levels mode,
      ∃ value, (s.captureWithin view levels k mode).value = .scalar value ∧
        (key view (s.captureWithin view levels) mode k).value = value ∧
        ∀ name, .keyNotScalar name ∉ (key view (s.captureWithin view levels) mode k).log) := by
  intro view
  constructor
  · intro levels mode v keys entries hmode hshape hv inner kept captured
    have hcaptured := hv.value_mapping hmode hshape
    rw [value_fill_mappingOutline] at hcaptured
    by_cases hkeys : keys.isScalarKey ∨ keys ∈ s.scalarTypes
    · rw [if_pos hkeys] at hcaptured
      exact ⟨iff_of_true ⟨_, hcaptured⟩ hkeys, fun h => absurd hkeys h⟩
    · rw [if_neg hkeys] at hcaptured
      refine ⟨iff_of_false ?_ hkeys, fun _ => hcaptured⟩
      rintro ⟨es, hes⟩
      cases hes.symm.trans hcaptured
  · intro k type hk htype levels mode
    obtain ⟨value, log, hcaptured, hlog⟩ := captureWithin_of_isSimple (s := s) levels mode (hk.isSimple htype)
    have hkey : key view (s.captureWithin view levels) mode k = ⟨value, log⟩ := key_of_scalar hcaptured
    exact ⟨value, by rw [hcaptured], by rw [hkey], by rw [hkey]; exact hlog⟩

/-- A policy that has something to say of functions only. -/
def named : Policy (Subject Empty) := fun v _ =>
  match v.shape with
  | .callable => pure (some (.text v.front.typeName))
  | _ => pure none

/-- A mapping behind a pointer, whose keys are of the given type. -/
def keyedBy (keys : SubjectType) (entries : List (Subject Empty × Subject Empty)) : Subject Empty :=
  .pointer (.ofEntries "BTreeMap" keys entries)

theorem captureWithin_by_keys_pointers :
    let s : Settings (Subject Empty) := { policies := [named] }
    let view := Subject.view Empty.elim
    let texts := keyedBy (.pointer .bareText) []
    let strings := keyedBy (.pointer (.named "String" true)) [(.pointer (.ofScalar (.text "a")), .unit)]
    let letter : Subject Empty := .ofBareText "a"
    s.Unclaimed view 1 .destructure texts ∧ s.Unclaimed view 1 .destructure strings ∧
    (∃ es, (s.captureWithin view 2 texts .destructure).value = .dictionary es) ∧
    (s.captureWithin view 2 strings .destructure).value =
      .sequence [.record none [("key", .text "a"), ("value", .null)]] ∧
    letter.Inhabits (.pointer .bareText) ∧
    ∃ value, (s.captureWithin view 0 letter .destructure).value = .scalar value := by
  intro s view texts strings letter
  have htexts : s.Unclaimed view 1 .destructure texts := ⟨List.not_mem_nil, fun _ => rfl⟩
  have hstrings : s.Unclaimed view 1 .destructure strings := ⟨List.not_mem_nil, fun _ => rfl⟩
  have hkey : letter.Inhabits (.pointer .bareText) := .pointer (.bareText "a")
  obtain ⟨hmapping, hkeys⟩ := captureWithin_by_keys s Empty.elim
  have hdictionary := (hmapping 1 .destructure texts _ _ (by decide) rfl htexts).1.mpr (.inl rfl)
  have hsequence := (hmapping 1 .destructure strings _ _ (by decide) rfl hstrings).2 (by decide)
  obtain ⟨value, hvalue, -⟩ := hkeys _ _ hkey rfl 0 .destructure
  exact ⟨htexts, hstrings, hdictionary, hsequence, hkey, value, hvalue⟩

end Settings

end StructuredMessage
