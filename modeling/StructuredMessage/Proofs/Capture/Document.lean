import StructuredMessage.Capture.Subject
import StructuredMessage.Datum.Json
import StructuredMessage.Proofs.Capture.Outline

namespace StructuredMessage

namespace Json

/-- The document with null in the place of everything that lies deeper than the given number of levels. The
document itself is the first level. -/
def prune : Nat → Json → Json
  | 0, _ => null
  | levels + 1, array items => array (items.map (prune levels))
  | levels + 1, object members => object (members.map fun m => (m.1, prune levels m.2))
  | _ + 1, leaf => leaf

mutual

def height : Json → Nat
  | array items => 1 + itemsHeight items
  | object members => 1 + membersHeight members
  | _ => 1

def itemsHeight : List Json → Nat
  | [] => 0
  | item :: rest => max item.height (itemsHeight rest)

def membersHeight : List (String × Json) → Nat
  | [] => 0
  | (_, value) :: rest => max value.height (membersHeight rest)

end

mutual

/-- All whole numbers in a document. -/
def integers : Json → List Int
  | integer n => [n]
  | array items => itemsIntegers items
  | object members => membersIntegers members
  | _ => []

def itemsIntegers : List Json → List Int
  | [] => []
  | item :: rest => item.integers ++ itemsIntegers rest

def membersIntegers : List (String × Json) → List Int
  | [] => []
  | (_, value) :: rest => value.integers ++ membersIntegers rest

end

/-- All whole numbers fit 64 bits, with or without a sign. -/
def Fits (j : Json) : Prop :=
  ∀ n ∈ j.integers, IntegerType.i64.lowest ≤ n ∧ n ≤ IntegerType.u64.highest

theorem itemsHeight_le_iff {items : List Json} {n : Nat} :
    itemsHeight items ≤ n ↔ ∀ j ∈ items, j.height ≤ n := by
  induction items with
  | nil => simp [itemsHeight]
  | cons item rest ih => rw [itemsHeight, Nat.max_le, ih, List.forall_mem_cons]

theorem membersHeight_le_iff {members : List (String × Json)} {n : Nat} :
    membersHeight members ≤ n ↔ ∀ m ∈ members, m.2.height ≤ n := by
  induction members with
  | nil => simp [membersHeight]
  | cons m rest ih => rw [membersHeight, Nat.max_le, ih, List.forall_mem_cons]

theorem mem_itemsIntegers {items : List Json} {n : Int} :
    n ∈ itemsIntegers items ↔ ∃ j ∈ items, n ∈ j.integers := by
  induction items with
  | nil => simp [itemsIntegers]
  | cons item rest ih => simp [itemsIntegers, ih]

theorem mem_membersIntegers {members : List (String × Json)} {n : Int} :
    n ∈ membersIntegers members ↔ ∃ m ∈ members, n ∈ m.2.integers := by
  induction members with
  | nil => simp [membersIntegers]
  | cons m rest ih => simp [membersIntegers, ih]

theorem Fits.item {items : List Json} (h : Fits (array items)) {j : Json} (hj : j ∈ items) : j.Fits :=
  fun n hn => h n (mem_itemsIntegers.mpr ⟨j, hj, hn⟩)

theorem Fits.member {members : List (String × Json)} (h : Fits (object members)) {m : String × Json}
    (hm : m ∈ members) : m.2.Fits :=
  fun n hn => h n (mem_membersIntegers.mpr ⟨m, hm, hn⟩)

theorem prune_eq_self {levels : Nat} {j : Json} (h : j.height ≤ levels) : j.prune levels = j := by
  induction levels generalizing j with
  | zero => cases j <;> simp [height] at h
  | succ levels ih =>
    cases j with
    | array items =>
      rw [height, Nat.add_comm, Nat.add_le_add_iff_right, itemsHeight_le_iff] at h
      rw [prune, List.map_congr_left fun item hitem => ih (h item hitem), List.map_id']
    | object members =>
      rw [height, Nat.add_comm, Nat.add_le_add_iff_right, membersHeight_le_iff] at h
      have hself : ∀ m ∈ members, (m.1, prune levels m.2) = m := fun m hm => by rw [ih (h m hm)]
      rw [prune, List.map_congr_left hself, List.map_id']
    | _ => rfl

end Json

theorem Subject.ofJsonInteger_of_fits {κ : Type} {n : Int} (hlow : IntegerType.i64.lowest ≤ n)
    (hhigh : n ≤ IntegerType.u64.highest) :
    ∃ i : Integer, ofJsonInteger n = (.scalar (.integer i) : Shape (Subject κ)) ∧ i.value = n := by
  rw [ofJsonInteger, Integer.of?]
  split
  next i hi =>
    split at hi
    next h => exact ⟨i, rfl, by cases Option.some.inj hi; rfl⟩
    next => simp at hi
  next hi =>
    split at hi
    next => simp at hi
    next h =>
      -- What no signed word holds lies above all of them.
      have hpos : IntegerType.u64.lowest ≤ n := by
        have habove : IntegerType.i64.highest < n := Int.not_le.mp fun hle => h ⟨hlow, hle⟩
        exact Int.le_of_lt (Int.lt_of_le_of_lt (by decide) habove)
      rw [Integer.of?, dif_pos ⟨hpos, hhigh⟩]
      exact ⟨_, rfl, rfl⟩

namespace Settings

variable {κ : Type} {s : Settings (Subject κ)} {foreignView : κ → View (Subject κ)}

theorem outline_json_scalar {j : Json} {value : Scalar}
    (h : Subject.jsonShape j = (.scalar value : Shape (Subject κ))) :
    s.outline (Subject.view foreignView) .destructure (Subject.view foreignView (.json j)) =
      .scalar (s.limits.cutScalar value) := by
  simp [outline, Subject.view, h, View.isNothing, Shape.isNothing, View.scalar?]

section Parts

variable (htype : Subject.jsonType ∉ s.scalarTypes)

include htype

theorem outline_json_array (hitems : s.limits.maxItems = none) (items : List Json) :
    s.outline (Subject.view foreignView) .destructure (Subject.view foreignView (.json (.array items))) =
      .sequence (items.map .json) := by
  simp [outline, Subject.view, Subject.front, Subject.jsonShape, View.isNothing, Shape.isNothing, View.scalar?,
    htype, compositeOutline, Items.upTo, hitems]

theorem outline_json_object (members : List (String × Json)) :
    s.outline (Subject.view foreignView) .destructure (Subject.view foreignView (.json (.object members))) =
      .record "" (members.map fun m => ⟨m.1, .ok (.json m.2)⟩) := by
  simp [outline, Subject.view, Subject.front, Subject.jsonShape, View.isNothing, Shape.isNothing, View.scalar?,
    htype, compositeOutline]

theorem toJson_captureWithin_json (hp : s.policies = []) (hitems : s.limits.maxItems = none)
    (hlength : s.limits.maxLength = none) (levels : Nat) {j : Json} (hj : j.Fits) :
    (s.captureWithin (Subject.view foreignView) levels (.json j) .destructure).value.toJson =
      j.prune levels := by
  induction levels generalizing j with
  | zero => rfl
  | succ levels ih =>
    rw [captureWithin_succ hp]
    cases j with
    | null => rfl
    | bool value => rw [outline_json_scalar rfl]; rfl
    | integer n =>
      obtain ⟨hlow, hhigh⟩ := hj n (List.mem_singleton_self n)
      obtain ⟨i, hshape, rfl⟩ := Subject.ofJsonInteger_of_fits hlow hhigh
      rw [outline_json_scalar (j := .integer i.value) hshape]
      rfl
    | single x => rw [outline_json_scalar rfl]; rfl
    | double x => rw [outline_json_scalar rfl]; rfl
    | string text =>
      rw [outline_json_scalar rfl, Limits.cutScalar, Limits.cut, hlength]
      rfl
    | array items =>
      rw [outline_json_array htype hitems, Outline.value_fill_sequence, Datum.toJson,
        Datum.itemsToJson_eq_map, List.map_map, List.map_map, Json.prune]
      exact congrArg _ (List.map_congr_left fun item hitem => ih (hj.item hitem))
    | object members =>
      -- The empty type name of documents is no tag, so there is no member for it.
      have htag : (some "").filter (fun t => t.toList.head?.any Text.isAlphabetic) = none := rfl
      rw [outline_json_object htype, Outline.value_fill_record, Datum.tagged, htag, Datum.toJson,
        Datum.propertiesToJson_eq_map, List.map_map, List.map_map, Json.prune]
      refine congrArg _ (List.map_congr_left fun m hm => ?_)
      show (m.1, _) = _
      rw [← ih (hj.member hm)]
      rfl

end Parts

/-- Taking a document apart and writing the result as JSON loses only what lies below the depth limit, unless
the type of documents is one that was declared scalar. -/
theorem toJson_capture_json (hp : s.policies = []) (hitems : s.limits.maxItems = none)
    (hlength : s.limits.maxLength = none) (htype : Subject.jsonType ∉ s.scalarTypes) {j : Json} (hj : j.Fits) :
    (s.capture (Subject.view foreignView) (.json j) .destructure).value.toJson = j.prune s.limits.maxDepth ∧
      (j.height ≤ s.limits.maxDepth →
        (s.capture (Subject.view foreignView) (.json j) .destructure).value.toJson = j) := by
  have hprune : (s.capture (Subject.view foreignView) (.json j) .destructure).value.toJson =
      j.prune s.limits.maxDepth :=
    toJson_captureWithin_json htype hp hitems hlength s.limits.maxDepth hj
  refine ⟨hprune, fun hheight => ?_⟩
  rw [hprune, Json.prune_eq_self hheight]

/-- A document with an object in a list in an object, and the largest whole number that fits. -/
def nested : Json :=
  .object [("a", .array [.integer 1, .object [("b", .integer 18446744073709551615)]]), ("c", .string "x")]

theorem toJson_capture_nested :
    nested.Fits ∧ nested.height = 4 ∧
    ((capture {} (Subject.view Empty.elim) (.json nested) .destructure).value.toJson = nested) ∧
    (capture { limits := { maxDepth := 2 } } (Subject.view Empty.elim) (.json nested) .destructure).value.toJson =
      .object [("a", .array [.null, .null]), ("c", .string "x")] := by
  have hfits : nested.Fits := by
    unfold Json.Fits
    decide
  refine ⟨hfits, rfl, ?_, ?_⟩
  · exact (toJson_capture_json rfl rfl rfl (List.not_mem_nil) hfits).2 (by decide)
  · exact (toJson_capture_json rfl rfl rfl (List.not_mem_nil) hfits).1

end Settings

end StructuredMessage
