import StructuredMessage.Datum.Json
import StructuredMessage.Proofs.Datum.Entries
import StructuredMessage.Proofs.Scalar.Name

namespace StructuredMessage

/-- Whether scalars of the kind can be blurred. -/
def Scalar.Kind.blurs : Scalar.Kind → Bool
  | moment | zoned | time | span | member | other => true
  | _ => false

theorem Scalar.Blurred.blurs {x y : Scalar} (h : x.Blurred y) : x.kind.blurs := by
  cases x <;> cases y <;> first | rfl | exact h.elim

namespace Datum

variable {entries : List (Scalar × Datum)} {kind : Scalar.Kind}

/-- Entries under different keys of one kind get different names iff no two keys are blurred. -/
theorem pairwise_keyText_ne_iff (hkind : ∀ e ∈ entries, e.1.kind = kind) (hnumber : ∀ e ∈ entries, e.1.isNaN = false)
    (hdistinct : Entries.Distinct entries) :
    (entries.Pairwise fun a b => a.1.keyText ≠ b.1.keyText) ↔ entries.Pairwise fun a b => ¬a.1.Blurred b.1 := by
  constructor
  · exact List.Pairwise.imp fun hne hblurred => hne (Scalar.keyText_eq_of_blurred hblurred)
  · intro h
    refine (hdistinct.and h).imp_of_mem fun {a b} ha hb hab htext => ?_
    have hsame : a.1.kind = b.1.kind := (hkind a ha).trans (hkind b hb).symm
    exact hab.2 ((Scalar.keyText_eq_iff hsame (hnumber a ha) (hnumber b hb) hab.1).mp htext)

/-- A dictionary becomes an object with one member for each entry, in its place. If the keys are of one kind and no two
are the same, the members have different names iff no two keys are blurred, as no keys are of a kind whose text shows
all of them. Then each entry is seen: every member with its name has its value. -/
theorem nodup_names_toJson_iff (hkind : ∀ e ∈ entries, e.1.kind = kind) (hnumber : ∀ e ∈ entries, e.1.isNaN = false)
    (hdistinct : Entries.Distinct entries) :
    ∃ members, (dictionary entries).toJson = .object members ∧
      members = (entries.map fun e => (e.1.keyText, e.2.toJson)) ∧
      ((members.map Prod.fst).Nodup ↔ entries.Pairwise fun a b => ¬a.1.Blurred b.1) ∧
      (kind.blurs = false → (members.map Prod.fst).Nodup) ∧
      ((members.map Prod.fst).Nodup → ∀ e ∈ entries, ∀ m ∈ members, m.1 = e.1.keyText → m.2 = e.2.toJson) := by
  have hiff : (((entries.map fun e => (e.1.keyText, e.2.toJson)).map Prod.fst).Nodup ↔
      entries.Pairwise fun a b => ¬a.1.Blurred b.1) := by
    rw [List.Nodup, List.pairwise_map, List.pairwise_map]
    exact pairwise_keyText_ne_iff hkind hnumber hdistinct
  refine ⟨_, by rw [toJson, entriesToJson_eq_map], rfl, hiff, fun hclear => ?_, fun hnodup e he m hm hname => ?_⟩
  · refine hiff.mpr (hdistinct.imp_of_mem fun {a b} ha _ _ hblurred => ?_)
    have hblurs := hblurred.blurs
    rw [hkind a ha, hclear] at hblurs
    cases hblurs
  · have hmem := List.mem_map_of_mem (f := fun e => (e.1.keyText, e.2.toJson)) he
    rw [List.inj_on_of_nodup_map hnodup hm hmem hname]

/-- Two times of day with what happens then. -/
def timetable (first second : TimeOfDay) : List (Scalar × Datum) :=
  [(.time first, .scalar (.text "noon")), (.time second, .scalar (.text "later"))]

theorem timetable_keys {first second : TimeOfDay} (h : first ≠ second) :
    (∀ e ∈ timetable first second, e.1.kind = .time) ∧ (∀ e ∈ timetable first second, e.1.isNaN = false) ∧
      Entries.Distinct (timetable first second) := by
  simp [timetable, Scalar.kind, Scalar.isNaN, Entries.Distinct, Scalar.same, h]

theorem nodup_names_minute_apart :
    ∃ members, (dictionary (timetable ⟨43200, 0, by decide, by decide⟩ ⟨43290, 0, by decide, by decide⟩)).toJson =
        .object members ∧ members.map Prod.fst = ["12:00", "12:01"] ∧ (members.map Prod.fst).Nodup := by
  have hne : (⟨43200, 0, by decide, by decide⟩ : TimeOfDay) ≠ ⟨43290, 0, by decide, by decide⟩ := by decide
  obtain ⟨hkind, hnumber, hdistinct⟩ := timetable_keys hne
  obtain ⟨members, hjson, hmembers, hiff, -, -⟩ := nodup_names_toJson_iff hkind hnumber hdistinct
  refine ⟨members, hjson, ?_, hiff.mpr (by simp [timetable, Scalar.Blurred])⟩
  rw [hmembers]
  decide +kernel

/-- Times within one minute get one name. -/
theorem names_within_minute_not_nodup :
    let entries := timetable ⟨43200, 0, by decide, by decide⟩ ⟨43230, 0, by decide, by decide⟩
    ((∀ e ∈ entries, e.1.kind = .time) ∧ (∀ e ∈ entries, e.1.isNaN = false) ∧ Entries.Distinct entries) ∧
    ∃ members, (dictionary entries).toJson = .object members ∧ members.map Prod.fst = ["12:00", "12:00"] ∧
      ¬(members.map Prod.fst).Nodup :=
  ⟨timetable_keys (by decide), _, rfl, by decide +kernel, by decide +kernel⟩

end Datum

end StructuredMessage
