import StructuredMessage.Calendar.Moment

namespace StructuredMessage

namespace Moment

variable {m m' : Moment} {seconds : Int} {nano : Nat} {hnano : nano < 2000000000}

/-- Date and second of the day are read off the seconds since the start of 1970. -/
theorem seconds_eq_iff : m.seconds = m'.seconds ↔ m.date = m'.date ∧ m.time.second = m'.time.second := by
  constructor
  · intro h
    have hlt := m.time.second_lt
    have hlt' := m'.time.second_lt
    unfold Moment.seconds at h
    obtain ⟨⟨day, inRange⟩, time⟩ := m
    obtain ⟨⟨day', inRange'⟩, time'⟩ := m'
    dsimp only at h hlt hlt' ⊢
    have hday : day = day' := by omega
    cases hday
    exact ⟨rfl, by omega⟩
  · rintro ⟨hdate, hsecond⟩
    rw [Moment.seconds, Moment.seconds, hdate, hsecond]

theorem eq_of_seconds (hseconds : m.seconds = m'.seconds) (hnano : m.time.nano = m'.time.nano) : m = m' := by
  obtain ⟨hdate, hsecond⟩ := seconds_eq_iff.mp hseconds
  obtain ⟨date, ⟨second, nano, second_lt, nano_lt⟩⟩ := m
  obtain ⟨date', ⟨second', nano', second_lt', nano_lt'⟩⟩ := m'
  cases hdate
  cases hsecond
  cases hnano
  rfl

theorem exists_ofSeconds? (h : Calendar.firstDay ≤ seconds / 86400 ∧ seconds / 86400 ≤ Calendar.lastDay) :
    ∃ m, ofSeconds? seconds nano hnano = some m ∧ m.seconds = seconds ∧ m.time.nano = nano := by
  rw [ofSeconds?, Date.ofDay?, dif_pos h]
  refine ⟨_, rfl, ?_, rfl⟩
  unfold Moment.seconds
  dsimp only
  omega

/-- The day that the seconds lead back to lies in the calendar. -/
theorem day_of_seconds (m : Moment) :
    Calendar.firstDay ≤ m.seconds / 86400 ∧ m.seconds / 86400 ≤ Calendar.lastDay := by
  have hday : m.seconds / 86400 = m.date.day := by
    have hlt := m.time.second_lt
    unfold Moment.seconds
    omega
  rw [hday]
  exact m.date.inRange

theorem ofSeconds?_eq_some_iff : ofSeconds? seconds nano hnano = some m ↔ m.seconds = seconds ∧ m.time.nano = nano := by
  constructor
  · intro h
    obtain ⟨date, hdate, -⟩ := Option.map_eq_some_iff.mp h
    rw [Date.ofDay?, Option.dite_none_right_eq_some] at hdate
    obtain ⟨hday, -⟩ := hdate
    obtain ⟨m', hm', hshown⟩ := exists_ofSeconds? hday
    cases h.symm.trans hm'
    exact hshown
  · rintro ⟨rfl, rfl⟩
    obtain ⟨m', hm', hseconds, hnano⟩ := exists_ofSeconds? m.day_of_seconds
    rw [hm', eq_of_seconds hseconds hnano]

end Moment

namespace Instant

variable {x : Instant}

/-- The day that the clock shows lies in the calendar. -/
def IsShown (x : Instant) : Prop :=
  Calendar.firstDay ≤ (x.universal.seconds + x.offset) / 86400 ∧
    (x.universal.seconds + x.offset) / 86400 ≤ Calendar.lastDay

instance (x : Instant) : Decidable x.IsShown :=
  inferInstanceAs (Decidable (_ ∧ _))

theorem wall?_eq_some_iff {m : Moment} :
    x.wall? = some m ↔ m.seconds = x.universal.seconds + x.offset ∧ m.time.nano = x.universal.time.nano :=
  Moment.ofSeconds?_eq_some_iff

theorem isShown_iff : x.IsShown ↔ ∃ m, x.wall? = some m := by
  constructor
  · intro h
    obtain ⟨m, hm, -⟩ := Moment.exists_ofSeconds? h
    exact ⟨m, hm⟩
  · rintro ⟨m, hm⟩
    have hday := m.day_of_seconds
    rwa [(wall?_eq_some_iff.mp hm).1] at hday

theorem wall?_ofWall? {wall : Moment} {offset : Int} (h : ofWall? wall offset = some x) : x.wall? = some wall := by
  rw [ofWall?, Option.dite_none_right_eq_some] at h
  obtain ⟨hoffset, h⟩ := h
  obtain ⟨universal, huniversal, rfl⟩ := Option.map_eq_some_iff.mp h
  obtain ⟨hseconds, hnano⟩ := Moment.ofSeconds?_eq_some_iff.mp huniversal
  rw [wall?_eq_some_iff, hseconds, hnano]
  exact ⟨(Int.sub_add_cancel _ _).symm, rfl⟩

theorem zoned?_eq_some_iff {z : Zoned} : x.zoned? = some z ↔ z.toInstant = x := by
  unfold zoned?
  split
  next wall hwall =>
    constructor
    · intro h
      cases h
      rfl
    · rintro rfl
      obtain ⟨x, wall', hwall'⟩ := z
      cases hwall.symm.trans hwall'
      rfl
  next hnone =>
    constructor
    · exact nofun
    · rintro rfl
      exact nomatch hnone.symm.trans z.wall?_eq

/-- Only an instant whose clock leaves the calendar has nothing that its clock shows. -/
theorem zoned?_eq_none_iff : x.zoned? = none ↔ ¬x.IsShown := by
  constructor
  · intro hnone hshown
    obtain ⟨wall, hwall⟩ := isShown_iff.mp hshown
    have hsome : x.zoned? = some ⟨x, wall, hwall⟩ := zoned?_eq_some_iff.mpr rfl
    exact nomatch hnone.symm.trans hsome
  · intro hshown
    cases hz : x.zoned? with
    | none => rfl
    | some z =>
      cases zoned?_eq_some_iff.mp hz
      exact absurd (isShown_iff.mpr ⟨z.wall, z.wall?_eq⟩) hshown

end Instant

theorem Zoned.seconds_wall (z : Zoned) : z.wall.seconds = z.universal.seconds + z.offset :=
  (Instant.wall?_eq_some_iff.mp z.wall?_eq).1

end StructuredMessage
