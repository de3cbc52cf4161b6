import StructuredMessage.Proofs.Capture.Frame

namespace StructuredMessage

def Diagnostic.isAccessorFailed : Diagnostic → Bool
  | accessorFailed _ _ => true
  | _ => false

namespace Logged

variable {α β : Type}

/-- The reports of members that cannot be read. -/
def failures (x : Logged α) : List Diagnostic :=
  x.log.filter Diagnostic.isAccessorFailed

theorem failures_map (f : α → β) (x : Logged α) : (x.map f).failures = x.failures := rfl

theorem failures_bind (x : Logged α) (f : α → Logged β) :
    (x.bind f).failures = x.failures ++ (f x.value).failures :=
  List.filter_append _ _

theorem failures_all (xs : List (Logged α)) : (all xs).failures = xs.flatMap failures :=
  List.filter_flatMap

end Logged

mutual

/-- The lost members, in the order of the captured value. -/
def Frame.losses : Frame → List Loss
  | .whole _ => []
  | .sequence items => Frame.itemsLosses items
  | .dictionary entries => Frame.entriesLosses entries
  | .record _ slots => Frame.slotsLosses slots

def KeyedFrame.losses : KeyedFrame → List Loss
  | .entry _ asked _ value => asked.losses ++ value.losses

def Slot.losses : Slot → List Loss
  | .kept _ part => part.losses
  | .lost loss => [loss]

def Frame.itemsLosses : List Frame → List Loss
  | [] => []
  | item :: rest => item.losses ++ Frame.itemsLosses rest

def Frame.entriesLosses : List KeyedFrame → List Loss
  | [] => []
  | entry :: rest => entry.losses ++ Frame.entriesLosses rest

def Frame.slotsLosses : List Slot → List Loss
  | [] => []
  | slot :: rest => slot.losses ++ Frame.slotsLosses rest

end

namespace Frame

theorem itemsLosses_eq_flatMap (items : List Frame) : itemsLosses items = items.flatMap losses := by
  induction items with
  | nil => rfl
  | cons item rest ih => rw [itemsLosses, ih, List.flatMap_cons]

theorem entriesLosses_eq_flatMap (entries : List KeyedFrame) :
    entriesLosses entries = entries.flatMap KeyedFrame.losses := by
  induction entries with
  | nil => rfl
  | cons entry rest ih => rw [entriesLosses, ih, List.flatMap_cons]

theorem slotsLosses_eq_flatMap (slots : List Slot) : slotsLosses slots = slots.flatMap Slot.losses := by
  induction slots with
  | nil => rfl
  | cons slot rest ih => rw [slotsLosses, ih, List.flatMap_cons]

end Frame

namespace Member

variable {σ : Type}

def failures (below : σ → List Diagnostic) (m : Member σ) : List Diagnostic :=
  match m.value with
  | .ok w => below w
  | .error e => [.accessorFailed m.name e]

end Member

namespace Outline

variable {σ : Type} {view : σ → View σ} {inner : Inner σ} {deeper : σ → σ → Frame} {R : σ → σ → Prop}
  {o o' : Outline σ}

def failures (below : σ → List Diagnostic) : Outline σ → List Diagnostic
  | scalar _ | lines _ => []
  | sequence items => items.flatMap below
  | dictionary entries | pairs entries => entries.flatMap fun e => below e.1 ++ below e.2
  | record _ members => members.flatMap (Member.failures below)

theorem failures_key (k : σ) :
    (Settings.key view inner .destructure k).failures = (inner k .destructure).failures := by
  rw [Settings.key, Logged.failures_bind]
  cases (inner k .destructure).value <;> simp [pure, Logged.reporting, Logged.failures, Diagnostic.isAccessorFailed]

theorem failures_property (m : Member σ) :
    (property inner .destructure m).failures = m.failures fun w => (inner w .destructure).failures := by
  rw [property, Member.failures]
  cases m.value with
  | ok w => exact Logged.failures_map _ _
  | error e => rfl

theorem failures_fill :
    (o.fill view inner .destructure).failures = o.failures fun w => (inner w .destructure).failures := by
  cases o with
  | scalar value => rfl
  | lines texts => rfl
  | sequence items => rw [fill, Logged.failures_map, Logged.failures_all, List.flatMap_map, failures]
  | dictionary entries =>
    rw [fill, Logged.failures_map, Logged.failures_all, List.flatMap_map, failures]
    simp [Settings.entry, Logged.failures_bind, Logged.failures_map, failures_key]
  | pairs entries =>
    rw [fill, Logged.failures_map, Logged.failures_all, List.flatMap_map, failures]
    simp [pair, Logged.failures_bind, Logged.failures_map]
  | record tag members =>
    rw [fill, Logged.failures_map, Logged.failures_all, List.flatMap_map, failures]
    simp only [failures_property]

theorem flatMap_entries (below : σ → List Diagnostic) (entries : List (σ × σ)) :
    (entries.flatMap fun e => below e.1 ++ below e.2) = (entries.flatMap fun e => [e.1, e.2]).flatMap below := by
  rw [List.flatMap_assoc]
  simp

theorem mem_failures {below : σ → List Diagnostic} {d : Diagnostic} :
    d ∈ o.failures below ↔
      (∃ tag members m e, o = .record tag members ∧ m ∈ members ∧ m.value = .error e ∧
        d = .accessorFailed m.name e) ∨ ∃ w ∈ o.asked, d ∈ below w := by
  cases o with
  | scalar value => simp [failures, asked]
  | lines texts => simp [failures, asked]
  | sequence items => simp [failures, asked]
  | dictionary entries => simp [failures, asked, flatMap_entries]
  | pairs entries => simp [failures, asked, flatMap_entries]
  | record tag members =>
    simp only [failures, asked, List.mem_flatMap, List.mem_filterMap, Member.part?_eq_some_iff]
    constructor
    · rintro ⟨m, hm, hd⟩
      rw [Member.failures] at hd
      cases hvalue : m.value with
      | ok w =>
        rw [hvalue] at hd
        exact .inr ⟨w, ⟨m, hm, hvalue⟩, hd⟩
      | error e =>
        rw [hvalue] at hd
        exact .inl ⟨tag, members, m, e, rfl, hm, hvalue, List.mem_singleton.mp hd⟩
    · rintro (⟨_, _, m, e, ho, hm, hvalue, rfl⟩ | ⟨w, ⟨m, hm, hvalue⟩, hd⟩)
      · obtain ⟨-, rfl⟩ := Outline.record.inj ho
        refine ⟨m, hm, ?_⟩
        rw [Member.failures, hvalue]
        exact List.mem_singleton_self _
      · refine ⟨m, hm, ?_⟩
        rw [Member.failures, hvalue]
        exact hd

/-- The slots of the frame are for the members that cannot be read in the second of the two outlines. -/
theorem losses_frame {below : σ → List Diagnostic} (h : o.Loses R o')
    (hdeeper : ∀ v w, R v w → (deeper v w).losses.map Loss.report = below w) :
    (o.frame view inner deeper o').losses.map Loss.report = o'.failures below := by
  cases h with
  | scalar value => rfl
  | sequence hitems =>
    rw [frame, Frame.losses, Frame.itemsLosses_eq_flatMap, List.map_flatMap, failures]
    exact flatMap_zipWith_pick .after hitems hdeeper
  | dictionary hentries =>
    rw [frame, Frame.losses, Frame.entriesLosses_eq_flatMap, List.map_flatMap, failures]
    refine flatMap_zipWith_pick .after hentries fun e e' he => ?_
    rw [entryFrame, KeyedFrame.losses, List.map_append, hdeeper _ _ he.1, hdeeper _ _ he.2]
    rfl
  | pairs hentries =>
    rw [frame, Frame.losses, Frame.itemsLosses_eq_flatMap, List.map_flatMap, failures]
    refine flatMap_zipWith_pick .after hentries fun e e' he => ?_
    rw [pairFrame, Frame.losses, Frame.slotsLosses_eq_flatMap]
    simp [Slot.losses, hdeeper _ _ he.1, hdeeper _ _ he.2, Phase.pick]
  | record tag hmembers =>
    rw [frame, Frame.losses, Frame.slotsLosses_eq_flatMap, List.map_flatMap, failures]
    refine flatMap_zipWith_pick .after hmembers fun m m' hm => ?_
    cases hm with
    | kept name hvw => exact hdeeper _ _ hvw
    | lost name value error => rfl

end Outline

namespace Settings

variable {σ : Type} (s : Settings σ) (view : σ → View σ)

def askedParts (v : σ) : List σ :=
  (s.outline view .destructure (view v)).asked

/-- One report for each member that cannot be read and is met within the given number of levels. -/
def failures : Nat → σ → List Diagnostic
  | 0, _ => []
  | levels + 1, v => (s.outline view .destructure (view v)).failures (failures levels)

variable {s view} {R : σ → σ → Prop}

theorem failures_captureWithin (hp : s.policies = []) (levels : Nat) (v : σ) :
    (s.captureWithin view levels v .destructure).failures = s.failures view levels v := by
  induction levels generalizing v with
  | zero => rfl
  | succ levels ih => rw [captureWithin_succ hp, Outline.failures_fill, failures, funext ih]

theorem losses_frame (hR : ∀ v w, R v w → (view v).Loses R (view w)) (levels : Nat) {v w : σ} (h : R v w) :
    (s.frame view levels v w).losses.map Loss.report = s.failures view levels w := by
  induction levels generalizing v w with
  | zero => rfl
  | succ levels ih => exact Outline.losses_frame (loses_outline (hR v w h)) fun v w h => ih h

theorem mem_failures_iff {levels : Nat} {root : σ} {d : Diagnostic} :
    d ∈ s.failures view levels root ↔
      ∃ n u, n < levels ∧ Reached (s.askedParts view) n root u ∧
        ∃ tag members m e, s.outline view .destructure (view u) = .record tag members ∧ m ∈ members ∧
          m.value = .error e ∧ d = .accessorFailed m.name e := by
  induction levels generalizing root with
  | zero =>
    constructor
    · exact fun h => absurd h List.not_mem_nil
    · rintro ⟨n, u, hn, -⟩
      exact absurd hn (Nat.not_lt_zero n)
  | succ levels ih =>
    rw [failures, Outline.mem_failures]
    constructor
    · rintro (⟨tag, members, m, e, ho, hm, hvalue, rfl⟩ | ⟨w, hw, hd⟩)
      · exact ⟨0, root, Nat.succ_pos levels, .self root, tag, members, m, e, ho, hm, hvalue, rfl⟩
      · obtain ⟨n, u, hn, hu, hfails⟩ := ih.mp hd
        exact ⟨n + 1, u, Nat.succ_lt_succ hn, .part hw hu, hfails⟩
    · rintro ⟨n, u, hn, hu, tag, members, m, e, ho, hm, hvalue, rfl⟩
      cases hu with
      | self => exact .inl ⟨tag, members, m, e, ho, hm, hvalue, rfl⟩
      | part hw hu =>
        exact .inr ⟨_, hw, ih.mpr ⟨_, u, Nat.lt_of_succ_lt_succ hn, hu, tag, members, m, e, ho, hm, hvalue, rfl⟩⟩

/-- A member that cannot be read is lost alone. Two values that differ in lost members, none of them inside
another, are captured as one frame: filled with what the members were captured as, and filled with the texts of
their errors and one report for each. The slots of the frame are, in their order, for the members that cannot be
read and are reached within the limit. -/
theorem capture_of_loses (s : Settings σ) (hp : s.policies = []) (view : σ → View σ)
    (hR : ∀ v w, R v w → (view v).Loses R (view w)) {root root' : σ} (h : R root root') :
    ∃ f : Frame,
      s.capture view root .destructure = f.fill Loss.before ∧
      s.capture view root' .destructure = f.fill Loss.after ∧
      (s.capture view root' .destructure).failures = f.losses.map Loss.report ∧
      f.losses.map Loss.report = s.failures view s.limits.maxDepth root' ∧
      ∀ d, d ∈ s.failures view s.limits.maxDepth root' ↔
        ∃ n u, n < s.limits.maxDepth ∧ Reached (s.askedParts view) n root' u ∧
          ∃ tag members m e, s.outline view .destructure (view u) = .record tag members ∧ m ∈ members ∧
            m.value = .error e ∧ d = .accessorFailed m.name e := by
  have hbefore := fill_frame hp hR s.limits.maxDepth h .before
  have hafter := fill_frame hp hR s.limits.maxDepth h .after
  have hlosses := losses_frame (s := s) hR s.limits.maxDepth h
  refine ⟨s.frame view s.limits.maxDepth root root', hbefore.symm, hafter.symm, ?_, hlosses, fun d => mem_failures_iff⟩
  rw [hlosses]
  exact failures_captureWithin hp s.limits.maxDepth root'

/-- The light of all steps at `(0, broken)` and stairs from `(1, broken)` on. Where the stairs are broken the
second step has no light. -/
def flight : Nat × Bool → View (Nat × Bool)
  | (0, _) => ⟨[], ⟨"bool", "true", .named "bool" true⟩, .scalar (.bool true)⟩
  | (n + 1, broken) => ⟨[], ⟨"Step", "Step", .named "Step" false⟩,
    .object [⟨"light", if broken ∧ n = 1 then .error "out" else .ok (0, broken)⟩, ⟨"up", .ok (n + 2, broken)⟩]⟩

/-- The same place, the stairs whole in the one and in either state in the other. -/
def SamePlace (v w : Nat × Bool) : Prop :=
  v.1 = w.1 ∧ v.2 = false

theorem loses_flight {v w : Nat × Bool} (h : SamePlace v w) : (flight v).Loses SamePlace (flight w) := by
  obtain ⟨n, whole⟩ := v
  obtain ⟨_, broken⟩ := w
  obtain ⟨hn, hwhole⟩ := h
  dsimp only at hn hwhole
  subst hn hwhole
  cases n with
  | zero => exact .of_shape _ _ (.scalar _)
  | succ n =>
    refine .of_shape _ _ (.object (.cons ?_ (.cons (.kept _ ⟨rfl, rfl⟩) .nil)))
    by_cases hdark : broken ∧ n = 1
    · rw [if_pos hdark]
      exact .lost _ _ _
    · rw [if_neg hdark]
      exact .kept _ ⟨rfl, rfl⟩

def flightAbove (light up : Datum) : Datum :=
  .record (some "Step") [("light", light), ("up", up)]

/-- The light of the second step lies too deep, the report that there is none does not. -/
theorem capture_flight :
    (({} : Settings (Nat × Bool)).policies = [] ∧ (∀ v w, SamePlace v w → (flight v).Loses SamePlace (flight w)) ∧
      SamePlace (1, false) (1, true)) ∧
    (((withDepth {} 2).capture flight (1, false) .destructure).value =
        flightAbove (.scalar (.bool true)) (flightAbove .null .null) ∧
      ((withDepth {} 2).capture flight (1, true) .destructure).value =
        flightAbove (.scalar (.bool true)) (flightAbove (.text "The property accessor failed: out") .null)) ∧
    ((withDepth {} 2).capture flight (1, true) .destructure).failures = [.accessorFailed "light" "out"] ∧
    ∃ f : Frame,
      (withDepth {} 2).capture flight (1, false) .destructure = f.fill Loss.before ∧
      (withDepth {} 2).capture flight (1, true) .destructure = f.fill Loss.after ∧
      f.losses.map Loss.report = [.accessorFailed "light" "out"] := by
  have hR : ∀ v w, SamePlace v w → (flight v).Loses SamePlace (flight w) := fun v w h => loses_flight h
  have hreports : ((withDepth {} 2).capture flight (1, true) .destructure).failures =
      [.accessorFailed "light" "out"] := rfl
  obtain ⟨f, hbefore, hafter, hfailures, -⟩ :=
    capture_of_loses (withDepth {} 2) rfl flight hR (show SamePlace (1, false) (1, true) from ⟨rfl, rfl⟩)
  exact ⟨⟨rfl, hR, rfl, rfl⟩, ⟨rfl, rfl⟩, hreports, f, hbefore, hafter, hfailures.symm.trans hreports⟩

end Settings

end StructuredMessage
