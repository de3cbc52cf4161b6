import Mathlib.Logic.Function.Iterate
import StructuredMessage.Capture.Builtin
import StructuredMessage.Proofs.Capture.Level

namespace StructuredMessage

namespace Items

variable {α : Type}

/-- The next item and those behind it, if there is one and room for it. -/
def next? : Option Nat → Items α → Option (α × Items α)
  | some 0, _ => none
  | _, finite [] => none
  | _, finite (item :: rest) => some (item, finite rest)
  | _, endless item => some (item 0, endless fun n => item (n + 1))

theorem upTo_of_next?_eq_none {room : Option Nat} {items : Items α} (h : items.next? room = none) :
    items.upTo room = [] := by
  cases items with
  | finite items =>
    cases items with
    | nil => cases room <;> simp [upTo]
    | cons item rest =>
      rcases room with _ | _ | n
      · cases h
      · rfl
      · cases h
  | endless item =>
    rcases room with _ | _ | n
    · rfl
    · rfl
    · cases h

theorem upTo_of_next?_eq_some {room : Option Nat} {items rest : Items α} {a : α}
    (hends : room = none → items.IsFinite) (h : items.next? room = some (a, rest)) :
    items.upTo room = a :: rest.upTo (room.map Nat.pred) ∧ (room.map Nat.pred = none → rest.IsFinite) := by
  cases items with
  | finite items =>
    cases items with
    | nil => rcases room with _ | _ | n <;> cases h
    | cons item rest =>
      rcases room with _ | _ | n
      · cases h
        exact ⟨rfl, fun _ => trivial⟩
      · cases h
      · cases h
        exact ⟨rfl, fun _ => trivial⟩
  | endless item =>
    rcases room with _ | _ | n
    · exact (hends rfl).elim
    · cases h
    · cases h
      exact ⟨by simp [upTo, List.range_succ_eq_map], nofun⟩

end Items

namespace Walk

variable {σ α : Type}

def take (walk : Walk σ α) (rest : Items (Plan σ α)) (result : α) : Walk σ α :=
  ⟨walk.taken ++ [result], rest, walk.room.map Nat.pred⟩

/-- The plan for the next item, or what the collection is captured as when there is none. -/
def next (collect : List α → Datum) (again : Walk σ α → Outcome σ) (walk : Walk σ α) : Plan σ (Outcome σ) :=
  match walk.rest.next? walk.room with
  | none => .finish (.done (collect walk.taken))
  | some (plan, rest) => plan.map fun result => again (walk.take rest result)

variable {factory : Factory σ} {P : View σ → Prop} {walk : Walk σ α} {plan : Plan σ α}
  {rest : Items (Plan σ α)}

theorem run_of_next?_eq_none (h : walk.rest.next? walk.room = none) : walk.run factory = pure walk.taken := by
  rw [run, Items.upTo_of_next?_eq_none h]
  simp [Logged.all, Logged.map, pure]

theorem run_of_next?_eq_some (hends : walk.room = none → walk.rest.IsFinite)
    (h : walk.rest.next? walk.room = some (plan, rest)) :
    walk.run factory = (plan.run factory).bind fun result => (walk.take rest result).run factory := by
  rw [run, (Items.upTo_of_next?_eq_some hends h).1, List.map_cons, Logged.all_cons]
  simp [run, take, Logged.map, Logged.bind]

theorem Keeps.take (hwalk : walk.Keeps P) (h : walk.rest.next? walk.room = some (plan, rest)) :
    plan.Keeps P (fun _ => True) ∧ ∀ result, (walk.take rest result).Keeps P := by
  obtain ⟨hupTo, hends⟩ := Items.upTo_of_next?_eq_some hwalk.ends h
  have hplans := hwalk.plans
  rw [hupTo] at hplans
  obtain ⟨hplan, hrest⟩ := List.forall_mem_cons.mp hplans
  exact ⟨hplan, fun _ => ⟨hends, hrest⟩⟩

end Walk

inductive Task (σ : Type)
  | look (v : View σ) (mode : Mode)
  | follow (plan : Plan σ (Outcome σ))

/-- The capturing of a value on its way. Waiting are the conversions that have asked for another value and go on
with what it is captured as, the innermost first. -/
inductive Progress (σ : Type)
  | working (task : Task σ) (waiting : List (Datum → Plan σ (Outcome σ))) (log : List Diagnostic)
  | ended (captured : Logged Datum)

namespace Progress

variable {σ : Type}

def start (v : View σ) (mode : Mode) : Progress σ :=
  working (.look v mode) [] []

/-- How many conversions are under way. -/
def depth : Progress σ → Nat
  | working _ waiting _ => waiting.length + 1
  | ended _ => 0

end Progress

namespace Settings

variable {σ : Type} (s : Settings σ) (view : σ → View σ) (rules : List (Rule σ))

/-- A value is looked at without the outermost of the optionals around it, if there are any. -/
def look (v : View σ) (mode : Mode) : Task σ :=
  if v.isNothing then .follow (.finish (.done .null))
  else if mode = .stringify then .follow (.finish (.done (s.cutText v.front.text)))
  else
    match v.wrappers with
    | _ :: inner => .look { v with wrappers := inner } mode
    | [] => .follow (s.levelPlan view rules mode v)

/-- One step of capturing. -/
def advance : Progress σ → Progress σ
  | .working (.look v mode) waiting log => .working (s.look view rules v mode) waiting log
  | .working (.follow (.report d next)) waiting log => .working (.follow next) waiting (log ++ [d])
  | .working (.follow (.ask v mode next)) waiting log =>
    if s.limits.maxDepth ≤ waiting.length + 1 then
      .working (.follow (next .null)) waiting (log ++ [.depthReached s.limits.maxDepth v.front.typeName])
    else .working (.look v mode) (next :: waiting) log
  | .working (.follow (.finish (.sequence walk))) waiting log =>
    .working (.follow (walk.next .sequence .sequence)) waiting log
  | .working (.follow (.finish (.dictionary walk))) waiting log =>
    .working (.follow (walk.next (fun entries => .dictionary (Entries.ofList entries)) .dictionary)) waiting log
  | .working (.follow (.finish (.done captured))) (next :: waiting) log =>
    .working (.follow (next captured)) waiting log
  | .working (.follow (.finish (.done captured))) [] log => .ended ⟨captured, log⟩
  | .ended captured => .ended captured

def Leads (a b : Progress σ) : Prop :=
  ∃ n, (s.advance view rules)^[n] a = b

/-- A conversion that has captured its value. -/
def delivered (captured : Logged Datum) (waiting : List (Datum → Plan σ (Outcome σ))) (log : List Diagnostic) :
    Progress σ :=
  .working (.follow (.finish (.done captured.value))) waiting (log ++ captured.log)

variable {s view rules} {a b c : Progress σ} {waiting : List (Datum → Plan σ (Outcome σ))} {log : List Diagnostic}
  {levels : Nat} {P : View σ → Prop}

theorem depth_advance_le (h : a.depth ≤ s.limits.maxDepth) :
    (s.advance view rules a).depth ≤ s.limits.maxDepth := by
  cases a with
  | ended captured => exact h
  | working task waiting log =>
    have hwaiting : waiting.length + 1 ≤ s.limits.maxDepth := h
    cases task with
    | look v mode => exact hwaiting
    | follow plan =>
      cases plan with
      | report d next => exact hwaiting
      | ask v mode next =>
        rw [advance]
        split
        next => exact hwaiting
        next hlt =>
          rw [Progress.depth, List.length_cons]
          omega
      | finish outcome =>
        cases outcome with
        | sequence walk => exact hwaiting
        | dictionary walk => exact hwaiting
        | done captured =>
          cases waiting with
          | nil => exact Nat.zero_le _
          | cons next waiting => exact Nat.le_of_succ_le hwaiting

theorem depth_iterate_advance_le (hpos : 0 < s.limits.maxDepth) (v : View σ) (mode : Mode) (n : Nat) :
    ((s.advance view rules)^[n] (.start v mode)).depth ≤ s.limits.maxDepth := by
  induction n with
  | zero => exact hpos
  | succ n ih =>
    rw [Function.iterate_succ_apply']
    exact depth_advance_le ih

theorem Leads.refl (a : Progress σ) : s.Leads view rules a a :=
  ⟨0, rfl⟩

theorem Leads.trans (hab : s.Leads view rules a b) (hbc : s.Leads view rules b c) : s.Leads view rules a c := by
  obtain ⟨n, rfl⟩ := hab
  obtain ⟨m, rfl⟩ := hbc
  exact ⟨m + n, Function.iterate_add_apply _ m n a⟩

theorem leads_advance (a : Progress σ) : s.Leads view rules a (s.advance view rules a) :=
  ⟨1, rfl⟩

theorem Leads.of_advance (h : s.Leads view rules (s.advance view rules a) b) : s.Leads view rules a b :=
  (leads_advance a).trans h

/-- The given levels are enough for a value to be captured in finitely many steps. -/
def Delivers (s : Settings σ) (view : σ → View σ) (rules : List (Rule σ)) (levels : Nat) (v : View σ) : Prop :=
  ∀ mode waiting log, waiting.length + levels = s.limits.maxDepth → 0 < levels →
    s.Leads view rules (.working (.look v mode) waiting log)
      (delivered (s.captureView view levels v mode) waiting log)

theorem leads_ask (hdepth : waiting.length + levels + 1 = s.limits.maxDepth) {v : View σ}
    (hv : s.Delivers view rules levels v) (mode : Mode) (next : Datum → Plan σ (Outcome σ)) :
    s.Leads view rules (.working (.follow (.ask v mode next)) waiting log)
      (.working (.follow (next (s.captureView view levels v mode).value)) waiting
        (log ++ (s.captureView view levels v mode).log)) := by
  refine Leads.of_advance ?_
  rw [advance]
  cases levels with
  | zero =>
    rw [if_pos (by omega)]
    exact Leads.refl _
  | succ levels =>
    rw [if_neg (by omega)]
    refine (hv mode (next :: waiting) log ?_ (Nat.succ_pos levels)).trans (leads_advance _)
    rw [List.length_cons]
    omega

theorem delivered_bind {α : Type} (x : Logged α) (f : α → Logged Datum) :
    delivered (x.bind f) waiting log = delivered (f x.value) waiting (log ++ x.log) := by
  simp [delivered, Logged.bind]

theorem delivered_pure (captured : Datum) :
    delivered (pure captured) waiting log = .working (.follow (.finish (.done captured))) waiting log := by
  simp [delivered, pure]

theorem leads_done (captured : Datum) :
    s.Leads view rules (.working (.follow (.finish (.done captured))) waiting log)
      (delivered (pure captured) waiting log) :=
  delivered_pure captured ▸ Leads.refl _

section Levels

variable (hdepth : waiting.length + levels + 1 = s.limits.maxDepth) (hP : ∀ v, P v → s.Delivers view rules levels v)

include hdepth hP

theorem leads_bind {α : Type} {Q : α → Prop} {plan : Plan σ α} (hplan : plan.Keeps P Q)
    (f : α → Plan σ (Outcome σ)) (log : List Diagnostic) :
    s.Leads view rules (.working (.follow (plan.bind f)) waiting log)
      (.working (.follow (f (plan.run (s.captureView view levels)).value)) waiting
        (log ++ (plan.run (s.captureView view levels)).log)) := by
  induction plan generalizing log with
  | finish result =>
    rw [Plan.run]
    simpa [pure, Plan.bind] using Leads.refl _
  | report d next ih =>
    have hnext := ih hplan (log ++ [d])
    rw [List.append_assoc] at hnext
    exact Leads.of_advance hnext
  | ask v mode next ih =>
    refine (leads_ask hdepth (hP v hplan.1) mode _).trans ?_
    have hnext := ih (s.captureView view levels v mode).value (hplan.2 _)
      (log ++ (s.captureView view levels v mode).log)
    rw [List.append_assoc] at hnext
    exact hnext

theorem leads_walk {α : Type} {collect : List α → Datum} {again : Walk σ α → Outcome σ}
    (hagain : ∀ walk log, s.advance view rules (.working (.follow (.finish (again walk))) waiting log) =
      .working (.follow (walk.next collect again)) waiting log)
    {walk : Walk σ α} (hwalk : walk.Keeps P) :
    s.Leads view rules (.working (.follow (.finish (again walk))) waiting log)
      (delivered ((walk.run (s.captureView view levels)).map collect) waiting log) := by
  -- The items that are kept come to an end, whatever the collection does.
  induction hkept : walk.rest.upTo walk.room generalizing walk log with
  | nil =>
    refine Leads.of_advance ?_
    rw [hagain, Walk.next]
    cases hnext : walk.rest.next? walk.room with
    | none =>
      rw [Walk.run_of_next?_eq_none hnext]
      exact leads_done (collect walk.taken)
    | some item =>
      have hcons := (Items.upTo_of_next?_eq_some hwalk.ends hnext).1
      simp [hkept] at hcons
  | cons plan kept ih =>
    refine Leads.of_advance ?_
    rw [hagain, Walk.next]
    cases hnext : walk.rest.next? walk.room with
    | none => simp [Items.upTo_of_next?_eq_none hnext] at hkept
    | some item =>
      obtain ⟨first, rest⟩ := item
      have hcons := (Items.upTo_of_next?_eq_some hwalk.ends hnext).1
      rw [hkept] at hcons
      obtain ⟨rfl, rfl⟩ := List.cons.inj hcons
      obtain ⟨hplan, htake⟩ := hwalk.take hnext
      refine (leads_bind hdepth hP hplan _ log).trans ?_
      rw [Walk.run_of_next?_eq_some hwalk.ends hnext, Logged.map_bind, delivered_bind]
      exact ih (htake _) rfl

theorem leads_outcome {outcome : Outcome σ} (ho : outcome.Keeps P) :
    s.Leads view rules (.working (.follow (.finish outcome)) waiting log)
      (delivered (outcome.run (s.captureView view levels)) waiting log) := by
  cases outcome with
  | done captured => exact leads_done captured
  | sequence walk => exact leads_walk hdepth hP (fun _ _ => rfl) ho
  | dictionary walk => exact leads_walk hdepth hP (fun _ _ => rfl) ho

theorem leads_plan {plan : Plan σ (Outcome σ)} (hplan : plan.Keeps P (Outcome.Keeps P)) :
    s.Leads view rules (.working (.follow plan) waiting log)
      (delivered ((plan.run (s.captureView view levels)).bind (Outcome.run (s.captureView view levels))) waiting
        log) := by
  have hrun := leads_bind hdepth hP hplan .finish log
  rw [Plan.bind_finish] at hrun
  rw [delivered_bind]
  exact hrun.trans (leads_outcome hdepth hP hplan.run)

end Levels

theorem leads_inside {v : View σ} {mode : Mode} (hmode : mode ≠ .stringify) :
    s.Leads view rules (.working (.look v mode) waiting log)
      (.working (s.look view rules v.inside mode) waiting log) := by
  obtain ⟨wrappers, face, shape⟩ := v
  induction wrappers with
  | nil => exact leads_advance _
  | cons outer wrappers ih =>
    have hlook : s.look view rules ⟨outer :: wrappers, face, shape⟩ mode =
        .look ⟨wrappers, face, shape⟩ mode := by
      simp [look, View.isNothing, hmode]
    refine Leads.of_advance ?_
    rw [advance, hlook]
    exact ih

theorem delivers_succ (hrules : s.policies = rules.map Rule.policy) {root v : View σ}
    (hP : ∀ v, Met view rules root v → s.Delivers view rules levels v) (hv : Met view rules root v)
    (hfinite : s.limits.maxItems = none → v.IsFinite) : s.Delivers view rules (levels + 1) v := by
  intro mode waiting log hdepth _
  rw [captureView]
  by_cases hmode : mode = .stringify
  · refine Leads.of_advance ?_
    rw [advance, look, level]
    split
    next => exact leads_done _
    next => exact leads_done _
  · refine (leads_inside hmode).trans ?_
    cases hshape : v.shape.isNothing with
    | true =>
      have hlook : s.look view rules v.inside mode = .follow (.finish (.done .null)) := by
        simp [look, View.isNothing, View.inside, hshape]
      have hlevel : s.level view (s.captureView view levels) mode v = pure .null := by
        simp [level, hmode, hshape]
      rw [hlook, hlevel]
      exact leads_done _
    | false =>
      have hlook : s.look view rules v.inside mode = .follow (s.levelPlan view rules mode v.inside) := by
        simp [look, View.isNothing, View.inside, hmode, hshape]
      rw [hlook, ← run_levelPlan hrules hmode hshape]
      exact leads_plan hdepth hP (keeps_levelPlan hv hfinite)

theorem delivers (hrules : s.policies = rules.map Rule.policy) {root : View σ}
    (hfinite : ∀ v, Met view rules root v → s.limits.maxItems = none → v.IsFinite) (levels : Nat) :
    ∀ v, Met view rules root v → s.Delivers view rules levels v := by
  -- Nothing but the levels gets smaller: a part may well be the value that it is a part of.
  induction levels with
  | zero => exact fun _ _ _ _ _ _ hpos => absurd hpos (Nat.lt_irrefl 0)
  | succ levels ih => exact fun v hv => delivers_succ hrules ih hv (hfinite v hv)

/-- Capturing comes to an end after finitely many steps, with what is captured, and at no time more conversions are
under way than the depth limit allows. -/
theorem advance_ends (s : Settings σ) (hs : s.checked = .ok s) (rules : List (Rule σ))
    (hrules : s.policies = rules.map Rule.policy) (view : σ → View σ) (root : σ) (mode : Mode)
    (hfinite : ∀ v, Met view rules (view root) v → s.limits.maxItems = none → v.IsFinite) :
    (∃ n, (s.advance view rules)^[n] (.start (view root) mode) = .ended (s.capture view root mode)) ∧
      ∀ n, ((s.advance view rules)^[n] (.start (view root) mode)).depth ≤ s.limits.maxDepth := by
  have hpos : 0 < s.limits.maxDepth := by
    rw [checked] at hs
    split at hs
    next => cases hs
    next hne => exact Nat.pos_of_ne_zero hne
  refine ⟨?_, depth_iterate_advance_le hpos (view root) mode⟩
  have hdelivers := delivers hrules hfinite s.limits.maxDepth (view root) .root
  exact (hdelivers mode [] [] (Nat.zero_add _) hpos).trans (leads_advance _)

/-- A list, in an optional, that contains itself and a voice. -/
def echoes (items : Items Bool) : Bool → View Bool
  | true => ⟨[⟨"Option", "Some(Echoes)", .named "Option" false⟩], ⟨"Echoes", "Echoes", .named "Echoes" false⟩,
    .sequence items⟩
  | false => ⟨[], ⟨"Voice", "Voice", .named "Voice" false⟩, .object []⟩

/-- A voice is captured as what it is captured as itself, twice. -/
def twice : Rule Bool := fun v =>
  if v.face.typeName = "Voice" then
    .ask v .destructure fun captured => .finish (some (.sequence [captured, captured]))
  else .finish none

def hearing (maxItems : Option Nat) : Settings Bool where
  limits := { maxDepth := 3, maxItems := maxItems }
  policies := [Rule.policy twice]

theorem isFinite_of_met_echoes {items : List Bool} {v : View Bool}
    (h : Met (echoes (.finite items)) [twice] (echoes (.finite items) true) v) : v.IsFinite := by
  induction h with
  | root => trivial
  | @part v w _ _ _ => cases w <;> trivial
  | @asked v u rule _ hrule hasks ih =>
    obtain rfl := List.mem_singleton.mp hrule
    rw [twice] at hasks
    split at hasks
    next =>
      obtain rfl : u = v.inside := by simpa [Plan.Asks] using hasks
      exact ih
    next => exact hasks.elim

/-- What the echoes are captured as: two levels of lists and, below them, whatever lies too deep. -/
def echoed : Datum :=
  .sequence [.sequence (List.replicate 2 (.sequence [.null, .null])),
    .sequence (List.replicate 2 (.sequence [.null, .null]))]

theorem advance_ends_echoes :
    let endless := echoes (.endless fun n => n % 2 = 0)
    let finite := echoes (.finite [true, false])
    ((hearing (some 2)).checked = .ok (hearing (some 2)) ∧ (hearing none).checked = .ok (hearing none) ∧
      ∀ limit, (hearing limit).policies = [twice].map Rule.policy) ∧
    ((∀ v, Met endless [twice] (endless true) v → (hearing (some 2)).limits.maxItems = none → v.IsFinite) ∧
      ∀ v, Met finite [twice] (finite true) v → (hearing none).limits.maxItems = none → v.IsFinite) ∧
    (((hearing (some 2)).capture endless true .destructure).value = echoed ∧
      ((hearing none).capture finite true .destructure).value = echoed) ∧
    ((∃ n, ((hearing (some 2)).advance endless [twice])^[n] (.start (endless true) .destructure) =
        .ended ((hearing (some 2)).capture endless true .destructure)) ∧
      ∀ n, (((hearing (some 2)).advance endless [twice])^[n] (.start (endless true) .destructure)).depth ≤ 3) ∧
    (∃ n, ((hearing none).advance finite [twice])^[n] (.start (finite true) .destructure) =
        .ended ((hearing none).capture finite true .destructure)) ∧
      ∀ n, (((hearing none).advance finite [twice])^[n] (.start (finite true) .destructure)).depth ≤ 3 := by
  refine ⟨⟨rfl, rfl, fun _ => rfl⟩, ⟨fun _ _ => nofun, fun _ hv _ => isFinite_of_met_echoes hv⟩, ⟨rfl, rfl⟩, ?_, ?_⟩
  · exact advance_ends (hearing (some 2)) rfl [twice] rfl _ true .destructure fun _ _ => nofun
  · exact advance_ends (hearing none) rfl [twice] rfl _ true .destructure fun _ hv _ => isFinite_of_met_echoes hv

end Settings

end StructuredMessage
