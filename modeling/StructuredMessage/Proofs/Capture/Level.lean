import StructuredMessage.Proofs.Capture.Plan

namespace StructuredMessage

namespace Items

variable {α β : Type}

def map (f : α → β) : Items α → Items β
  | finite items => finite (items.map f)
  | endless item => endless fun n => f (item n)

instance : Membership α (Items α) where
  mem items a :=
    match items with
    | finite items => a ∈ items
    | endless item => ∃ n, item n = a

theorem upTo_map (room : Option Nat) (f : α → β) (items : Items α) :
    (items.map f).upTo room = (items.upTo room).map f := by
  cases items with
  | finite items => cases room <;> simp [map, upTo]
  | endless item => cases room <;> simp [map, upTo]

theorem IsFinite.map {items : Items α} (h : items.IsFinite) (f : α → β) : (items.map f).IsFinite := by
  cases items with
  | finite items => trivial
  | endless item => exact h

theorem mem_of_mem_upTo {room : Option Nat} {items : Items α} {a : α} (h : a ∈ items.upTo room) : a ∈ items := by
  cases items with
  | finite items =>
    cases room with
    | none => exact h
    | some n => exact List.mem_of_mem_take h
  | endless item =>
    cases room with
    | none => exact absurd h List.not_mem_nil
    | some n =>
      obtain ⟨i, -, hi⟩ := List.mem_map.mp h
      exact ⟨i, hi⟩

end Items

/-- A collection on the way through it: what its first items came to, the plans for the others and for how many
of these there is room. -/
structure Walk (σ α : Type) where
  taken : List α
  rest : Items (Plan σ α)
  room : Option Nat

namespace Walk

variable {σ α : Type}

def run (factory : Factory σ) (walk : Walk σ α) : Logged (List α) :=
  (Logged.all ((walk.rest.upTo walk.room).map (Plan.run factory))).map fun results => walk.taken ++ results

structure Keeps (P : View σ → Prop) (walk : Walk σ α) : Prop where
  ends : walk.room = none → walk.rest.IsFinite
  plans : ∀ plan ∈ walk.rest.upTo walk.room, plan.Keeps P fun _ => True

end Walk

/-- What taking a value apart comes to before its items are captured. -/
inductive Outcome (σ : Type)
  | done (captured : Datum)
  | sequence (walk : Walk σ Datum)
  | dictionary (walk : Walk σ (Scalar × Datum))

namespace Outcome

variable {σ : Type}

def run (factory : Factory σ) : Outcome σ → Logged Datum
  | done captured => pure captured
  | sequence walk => (walk.run factory).map .sequence
  | dictionary walk => (walk.run factory).map fun entries => .dictionary (Entries.ofList entries)

def Keeps (P : View σ → Prop) : Outcome σ → Prop
  | done _ => True
  | sequence walk => walk.Keeps P
  | dictionary walk => walk.Keeps P

end Outcome

/-- The parts of a value, those included for which there is no room. -/
inductive View.Lists {σ : Type} (v : View σ) : σ → Prop
  | item {items : Items σ} {w : σ} : v.shape = .sequence items → w ∈ items → Lists v w
  | key {keys : SubjectType} {entries : Items (σ × σ)} {e : σ × σ} :
    v.shape = .mapping keys entries → e ∈ entries → Lists v e.1
  | value {keys : SubjectType} {entries : Items (σ × σ)} {e : σ × σ} :
    v.shape = .mapping keys entries → e ∈ entries → Lists v e.2
  | member {members : List (Member σ)} {m : Member σ} {w : σ} :
    v.shape = .object members → m ∈ members → m.value = .ok w → Lists v w

theorem View.lists_of_inside {σ : Type} {v : View σ} {w : σ} (h : v.inside.Lists w) : v.Lists w := by
  cases h with
  | item hshape hw => exact .item hshape hw
  | key hshape he => exact .key hshape he
  | value hshape he => exact .value hshape he
  | member hshape hm hw => exact .member hshape hm hw

namespace Settings

variable {σ : Type} (s : Settings σ) (view : σ → View σ) (rules : List (Rule σ)) (mode : Mode)

def keyPlan (k : σ) : Plan σ Scalar :=
  .ask (view k) mode fun captured =>
    match captured with
    | .scalar value => .finish value
    | _ => .report (.keyNotScalar (view k).front.typeName) (.finish (.text (view k).front.text))

def entryPlan (e : σ × σ) : Plan σ (Scalar × Datum) :=
  (keyPlan view mode e.1).bind fun k => .ask (view e.2) mode fun value => .finish (k, value)

def pairPlan (e : σ × σ) : Plan σ Datum :=
  if mode = .destructure then
    .ask (view e.1) mode fun k =>
      .ask (view e.2) mode fun value => .finish (.tagged none [("key", k), ("value", value)])
  else .finish (s.cutText (entryText view e))

def memberPlan (m : Member σ) : Plan σ Property :=
  match m.value with
  | .ok value => .ask (view value) .destructure fun captured => .finish (m.name, captured)
  | .error e => .report (.accessorFailed m.name e) (.finish (m.name, .text (Outline.failureText e)))

def walk {α β : Type} (plan : α → Plan σ β) (items : Items α) : Walk σ β :=
  ⟨[], items.map plan, s.limits.maxItems⟩

def compositePlan (v : View σ) : Plan σ (Outcome σ) :=
  match v.shape with
  | .mapping keys entries =>
    if keys.isScalarKey ∨ keys ∈ s.scalarTypes then .finish (.dictionary (s.walk (entryPlan view mode) entries))
    else .finish (.sequence (s.walk (s.pairPlan view mode) entries))
  | .sequence items => .finish (.sequence (s.walk (fun item => .ask (view item) mode .finish) items))
  | .callable => .finish (.done (s.cutText v.face.text))
  | .object members =>
    if mode = .destructure then
      (Plan.all (members.map (memberPlan view))).map fun ps => .done (.tagged (some v.face.typeName) ps)
    else .finish (.done (s.cutText v.face.text))
  | _ =>
    if mode = .destructure then .finish (.done (.tagged (some v.face.typeName) []))
    else .finish (.done (s.cutText v.face.text))

/-- How a value without optionals around it is taken apart. -/
def levelPlan (v : View σ) : Plan σ (Outcome σ) :=
  match v.scalar? s.scalarTypes with
  | some value => .finish (.done (.scalar (s.limits.cutScalar value)))
  | none =>
    (if mode = .destructure then Rule.claim v rules else .finish none).bind fun answer =>
      match answer with
      | some captured => .finish (.done captured)
      | none => s.compositePlan view mode v

variable {s view rules mode} {factory : Factory σ}

theorem run_walk {α β : Type} (plan : α → Plan σ β) (items : Items α) :
    (s.walk plan items).run factory =
      Logged.all ((items.upTo s.limits.maxItems).map fun item => (plan item).run factory) := by
  rw [Walk.run, walk, Items.upTo_map, List.map_map]
  rfl

theorem run_keyPlan (k : σ) :
    (keyPlan view mode k).run factory = key view (fun part => factory (view part)) mode k := by
  rw [keyPlan, Plan.run, key]
  refine congrArg (Logged.bind _) (funext fun captured => ?_)
  cases captured <;> rfl

theorem run_entryPlan (e : σ × σ) :
    (entryPlan view mode e).run factory = entry view (fun part => factory (view part)) mode e := by
  rw [entryPlan, Plan.run_bind, run_keyPlan, entry]
  refine congrArg (Logged.bind _) (funext fun k => ?_)
  rw [Logged.map_eq_bind]
  rfl

theorem run_pairPlan (e : σ × σ) :
    (s.pairPlan view mode e).run factory = s.pair view (fun part => factory (view part)) mode e := by
  rw [pairPlan, pair]
  split
  next =>
    rw [Plan.run]
    refine congrArg (Logged.bind _) (funext fun k => ?_)
    rw [Logged.map_eq_bind]
    rfl
  next => rfl

theorem run_memberPlan (m : Member σ) :
    (memberPlan view m).run factory = member (fun part => factory (view part)) m := by
  rw [memberPlan, member]
  cases m.value with
  | ok value =>
    dsimp only
    rw [Logged.map_eq_bind]
    rfl
  | error e => rfl

theorem run_compositePlan (v : View σ) :
    ((s.compositePlan view mode v).run factory).bind (Outcome.run factory) =
      s.composite view (fun part => factory (view part)) mode v := by
  rw [compositePlan, composite]
  cases v.shape with
  | mapping keys entries =>
    dsimp only
    rw [mapping]
    split
    next =>
      have hentry : (fun e => (entryPlan view mode e).run factory) =
          entry view (fun part => factory (view part)) mode := funext run_entryPlan
      rw [← hentry, ← run_walk]
      rfl
    next =>
      have hpair : (fun e => (s.pairPlan view mode e).run factory) =
          s.pair view (fun part => factory (view part)) mode := funext run_pairPlan
      rw [← hpair, ← run_walk]
      rfl
  | sequence items =>
    have hitem : ∀ item, (Plan.ask (view item) mode .finish).run factory = factory (view item) mode :=
      fun item => Logged.bind_pure _
    dsimp only
    rw [← funext hitem, ← run_walk]
    rfl
  | object members =>
    dsimp only
    split
    next =>
      have hmembers : members.map (member fun part => factory (view part)) =
          (members.map (memberPlan view)).map (Plan.run factory) := by
        rw [List.map_map, ← funext run_memberPlan]
        rfl
      rw [Plan.run_map, hmembers, ← Plan.run_all]
      exact (Logged.map_eq_bind _ _).symm
    next => rfl
  | callable => rfl
  | _ => dsimp only; split <;> rfl

/-- The plan for one level, its items included, captures what one level of capturing does. -/
theorem run_levelPlan (hrules : s.policies = rules.map Rule.policy) {v : View σ} (hmode : mode ≠ .stringify)
    (hv : v.shape.isNothing = false) :
    ((s.levelPlan view rules mode v.inside).run factory).bind (Outcome.run factory) =
      s.level view factory mode v := by
  have hclaim : (if mode = .destructure then Rule.claim v.inside rules else .finish none).run factory =
      if mode = .destructure then v.inside.firstAnswer factory s.policies else pure none := by
    split
    next => rw [Rule.run_claim, hrules]
    next => rfl
  have hsome : v.isNothing = false := by rw [View.isNothing, hv, Bool.and_false]
  have hscalar : v.inside.scalar? s.scalarTypes = v.scalar? s.scalarTypes := rfl
  rw [levelPlan, level, hsome, hv, hscalar, if_neg hmode]
  cases v.scalar? s.scalarTypes with
  | some value => rfl
  | none =>
    simp only [Plan.run_bind, hclaim, Logged.bind_assoc, Bool.false_eq_true, if_false]
    refine congrArg (Logged.bind _) (funext fun answer => ?_)
    cases answer with
    | some captured => rfl
    | none => exact run_compositePlan v.inside

end Settings

/-- What may be captured on the way to a value: the parts of the values met and what the rules ask for. -/
inductive Met {σ : Type} (view : σ → View σ) (rules : List (Rule σ)) (root : View σ) : View σ → Prop
  | root : Met view rules root root
  | part {v : View σ} {w : σ} : Met view rules root v → v.Lists w → Met view rules root (view w)
  | asked {v u : View σ} {rule : Rule σ} :
    Met view rules root v → rule ∈ rules → (rule v.inside).Asks u → Met view rules root u

namespace Settings

variable {σ : Type} {s : Settings σ} {view : σ → View σ} {rules : List (Rule σ)} {mode : Mode}
  {P : View σ → Prop}

theorem keeps_walk {α β : Type} {plan : α → Plan σ β} {items : Items α}
    (hends : s.limits.maxItems = none → items.IsFinite)
    (h : ∀ item ∈ items, (plan item).Keeps P fun _ => True) : (s.walk plan items).Keeps P where
  ends hroom := (hends hroom).map plan
  plans p hp := by
    rw [walk, Items.upTo_map] at hp
    obtain ⟨item, hitem, rfl⟩ := List.mem_map.mp hp
    exact h item (Items.mem_of_mem_upTo hitem)

theorem keeps_keyPlan {k : σ} (hk : P (view k)) : (keyPlan view mode k).Keeps P fun _ => True := by
  refine ⟨hk, fun captured => ?_⟩
  cases captured <;> trivial

theorem keeps_pairPlan {e : σ × σ} (hk : P (view e.1)) (hv : P (view e.2)) :
    (s.pairPlan view mode e).Keeps P fun _ => True := by
  rw [pairPlan]
  split
  next => exact ⟨hk, fun _ => ⟨hv, fun _ => trivial⟩⟩
  next => trivial

theorem keeps_compositePlan {v : View σ} (hfinite : s.limits.maxItems = none → v.IsFinite)
    (hparts : ∀ w, v.Lists w → P (view w)) : (s.compositePlan view mode v).Keeps P (Outcome.Keeps P) := by
  rw [compositePlan]
  cases hshape : v.shape with
  | mapping keys entries =>
    have hends : s.limits.maxItems = none → entries.IsFinite := by simpa [View.IsFinite, hshape] using hfinite
    have hkey : ∀ e ∈ entries, P (view e.1) := fun e he => hparts e.1 (.key hshape he)
    have hvalue : ∀ e ∈ entries, P (view e.2) := fun e he => hparts e.2 (.value hshape he)
    dsimp only
    split
    next =>
      refine keeps_walk hends fun e he => (keeps_keyPlan (hkey e he)).bind fun _ _ => ?_
      exact ⟨hvalue e he, fun _ => trivial⟩
    next => exact keeps_walk hends fun e he => keeps_pairPlan (hkey e he) (hvalue e he)
  | sequence items =>
    have hends : s.limits.maxItems = none → items.IsFinite := by simpa [View.IsFinite, hshape] using hfinite
    exact keeps_walk hends fun item hitem => ⟨hparts item (.item hshape hitem), fun _ => trivial⟩
  | object members =>
    dsimp only
    split
    next =>
      refine Plan.Keeps.map (Plan.keeps_all fun plan hplan => ?_) fun _ _ => trivial
      obtain ⟨m, hm, rfl⟩ := List.mem_map.mp hplan
      rw [memberPlan]
      cases hvalue : m.value with
      | ok value => exact ⟨hparts value (.member hshape hm hvalue), fun _ => trivial⟩
      | error e => trivial
    next => trivial
  | callable => trivial
  | _ => dsimp only; split <;> trivial

/-- The plan for a value that was met asks only for what is met with it. -/
theorem keeps_levelPlan {root v : View σ} (hv : Met view rules root v)
    (hfinite : s.limits.maxItems = none → v.IsFinite) :
    (s.levelPlan view rules mode v.inside).Keeps (Met view rules root) (Outcome.Keeps (Met view rules root)) := by
  rw [levelPlan]
  cases v.inside.scalar? s.scalarTypes with
  | some value => trivial
  | none =>
    have hclaim : (if mode = .destructure then Rule.claim v.inside rules else .finish none).Keeps
        (Met view rules root) fun _ => True := by
      split
      next => exact Rule.keeps_claim fun rule hrule u hu => hv.asked hrule hu
      next => trivial
    refine hclaim.bind fun answer _ => ?_
    cases answer with
    | some captured => trivial
    | none => exact keeps_compositePlan hfinite fun w hw => hv.part (View.lists_of_inside hw)

end Settings

end StructuredMessage
