import StructuredMessage.Proofs.Capture.Outline

namespace StructuredMessage

/-- A course of action in which values are captured one after the other. It comes to an end after finitely many
of them, whatever they are captured as. -/
inductive Plan (σ α : Type)
  | finish (result : α)
  | report (d : Diagnostic) (next : Plan σ α)
  | ask (v : View σ) (mode : Mode) (next : Datum → Plan σ α)

namespace Plan

variable {σ α β : Type} {factory : Factory σ} {P : View σ → Prop} {Q : α → Prop} {R : β → Prop}

def bind : Plan σ α → (α → Plan σ β) → Plan σ β
  | finish result, f => f result
  | report d next, f => .report d (next.bind f)
  | ask v mode next, f => .ask v mode fun captured => (next captured).bind f

def map (f : α → β) (plan : Plan σ α) : Plan σ β :=
  plan.bind fun result => finish (f result)

def all : List (Plan σ α) → Plan σ (List α)
  | [] => finish []
  | plan :: rest => plan.bind fun result => (all rest).map fun results => result :: results

/-- The plan with every value captured by `factory`. -/
def run (factory : Factory σ) : Plan σ α → Logged α
  | finish result => pure result
  | report d next => (Logged.reporting d ()).bind fun _ => next.run factory
  | ask v mode next => (factory v mode).bind fun captured => (next captured).run factory

/-- What a plan may ask for, depending on what it got before. -/
def Asks (u : View σ) : Plan σ α → Prop
  | finish _ => False
  | report _ next => next.Asks u
  | ask v _ next => u = v ∨ ∃ captured, (next captured).Asks u

/-- Everything that may be asked for satisfies `P`, and every result `Q`. -/
def Keeps (P : View σ → Prop) (Q : α → Prop) : Plan σ α → Prop
  | finish result => Q result
  | report _ next => next.Keeps P Q
  | ask v _ next => P v ∧ ∀ captured, (next captured).Keeps P Q

theorem bind_finish (plan : Plan σ α) : plan.bind finish = plan := by
  induction plan with
  | finish result => rfl
  | report d next ih => rw [bind, ih]
  | ask v mode next ih => rw [bind, funext ih]

theorem run_bind (plan : Plan σ α) (f : α → Plan σ β) :
    (plan.bind f).run factory = (plan.run factory).bind fun result => (f result).run factory := by
  induction plan with
  | finish result => rfl
  | report d next ih => rw [bind, run, run, ih, Logged.bind_assoc]
  | ask v mode next ih =>
    rw [bind, run, run, Logged.bind_assoc]
    exact congrArg (Logged.bind _) (funext ih)

theorem run_map (f : α → β) (plan : Plan σ α) : (plan.map f).run factory = (plan.run factory).map f := by
  rw [map, run_bind, Logged.map_eq_bind]
  rfl

theorem run_all (plans : List (Plan σ α)) :
    (all plans).run factory = Logged.all (plans.map (run factory)) := by
  induction plans with
  | nil => rfl
  | cons plan rest ih => simp only [all, run_bind, run_map, ih, List.map_cons, Logged.all_cons]

theorem keeps_of_asks {plan : Plan σ α} (h : ∀ u, plan.Asks u → P u) : plan.Keeps P fun _ => True := by
  induction plan with
  | finish result => trivial
  | report d next ih => exact ih h
  | ask v mode next ih =>
    exact ⟨h v (.inl rfl), fun captured => ih captured fun u hu => h u (.inr ⟨captured, hu⟩)⟩

theorem Keeps.bind {plan : Plan σ α} {f : α → Plan σ β} (h : plan.Keeps P Q)
    (hf : ∀ result, Q result → (f result).Keeps P R) : (plan.bind f).Keeps P R := by
  induction plan with
  | finish result => exact hf result h
  | report d next ih => exact ih h
  | ask v mode next ih => exact ⟨h.1, fun captured => ih captured (h.2 captured)⟩

theorem Keeps.map {plan : Plan σ α} {f : α → β} (h : plan.Keeps P Q)
    (hf : ∀ result, Q result → R (f result)) : (plan.map f).Keeps P R :=
  h.bind hf

theorem keeps_all {plans : List (Plan σ α)} (h : ∀ plan ∈ plans, plan.Keeps P fun _ => True) :
    (all plans).Keeps P fun _ => True := by
  induction plans with
  | nil => trivial
  | cons plan rest ih =>
    obtain ⟨hplan, hrest⟩ := List.forall_mem_cons.mp h
    exact hplan.bind fun _ _ => (ih hrest).map fun _ _ => trivial

theorem Keeps.run {plan : Plan σ α} (h : plan.Keeps P Q) : Q (plan.run factory).value := by
  induction plan with
  | finish result => exact h
  | report d next ih => exact ih h
  | ask v mode next ih => exact ih _ (h.2 _)

end Plan

/-- A policy that makes finitely many calls. -/
abbrev Rule (σ : Type) := View σ → Plan σ (Option Datum)

namespace Rule

variable {σ : Type}

def policy (rule : Rule σ) : Policy σ :=
  fun v factory => (rule v).run factory

/-- The rules are asked one after the other until one of them does not decline. -/
def claim (v : View σ) : List (Rule σ) → Plan σ (Option Datum)
  | [] => .finish none
  | rule :: rest =>
    (rule v).bind fun answer =>
      match answer with
      | some captured => .finish (some captured)
      | none => claim v rest

theorem run_claim (factory : Factory σ) (v : View σ) (rules : List (Rule σ)) :
    (claim v rules).run factory = v.firstAnswer factory (rules.map policy) := by
  induction rules with
  | nil => rfl
  | cons rule rest ih =>
    rw [claim, Plan.run_bind, List.map_cons, View.firstAnswer, policy]
    refine congrArg (Logged.bind _) (funext fun answer => ?_)
    cases answer with
    | some captured => rfl
    | none => exact ih

theorem keeps_claim {P : View σ → Prop} {v : View σ} {rules : List (Rule σ)}
    (h : ∀ rule ∈ rules, ∀ u, (rule v).Asks u → P u) : (claim v rules).Keeps P fun _ => True := by
  induction rules with
  | nil => trivial
  | cons rule rest ih =>
    obtain ⟨hrule, hrest⟩ := List.forall_mem_cons.mp h
    refine (Plan.keeps_of_asks hrule).bind fun answer _ => ?_
    cases answer with
    | some captured => trivial
    | none => exact ih hrest

end Rule

end StructuredMessage
