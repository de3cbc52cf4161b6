import Mathlib.Data.List.Induction
import Mathlib.Logic.Function.Iterate

namespace StructuredMessage

namespace Text

def endsInPoint (out : String) : Bool :=
  out.toList.getLast? == some '.'

/-- The text without the point that it ends in, if it does. -/
def takePoint (out : String) : String :=
  if endsInPoint out then String.ofList out.toList.dropLast else out

/-- The text without up to `n` of the points at its end. -/
def takePoints (n : Nat) (out : String) : String :=
  takePoint^[n] out

/-- How many of `n` points are still to be taken from what stands before `written` once `written` has
given all that it can. -/
def excess (n : Nat) (written : String) : Nat :=
  if written.toList.all (· == '.') then n - written.length else 0

theorem toList_ne_nil {s : String} (h : s ≠ "") : s.toList ≠ [] := by
  simpa using h

theorem endsInPoint_append {out written : String} (h : written ≠ "") :
    endsInPoint (out ++ written) = endsInPoint written := by
  have hlast := List.getLast?_eq_some_getLast (toList_ne_nil h)
  simp [endsInPoint, List.getLast?_append, hlast]

theorem not_endsInPoint_of_append {out written : String} (h : endsInPoint (out ++ written) = false) :
    endsInPoint written = false := by
  by_cases hw : written = ""
  · rw [hw]
    rfl
  · rwa [endsInPoint_append hw] at h

theorem takePoint_of_not_endsInPoint {out : String} (h : endsInPoint out = false) :
    takePoint out = out := by
  simp [takePoint, h]

theorem takePoint_append {out written : String} (h : written ≠ "") :
    takePoint (out ++ written) = out ++ takePoint written := by
  unfold takePoint
  rw [endsInPoint_append h]
  split
  next =>
    rw [String.toList_append, List.dropLast_append_of_ne_nil (toList_ne_nil h), String.ofList_append,
      String.ofList_toList]
  next => rfl

theorem takePoint_push (s : String) : takePoint (s ++ ".") = s := by
  rw [takePoint_append (by decide)]
  simp [takePoint, endsInPoint]

theorem eq_append_of_endsInPoint {out : String} (h : endsInPoint out) :
    out = takePoint out ++ "." := by
  obtain ⟨front, hf⟩ := List.getLast?_eq_some_iff.mp (by simpa [endsInPoint] using h)
  have hout : out = String.ofList front ++ "." := by
    rw [← String.toList_inj, hf]
    simp
  rw [hout, takePoint_push]

theorem takePoints_succ (n : Nat) (out : String) :
    takePoints (n + 1) out = takePoints n (takePoint out) := rfl

theorem takePoints_add (m n : Nat) (out : String) :
    takePoints (m + n) out = takePoints m (takePoints n out) :=
  Function.iterate_add_apply ..

theorem takePoints_of_not_endsInPoint (n : Nat) {out : String} (h : endsInPoint out = false) :
    takePoints n out = out :=
  Function.iterate_fixed (takePoint_of_not_endsInPoint h) n

theorem takePoints_empty (n : Nat) : takePoints n "" = "" :=
  takePoints_of_not_endsInPoint n rfl

theorem length_takePoint_lt {out : String} (h : endsInPoint out) :
    (takePoint out).length < out.length := by
  have hlen := congrArg String.length (eq_append_of_endsInPoint h)
  have hone : ".".length = 1 := rfl
  rw [String.length_append, hone] at hlen
  omega

theorem length_takePoints_le (n : Nat) (out : String) : (takePoints n out).length ≤ out.length := by
  induction n generalizing out with
  | zero => exact Nat.le_refl _
  | succ n ih =>
    rw [takePoints_succ]
    by_cases h : endsInPoint out
    · exact Nat.le_trans (ih _) (Nat.le_of_lt (length_takePoint_lt h))
    · rw [takePoint_of_not_endsInPoint (by simpa using h)]
      exact ih out

theorem length_takePoints_lt {n : Nat} (hn : n ≠ 0) {out : String} (h : endsInPoint out) :
    (takePoints n out).length < out.length := by
  obtain ⟨m, rfl⟩ := Nat.exists_eq_succ_of_ne_zero hn
  exact Nat.lt_of_le_of_lt (length_takePoints_le m _) (length_takePoint_lt h)

theorem takePoints_eq_self_iff (n : Nat) (out : String) :
    takePoints n out = out ↔ n = 0 ∨ endsInPoint out = false := by
  constructor
  · intro h
    by_contra hh
    simp only [not_or, Bool.not_eq_false] at hh
    have := length_takePoints_lt hh.1 hh.2
    rw [h] at this
    omega
  · rintro (rfl | h)
    · rfl
    · exact takePoints_of_not_endsInPoint n h

theorem excess_empty (n : Nat) : excess n "" = n := by
  simp [excess]

theorem excess_zero (written : String) : excess 0 written = 0 := by
  simp [excess]

theorem excess_one_eq_zero_iff (written : String) : excess 1 written = 0 ↔ written ≠ "" := by
  constructor
  · rintro h rfl
    rw [excess_empty] at h
    exact absurd h (by decide)
  · intro h
    have hpos : 0 < written.length := by
      rw [← String.length_toList]
      exact List.length_pos_iff.mpr (toList_ne_nil h)
    unfold excess
    split
    next => omega
    next => rfl

theorem excess_takePoint {written : String} (h : written ≠ "") (n : Nat) :
    excess n (takePoint written) = excess (n + 1) written := by
  by_cases hp : endsInPoint written
  · rw [eq_append_of_endsInPoint hp]
    generalize takePoint written = front
    have hone : ".".length = 1 := rfl
    have hall : (front ++ ".").toList.all (· == '.') = front.toList.all (· == '.') := by simp
    rw [takePoint_push, excess, excess, hall, String.length_append, hone, Nat.add_sub_add_right]
  · have hnot : written.toList.all (· == '.') = false := by
      rw [List.all_eq_false]
      refine ⟨written.toList.getLast (toList_ne_nil h), List.getLast_mem _, ?_⟩
      simpa [endsInPoint, List.getLast?_eq_some_getLast (toList_ne_nil h)] using hp
    rw [takePoint_of_not_endsInPoint (by simpa using hp)]
    simp [excess, hnot]

/-- Points are taken from the end first; what is missing comes from further in front. -/
theorem takePoints_append (n : Nat) (out written : String) :
    takePoints n (out ++ written) = takePoints (excess n written) out ++ takePoints n written := by
  induction n generalizing written with
  | zero => simp [takePoints, excess]
  | succ n ih =>
    by_cases h : written = ""
    · subst h
      simp [excess_empty, takePoints_empty]
    · rw [takePoints_succ, takePoint_append h, ih, excess_takePoint h, takePoints_succ]

end Text

/-- What a writer does to the text before it: it takes up to `back` points from the end and puts `text`
behind the rest. -/
structure Edit where
  back : Nat
  text : String

namespace Edit

def apply (e : Edit) (out : String) : String :=
  Text.takePoints e.back out ++ e.text

/-- The edit that only adds. -/
def write (text : String) : Edit :=
  ⟨0, text⟩

/-- One edit and then another. The second one takes points from what the first one has written before it
takes any from further in front. -/
def andThen (e f : Edit) : Edit :=
  ⟨Text.excess f.back e.text + e.back, Text.takePoints f.back e.text ++ f.text⟩

def all (edits : List Edit) : Edit :=
  edits.foldl andThen (write "")

theorem apply_andThen (e f : Edit) (out : String) : (e.andThen f).apply out = f.apply (e.apply out) := by
  simp only [apply, andThen, Text.takePoints_append, Text.takePoints_add, String.append_assoc]

theorem apply_write (text out : String) : (write text).apply out = out ++ text := rfl

theorem foldl_apply (d : Edit) (edits : List Edit) (out : String) :
    edits.foldl (fun out e => e.apply out) (d.apply out) = (edits.foldl andThen d).apply out := by
  induction edits generalizing d with
  | nil => rfl
  | cons e edits ih => rw [List.foldl_cons, List.foldl_cons, ← apply_andThen, ih]

theorem apply_all (edits : List Edit) (out : String) :
    (all edits).apply out = edits.foldl (fun out e => e.apply out) out := by
  rw [all, ← foldl_apply, apply_write, String.append_empty]

theorem apply_empty (e : Edit) : e.apply "" = e.text := by
  rw [apply, Text.takePoints_empty, String.empty_append]

theorem all_concat (edits : List Edit) (e : Edit) : all (edits ++ [e]) = (all edits).andThen e := by
  rw [all, List.foldl_append]
  rfl

/-- A run takes nothing from what stands before it iff what its edits have written before each edit is enough
for that edit. -/
theorem back_all_eq_zero_iff (edits : List Edit) :
    (all edits).back = 0 ↔
      ∀ before e after, edits = before ++ e :: after → Text.excess e.back (all before).text = 0 := by
  induction edits using List.reverseRecOn with
  | nil =>
    refine ⟨fun _ before e after h => ?_, fun _ => rfl⟩
    simp at h
  | append_singleton edits last ih =>
    rw [all_concat, andThen, Nat.add_eq_zero_iff, ih]
    constructor
    · rintro ⟨hlast, hbefore⟩ before e after h
      rcases List.eq_nil_or_concat after with rfl | ⟨after, _, rfl⟩
      · obtain ⟨rfl, he⟩ := List.append_inj' h rfl
        rw [← List.singleton_inj.mp he]
        exact hlast
      · rw [List.concat_eq_append, ← List.cons_append, ← List.append_assoc] at h
        exact hbefore before e after (List.append_inj' h rfl).1
    · intro h
      refine ⟨h edits last [] rfl, fun before e after hedits => h before e (after ++ [last]) ?_⟩
      rw [hedits, List.append_assoc, List.cons_append]

/-- An edit adds its text and nothing else iff it takes no points or finds none. -/
theorem apply_eq_append_iff (e : Edit) (out : String) :
    e.apply out = out ++ e.text ↔ e.back = 0 ∨ Text.endsInPoint out = false := by
  rw [apply, String.append_left_inj, Text.takePoints_eq_self_iff]

theorem length_apply_le (e : Edit) (out : String) :
    (e.apply out).length ≤ out.length + e.text.length := by
  have := Text.length_takePoints_le e.back out
  rw [apply, String.length_append]
  omega

section Runs

variable {α : Type} (edit : α → Edit)

/-- The texts of the edits, one behind the other. -/
def joined (xs : List α) : String :=
  String.join (xs.map fun x => (edit x).text)

theorem joined_cons (x : α) (xs : List α) : joined edit (x :: xs) = (edit x).text ++ joined edit xs :=
  String.join_cons

theorem length_foldl_le (xs : List α) (out : String) :
    (xs.foldl (fun out x => (edit x).apply out) out).length ≤ out.length + (joined edit xs).length := by
  induction xs generalizing out with
  | nil => simp
  | cons x xs ih =>
    have hx := (edit x).length_apply_le out
    have hxs := ih ((edit x).apply out)
    rw [joined_cons, String.length_append]
    simp only [List.foldl_cons]
    omega

/-- A run of edits adds their texts and nothing else iff each edit takes no points or finds none at the
end of what was there and what the edits before it have added. -/
theorem foldl_eq_append_iff (xs : List α) (out : String) :
    xs.foldl (fun out x => (edit x).apply out) out = out ++ joined edit xs ↔
      ∀ before x after, xs = before ++ x :: after →
        (edit x).back = 0 ∨ Text.endsInPoint (out ++ joined edit before) = false := by
  induction xs generalizing out with
  | nil =>
    refine ⟨fun _ before x after h => ?_, fun _ => by simp [joined]⟩
    simp at h
  | cons x xs ih =>
    by_cases hx : (edit x).back = 0 ∨ Text.endsInPoint out = false
    · have hfirst := ((edit x).apply_eq_append_iff out).mpr hx
      rw [List.foldl_cons, hfirst, joined_cons, ← String.append_assoc, ih]
      constructor
      · intro h before y after hxs
        cases before with
        | nil =>
          obtain ⟨rfl, rfl⟩ := List.cons.inj hxs
          simpa [joined] using hx
        | cons z before =>
          obtain ⟨rfl, htail⟩ := List.cons.inj hxs
          rw [joined_cons, ← String.append_assoc]
          exact h before y after htail
      · intro h before y after hxs
        have hy := h (x :: before) y after (by rw [hxs, List.cons_append])
        rwa [joined_cons, ← String.append_assoc] at hy
    · constructor
      · intro h
        -- the first edit shortens the text, and no later one can make up for it
        have hlen := congrArg String.length h
        have hle := length_foldl_le edit xs ((edit x).apply out)
        simp only [not_or, Bool.not_eq_false] at hx
        have hlt := Text.length_takePoints_lt hx.1 hx.2
        rw [List.foldl_cons, joined_cons, String.length_append, String.length_append] at hlen
        simp only [apply, String.length_append] at hle hlen
        omega
      · intro h
        exact absurd (by simpa [joined] using h [] x xs rfl) hx

end Runs

/-- The writer takes up to `n` points from the end of what is there, and then adds what it writes onto
nothing. -/
def TakesBack (n : Nat) (f : String → String) : Prop :=
  ∀ out, f out = Text.takePoints n out ++ f ""

theorem takesBack_apply (e : Edit) : TakesBack e.back e.apply := by
  intro out
  rw [apply_empty, apply]

end Edit

namespace Edit.TakesBack

variable {n : Nat} {f : String → String}

theorem of_append (text : String) : TakesBack 0 fun out => out ++ text := by
  intro out
  dsimp only
  rw [String.empty_append]
  rfl

theorem append (h : TakesBack n f) (text : String) : TakesBack n fun out => f out ++ text := by
  intro out
  dsimp only
  rw [h out, String.append_assoc]

theorem eq_append (h : TakesBack n f) {out : String} (hout : Text.endsInPoint out = false) :
    f out = out ++ f "" := by
  rw [h out, Text.takePoints_of_not_endsInPoint n hout]

end Edit.TakesBack

end StructuredMessage
