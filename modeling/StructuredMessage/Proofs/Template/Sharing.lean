import Mathlib.Data.List.Induction
import Mathlib.Logic.Function.Basic
import StructuredMessage.Template.Cache

namespace StructuredMessage

/-- An element of a list that ends in `last` is the last one or stands before it. -/
theorem append_singleton_cases {α : Type} {xs before after : List α} {last x : α}
    (h : xs ++ [last] = before ++ x :: after) :
    (xs = before ∧ x = last ∧ after = []) ∨ ∃ middle, xs = before ++ x :: middle ∧ after = middle ++ [last] := by
  rcases List.eq_nil_or_concat after with rfl | ⟨middle, final, rfl⟩
  · obtain ⟨hbefore, hlast⟩ := List.append_inj' h rfl
    exact Or.inl ⟨hbefore, (List.singleton_inj.mp hlast).symm, rfl⟩
  · rw [List.concat_eq_append, ← List.cons_append, ← List.append_assoc] at h
    obtain ⟨hbefore, hlast⟩ := List.append_inj' h rfl
    exact Or.inr ⟨middle, hbefore, by rw [List.concat_eq_append, hlast]⟩

namespace Cache

/-- What is done to the templates that a cache keeps. -/
inductive Change
  | clear
  | keep (text : String) (shared : SharedTemplate)
  deriving DecidableEq, Repr

def Change.apply (entries : List (String × SharedTemplate)) : Change → List (String × SharedTemplate)
  | clear => []
  | keep text shared => (text, shared) :: entries

/-- The template that a call gives if it has to parse the text. -/
def fresh (c : Cache) (text : String) : SharedTemplate :=
  ⟨c.nextSerial, Template.parse text⟩

/-- What a call for `text` does to the templates that are kept, in this order. -/
def changes (c : Cache) (text : String) : List Change :=
  if longestKept < text.length ∨ (c.get? text).isSome then []
  else if c.capacity ≤ c.size then [.clear, .keep text (c.fresh text)]
  else [.keep text (c.fresh text)]

/-- The four ways that a call can go: what it does, the template that it gives and the cache that it leaves. -/
inductive Turn (c : Cache) (text : String) : List Change → SharedTemplate → Cache → Prop
  | long : longestKept < text.length → Turn c text [] (c.fresh text) { c with nextSerial := c.nextSerial + 1 }
  | hit {shared : SharedTemplate} : text.length ≤ longestKept → c.get? text = some shared → Turn c text [] shared c
  | room : text.length ≤ longestKept → c.get? text = none → c.size < c.capacity →
      Turn c text [.keep text (c.fresh text)] (c.fresh text)
        { c with nextSerial := c.nextSerial + 1, entries := (text, c.fresh text) :: c.entries }
  | full : text.length ≤ longestKept → c.get? text = none → c.capacity ≤ c.size →
      Turn c text [.clear, .keep text (c.fresh text)] (c.fresh text)
        { c with nextSerial := c.nextSerial + 1, entries := [(text, c.fresh text)] }

section

variable {c after : Cache} {text other : String} {changes : List Change} {shared : SharedTemplate}

theorem turn_parse (c : Cache) (text : String) : Turn c text (c.changes text) (c.parse text).1 (c.parse text).2 := by
  unfold Cache.changes parse
  by_cases hlong : longestKept < text.length
  · simp only [hlong, true_or, if_true]
    exact .long hlong
  · have hshort : text.length ≤ longestKept := Nat.not_lt.mp hlong
    simp only [hlong, false_or, if_false]
    cases hfound : c.get? text with
    | some shared => exact .hit hshort hfound
    | none =>
      by_cases hfull : c.capacity ≤ c.size
      · simp only [hfull, if_true]
        exact .full hshort hfound hfull
      · simp only [hfull, if_false]
        exact .room hshort hfound (Nat.not_le.mp hfull)

theorem get?_cons (capacity serial : Nat) (entry : String × SharedTemplate) (entries : List (String × SharedTemplate)) :
    get? ⟨capacity, entry :: entries, serial⟩ other =
      if entry.1 = other then some entry.2 else get? ⟨capacity, entries, serial⟩ other := by
  by_cases h : entry.1 = other <;> simp [get?, h]

theorem mem_of_get? (h : c.get? text = some shared) : (text, shared) ∈ c.entries := by
  obtain ⟨entry, hfind, rfl⟩ := Option.map_eq_some_iff.mp h
  have htext : entry.1 = text := by simpa using List.find?_some hfind
  rw [← htext]
  exact List.mem_of_find?_eq_some hfind

theorem not_mem_keys_of_get? (h : c.get? text = none) : text ∉ c.entries.map Prod.fst := by
  intro hmem
  obtain ⟨entry, hentry, rfl⟩ := List.mem_map.mp hmem
  have hfind := List.find?_eq_none.mp (Option.map_eq_none_iff.mp h) entry hentry
  simp at hfind

/-- What holds of the templates that a cache keeps: their texts are all different and none is too long, each is the
template of its text, and all were made before the next one. -/
structure Sound (c : Cache) : Prop where
  short : ∀ entry ∈ c.entries, entry.1.length ≤ longestKept
  own : ∀ entry ∈ c.entries, entry.2.template = Template.parse entry.1
  older : ∀ entry ∈ c.entries, entry.2.serial < c.nextSerial
  distinct : (c.entries.map Prod.fst).Nodup

theorem sound_nil (capacity serial : Nat) : Sound ⟨capacity, [], serial⟩ where
  short := by simp
  own := by simp
  older := by simp
  distinct := List.nodup_nil

theorem Sound.skip (h : c.Sound) : Sound { c with nextSerial := c.nextSerial + 1 } where
  short := h.short
  own := h.own
  older entry he := Nat.lt_succ_of_lt (h.older entry he)
  distinct := h.distinct

/-- Keeping the new template of a text of which there is none among `entries`. -/
theorem Sound.keep {entries : List (String × SharedTemplate)} (h : Sound { c with entries := entries })
    (hshort : text.length ≤ longestKept) (hnew : text ∉ entries.map Prod.fst) :
    Sound { c with nextSerial := c.nextSerial + 1, entries := (text, c.fresh text) :: entries } where
  short := List.forall_mem_cons.mpr ⟨hshort, h.short⟩
  own := List.forall_mem_cons.mpr ⟨rfl, h.own⟩
  older := List.forall_mem_cons.mpr ⟨Nat.lt_succ_self _, h.skip.older⟩
  distinct := List.nodup_cons.mpr ⟨hnew, h.distinct⟩

namespace Turn

theorem clear_mem_iff (h : Turn c text changes shared after) :
    .clear ∈ changes ↔ text.length ≤ longestKept ∧ c.get? text = none ∧ c.capacity ≤ c.size := by
  cases h with
  | long hlong => simp [Nat.not_le.mpr hlong]
  | hit hshort hfound => simp [hfound]
  | room hshort hnone hroom => simp [Nat.not_le.mpr hroom]
  | full hshort hnone hfull => simp [hshort, hnone, hfull]

/-- A call leaves what its changes make of the templates that it finds. -/
theorem entries_eq (h : Turn c text changes shared after) :
    after.entries = changes.foldl Change.apply c.entries := by
  cases h <;> rfl

theorem capacity_eq (h : Turn c text changes shared after) : after.capacity = c.capacity := by
  cases h <;> rfl

theorem nextSerial_le (h : Turn c text changes shared after) : c.nextSerial ≤ after.nextSerial := by
  cases h with
  | hit => exact Nat.le_refl _
  | _ => exact Nat.le_succ _

theorem sound (h : Turn c text changes shared after) (hc : c.Sound) : after.Sound := by
  cases h with
  | long hlong => exact hc.skip
  | hit hshort hfound => exact hc
  | room hshort hnone hroom => exact Sound.keep hc hshort (not_mem_keys_of_get? hnone)
  | full hshort hnone hfull => exact Sound.keep (sound_nil c.capacity c.nextSerial) hshort (by simp)

theorem template_eq (h : Turn c text changes shared after) (hc : c.Sound) : shared.template = Template.parse text := by
  cases h with
  | hit hshort hfound => exact hc.own _ (mem_of_get? hfound)
  | _ => rfl

theorem serial_lt (h : Turn c text changes shared after) (hc : c.Sound) : shared.serial < after.nextSerial := by
  cases h with
  | hit hshort hfound => exact hc.older _ (mem_of_get? hfound)
  | _ => exact Nat.lt_succ_self _

/-- The template that a call gives is new or was kept. -/
theorem fresh_or_kept (h : Turn c text changes shared after) :
    shared.serial = c.nextSerial ∨ c.get? text = some shared := by
  cases h with
  | hit hshort hfound => exact Or.inr hfound
  | _ => exact Or.inl rfl

/-- The template that is kept is given again. -/
theorem shared_eq (h : Turn c text changes shared after) (hshort : text.length ≤ longestKept)
    {old : SharedTemplate} (hold : c.get? text = some old) : shared = old := by
  cases h with
  | long hlong => exact absurd hlong (Nat.not_lt.mpr hshort)
  | hit _ hfound => exact Option.some.inj (hfound.symm.trans hold)
  | room _ hnone => simp [hnone] at hold
  | full _ hnone => simp [hnone] at hold

/-- A call leaves the template that it gives in the cache. -/
theorem get?_self (h : Turn c text changes shared after) (hshort : text.length ≤ longestKept) :
    after.get? text = some shared := by
  cases h with
  | long hlong => exact absurd hlong (Nat.not_lt.mpr hshort)
  | hit _ hfound => exact hfound
  | _ => rw [get?_cons, if_pos rfl]

/-- A template made before the call is kept after it iff it was kept and the call does not clear the cache. -/
theorem get?_older (h : Turn c text changes shared after) {old : SharedTemplate} (hold : old.serial < c.nextSerial) :
    after.get? other = some old ↔ c.get? other = some old ∧ .clear ∉ changes := by
  -- What is kept of the called text after a miss is newer.
  have hnew : c.fresh text ≠ old := by
    rintro rfl
    exact Nat.lt_irrefl _ hold
  cases h with
  | long hlong => simp [get?]
  | hit hshort hfound => simp
  | room hshort hnone hroom =>
    rw [get?_cons]
    by_cases hother : text = other
    · subst hother
      simp [hnone, hnew]
    · simp [hother, get?]
  | full hshort hnone hfull =>
    rw [get?_cons]
    by_cases hother : text = other
    · simp [hother, hother ▸ hnew]
    · simp [hother, get?]

/-- A call for a text that is too long leaves the templates as they are. -/
theorem entries_of_long (h : Turn c text changes shared after) (hlong : longestKept < text.length) :
    after.entries = c.entries := by
  cases h with
  | long => rfl
  | hit hshort => exact absurd hlong (Nat.not_lt.mpr hshort)
  | room hshort => exact absurd hlong (Nat.not_lt.mpr hshort)
  | full hshort => exact absurd hlong (Nat.not_lt.mpr hshort)

/-- Once it has room for one template a cache stays within its capacity. -/
theorem size_le (h : Turn c text changes shared after) (hc : c.size ≤ max c.capacity 1) :
    after.size ≤ max after.capacity 1 := by
  cases h with
  | long hlong => exact hc
  | hit hshort hfound => exact hc
  | room hshort hnone hroom => exact Nat.le_trans (Nat.succ_le_of_lt hroom) (Nat.le_max_left _ _)
  | full hshort hnone hfull => exact Nat.le_max_right _ _

theorem size_pos_iff (h : Turn c text changes shared after) :
    0 < after.size ↔ 0 < c.size ∨ text.length ≤ longestKept := by
  cases h with
  | long hlong => simp [size, Nat.not_le.mpr hlong]
  | hit hshort hfound =>
    have hpos : 0 < c.size := List.length_pos_of_mem (mem_of_get? hfound)
    simp [hpos]
  | room hshort => simp [size, hshort]
  | full hshort => simp [size, hshort]

end Turn

end

/-- A call that was made: by whom, for which text, and the cache as it was when the turn came. -/
structure Call (κ : Type) where
  caller : κ
  text : String
  found : Cache

namespace Call

variable {κ : Type}

def changes (call : Call κ) : List Change :=
  call.found.changes call.text

def shared (call : Call κ) : SharedTemplate :=
  (call.found.parse call.text).1

def left (call : Call κ) : Cache :=
  (call.found.parse call.text).2

def Clears (call : Call κ) : Prop :=
  .clear ∈ call.changes

theorem turn (call : Call κ) : Turn call.found call.text call.changes call.shared call.left :=
  turn_parse call.found call.text

end Call

/-- Callers that share a cache. Each of them has its own texts to ask for, one after the other, and has the cache
to itself for as long as a call takes. The calls are in the order in which they had it. -/
structure Session (κ : Type) where
  waiting : κ → List String
  calls : List (Call κ)
  cache : Cache

namespace Session

variable {κ : Type}

def start (capacity : Nat) (waiting : κ → List String) : Session κ :=
  ⟨waiting, [], empty capacity⟩

/-- The next call of a caller, if it has a text to ask for. -/
def next [DecidableEq κ] (s : Session κ) (caller : κ) : Session κ :=
  match s.waiting caller with
  | [] => s
  | text :: later =>
    { waiting := Function.update s.waiting caller later
      calls := s.calls ++ [⟨caller, text, s.cache⟩]
      cache := (s.cache.parse text).2 }

/-- The callers have their turns in the given order. -/
def run [DecidableEq κ] (s : Session κ) (turns : List κ) : Session κ :=
  turns.foldl next s

/-- What holds between the cache and the calls made so far. -/
structure Orderly (capacity : Nat) (s : Session κ) : Prop where
  capacity_eq : s.cache.capacity = capacity
  sound : s.cache.Sound
  issued : ∀ call ∈ s.calls, call.shared.serial < s.cache.nextSerial
  kept : ∀ before first between, s.calls = before ++ first :: between → first.text.length ≤ longestKept →
    (s.cache.get? first.text = some first.shared ↔ ∀ call ∈ between, ¬call.Clears)
  within : s.cache.size ≤ max s.cache.capacity 1
  size_pos_iff : 0 < s.cache.size ↔ ∃ call ∈ s.calls, call.text.length ≤ longestKept

variable {capacity : Nat} {waiting : κ → List String} {s : Session κ} {turns : List κ}

theorem orderly_start : (start capacity waiting).Orderly capacity where
  capacity_eq := rfl
  sound := sound_nil capacity 0
  issued := by simp [start]
  kept before first between hcalls := by simp [start] at hcalls
  within := Nat.zero_le _
  size_pos_iff := by simp [start, empty, size]

variable [DecidableEq κ]

theorem Orderly.next (h : s.Orderly capacity) (caller : κ) : (s.next caller).Orderly capacity := by
  unfold Session.next
  split
  next => exact h
  next text later hwaiting =>
    have hturn := turn_parse s.cache text
    refine ⟨hturn.capacity_eq.trans h.capacity_eq, hturn.sound h.sound, fun call hcall => ?_, ?_, hturn.size_le h.within, ?_⟩
    · rcases List.mem_append.mp hcall with hcall | hcall
      · exact Nat.lt_of_lt_of_le (h.issued call hcall) hturn.nextSerial_le
      · obtain rfl := List.mem_singleton.mp hcall
        exact hturn.serial_lt h.sound
    · intro before first between hcalls hshort
      rcases append_singleton_cases hcalls with ⟨-, rfl, rfl⟩ | ⟨middle, hearlier, rfl⟩
      · exact iff_of_true (hturn.get?_self hshort) (by simp)
      · have hissued := h.issued first (by simp [hearlier])
        rw [hturn.get?_older hissued, h.kept before first middle hearlier hshort, List.forall_mem_append,
          List.forall_mem_singleton]
        rfl
    · rw [hturn.size_pos_iff, h.size_pos_iff]
      simp only [List.mem_append, List.mem_singleton, or_and_right, exists_or, exists_eq_left]

theorem orderly_run (capacity : Nat) (waiting : κ → List String) (turns : List κ) :
    ((start capacity waiting).run turns).Orderly capacity := by
  induction turns using List.reverseRecOn with
  | nil => exact orderly_start
  | append_singleton turns caller ih =>
    rw [run, List.foldl_append]
    exact ih.next caller

/-- Each call finds the cache that the calls before it left. -/
theorem exists_run_before {before after : List (Call κ)} {call : Call κ}
    (hcalls : ((start capacity waiting).run turns).calls = before ++ call :: after) :
    ∃ earlier, ((start capacity waiting).run earlier).calls = before ∧
      ((start capacity waiting).run earlier).cache = call.found := by
  induction turns using List.reverseRecOn generalizing after with
  | nil => simp [run, start] at hcalls
  | append_singleton turns caller ih =>
    rw [run, List.foldl_append, List.foldl_cons, List.foldl_nil, next] at hcalls
    split at hcalls
    next => exact ih hcalls
    next text later hwaiting =>
      rcases append_singleton_cases hcalls with ⟨hbefore, rfl, -⟩ | ⟨middle, hearlier, -⟩
      · exact ⟨turns, hbefore, rfl⟩
      · exact ih hearlier

theorem found_of_mem {call : Call κ} (hcall : call ∈ ((start capacity waiting).run turns).calls) :
    call.found.capacity = capacity ∧ call.found.Sound := by
  obtain ⟨before, after, hcalls⟩ := List.append_of_mem hcall
  obtain ⟨earlier, -, hfound⟩ := exists_run_before hcalls
  have horderly := orderly_run capacity waiting earlier
  rw [hfound.symm]
  exact ⟨horderly.capacity_eq, horderly.sound⟩

theorem template_of_mem {call : Call κ} (hcall : call ∈ ((start capacity waiting).run turns).calls) :
    call.shared.template = Template.parse call.text :=
  call.turn.template_eq (found_of_mem hcall).2

/-- Two calls for a text give the very same template iff no call between them clears the cache. -/
theorem serial_eq_iff {before between after : List (Call κ)} {first second : Call κ}
    (hcalls : ((start capacity waiting).run turns).calls = before ++ first :: between ++ second :: after)
    (htext : second.text = first.text) (hshort : first.text.length ≤ longestKept) :
    second.shared.serial = first.shared.serial ↔ ∀ call ∈ between, ¬call.Clears := by
  obtain ⟨earlier, hbefore, hfound⟩ := exists_run_before hcalls
  have horderly := orderly_run capacity waiting earlier
  have hsecond := second.turn
  rw [← hfound, htext] at hsecond
  rw [← horderly.kept before first between hbefore hshort]
  constructor
  · intro hserial
    rcases hsecond.fresh_or_kept with hnew | hkept
    · have hissued := horderly.issued first (by simp [hbefore])
      omega
    · have hfirst : first ∈ ((start capacity waiting).run turns).calls := by simp [hcalls]
      have hlast : second ∈ ((start capacity waiting).run turns).calls := by simp [hcalls]
      have htemplate : second.shared.template = first.shared.template := by
        rw [template_of_mem hlast, template_of_mem hfirst, htext]
      rw [hkept, SharedTemplate.ext hserial htemplate]
  · intro hkept
    rw [hsecond.shared_eq hshort hkept]

/-- That callers do not notice that they share a cache, by the calls that were made and the cache that they left. -/
structure Transparent (capacity : Nat) (s : Session κ) : Prop where
  given : ∀ call ∈ s.calls, call.shared.template = Template.parse call.text
  distinct : (s.cache.entries.map Prod.fst).Nodup
  kept : ∀ entry ∈ s.cache.entries, entry.1.length ≤ longestKept ∧ entry.2.template = Template.parse entry.1
  /-- Two calls for a text give the very same template iff no call between them clears the cache. -/
  same_iff : ∀ before first between second after, s.calls = before ++ first :: between ++ second :: after →
    second.text = first.text → first.text.length ≤ longestKept →
    (second.shared.serial = first.shared.serial ↔ ∀ call ∈ between, ¬call.Clears)
  changed : ∀ call ∈ s.calls, call.left.entries = call.changes.foldl Change.apply call.found.entries
  clears_iff : ∀ call ∈ s.calls, call.Clears ↔
    call.text.length ≤ longestKept ∧ call.found.get? call.text = none ∧ capacity ≤ call.found.size
  unchanged : ∀ call ∈ s.calls, longestKept < call.text.length →
    call.left.entries = call.found.entries ∧ call.left.capacity = call.found.capacity

theorem transparent_run (capacity : Nat) (waiting : κ → List String) (turns : List κ) :
    ((start capacity waiting).run turns).Transparent capacity where
  given call hcall := template_of_mem hcall
  distinct := (orderly_run capacity waiting turns).sound.distinct
  kept entry he :=
    have hsound := (orderly_run capacity waiting turns).sound
    ⟨hsound.short entry he, hsound.own entry he⟩
  same_iff before first between second after := serial_eq_iff
  changed call hcall := call.turn.entries_eq
  clears_iff call hcall := by
    have hcapacity := (found_of_mem hcall).1
    rw [Call.Clears, call.turn.clear_mem_iff, hcapacity]
  unchanged call hcall hlong := ⟨call.turn.entries_of_long hlong, call.turn.capacity_eq⟩

/-- Two callers, one of which asks for the text of the other one before and after that one has gone on. -/
def twoCallers : Bool → List String
  | true => ["\x7bA\x7d", "\x7bB\x7d"]
  | false => ["\x7bA\x7d", "\x7bA\x7d"]

theorem transparent_run_two_callers :
    ∃ a b c d, ((start 1 twoCallers).run [true, false, true, false]).calls = [a, b, c, d] ∧
      b.shared.serial = a.shared.serial ∧ c.Clears ∧ d.text = a.text ∧ d.shared.serial ≠ a.shared.serial ∧
      d.shared.template = Template.parse "\x7bA\x7d" := by
  have htransparent := transparent_run 1 twoCallers [true, false, true, false]
  obtain ⟨a, b, c, d, hcalls, hb, hc, hd⟩ : ∃ a b c d,
      ((start 1 twoCallers).run [true, false, true, false]).calls = [a, b, c, d] ∧
      (b.text = a.text ∧ a.text.length ≤ longestKept) ∧
      (c.text.length ≤ longestKept ∧ c.found.get? c.text = none ∧ 1 ≤ c.found.size) ∧
      d.text = a.text ∧ d.text = "\x7bA\x7d" :=
    ⟨_, _, _, _, rfl, by decide +kernel, by decide +kernel, by decide +kernel⟩
  have hcleared : c.Clears := (htransparent.clears_iff c (by rw [hcalls]; simp)).mpr hc
  have hgiven := htransparent.given d (by rw [hcalls]; simp)
  refine ⟨a, b, c, d, hcalls, ?_, hcleared, hd.1, fun hserial => ?_, hd.2 ▸ hgiven⟩
  · exact (htransparent.same_iff [] a [] b [c, d] hcalls hb.1 hb.2).mpr (by simp)
  · exact (htransparent.same_iff [] a [b, c] d [] hcalls hd.1 hb.2).mp hserial c (by simp) hcleared

/-- A cache with room for at least one template stays within its capacity. One with no room at all does so only
until it is asked for a text that is not too long. -/
theorem size_le_capacity_iff (capacity : Nat) (waiting : κ → List String) (turns : List κ) :
    ((start capacity waiting).run turns).cache.size ≤ max capacity 1 ∧
    (((start capacity waiting).run turns).cache.size ≤ capacity ↔
      0 < capacity ∨ ∀ call ∈ ((start capacity waiting).run turns).calls, longestKept < call.text.length) := by
  have horderly := orderly_run capacity waiting turns
  have hwithin := horderly.within
  rw [horderly.capacity_eq] at hwithin
  refine ⟨hwithin, ?_⟩
  rcases Nat.eq_zero_or_pos capacity with rfl | hpos
  · rw [← Nat.not_lt, horderly.size_pos_iff]
    simp
  · exact iff_of_true (by omega) (Or.inl hpos)

/-- One call is enough to take a cache with no room beyond its capacity. -/
theorem size_of_no_room :
    ¬((start 0 fun _ : Unit => ["\x7bA\x7d"]).run [()]).cache.size ≤ 0 := by
  decide +kernel

end Session

end Cache

end StructuredMessage
