import StructuredMessage.Datum.Json
import StructuredMessage.Proofs.Calendar.Usual
import StructuredMessage.Proofs.Datum.Insertion

namespace StructuredMessage

theorem eq_of_flatMap {α β : Type} {g : α → List β} {n : Nat} (hn : 0 < n) (hlength : ∀ a, (g a).length = n)
    (hg : ∀ a b, g a = g b → a = b) {xs ys : List α} (h : xs.flatMap g = ys.flatMap g) : xs = ys := by
  have hne (a : α) (rest : List α) : (a :: rest).flatMap g ≠ [] := by
    intro hnil
    have hzero := congrArg List.length hnil
    rw [List.flatMap_cons, List.length_append, hlength, List.length_nil] at hzero
    omega
  induction xs generalizing ys with
  | nil =>
    cases ys with
    | nil => rfl
    | cons y ys => exact absurd h.symm (hne y ys)
  | cons x xs ih =>
    cases ys with
    | nil => exact absurd h (hne x xs)
    | cons y ys =>
      rw [List.flatMap_cons, List.flatMap_cons] at h
      obtain ⟨hhead, hrest⟩ := List.append_inj h (by rw [hlength, hlength])
      rw [hg x y hhead, ih hrest]

namespace Numeral

theorem eq_of_hex {capital : Bool} {width m n : Nat}
    (h : (hex capital m).leftpad width '0' = (hex capital n).leftpad width '0') : m = n := by
  have hm := readHex?_leftpad capital width m
  rw [h, readHex?_leftpad] at hm
  exact (Option.some.inj hm).symm

theorem isSome_hexDigit?_of_mem {capital : Bool} {n : Nat} {c : Char} (hc : c ∈ hex capital n) :
    (hexDigit? capital c).isSome := by
  induction n using Nat.strongRecOn with
  | ind n ih =>
    rw [hex_eq_if] at hc
    split at hc
    next hn => rw [List.mem_singleton.mp hc, hexDigit?_hexChar capital hn]; rfl
    next hn =>
      rcases List.mem_append.mp hc with hc | hc
      · exact ih (n / 16) (by omega) hc
      · rw [List.mem_singleton.mp hc, hexDigit?_hexChar capital (Nat.mod_lt n (by decide))]; rfl

theorem length_hexByte (capital : Bool) (b : UInt8) : ((hex capital b.toNat).leftpad 2 '0').length = 2 := by
  have hb := b.toNat_lt
  rw [List.length_leftpad, hex_eq_if]
  split
  next => rfl
  next =>
    rw [hex_eq_if, if_pos (by omega)]
    rfl

end Numeral

namespace Uuid

theorem eq_of_digits {u v : Uuid} (h : u.digits = v.digits) : u = v := by
  obtain ⟨u⟩ := u
  obtain ⟨v⟩ := v
  exact congrArg Uuid.mk (BitVec.eq_of_toNat_eq (Numeral.eq_of_hex h))

theorem hyphen_not_mem_digits (u : Uuid) : '-' ∉ u.digits := by
  intro hc
  rcases List.mem_append.mp hc with hzero | hdigit
  · exact absurd (List.eq_of_mem_replicate hzero) (by decide)
  · exact absurd (Numeral.isSome_hexDigit?_of_mem hdigit) (by decide)

/-- Without the hyphens the groups are the digits again. -/
theorem filter_hyphenated (u : Uuid) : u.hyphenated.toList.filter (· != '-') = u.digits := by
  have hlist : u.hyphenated.toList = u.digits.take 8 ++ '-' :: ((u.digits.drop 8).take 4 ++
      '-' :: ((u.digits.drop 12).take 4 ++ '-' :: ((u.digits.drop 16).take 4 ++ '-' :: u.digits.drop 20))) := by
    simp [hyphenated]
  have hfilter : u.digits.filter (· != '-') = u.digits :=
    List.filter_eq_self.mpr fun c hc => bne_iff_ne.mpr (ne_of_mem_of_not_mem hc u.hyphen_not_mem_digits)
  have hjoin (n k : Nat) : (u.digits.drop n).take k ++ u.digits.drop (n + k) = u.digits.drop n := by
    rw [← List.drop_drop, List.take_append_drop]
  have hgroups : u.digits.take 8 ++ ((u.digits.drop 8).take 4 ++ ((u.digits.drop 12).take 4 ++
      ((u.digits.drop 16).take 4 ++ u.digits.drop 20))) = u.digits := by
    rw [hjoin 16 4, hjoin 12 4, hjoin 8 4, List.take_append_drop]
  rw [hlist]
  conv_rhs => rw [← hfilter, ← hgroups]
  simp

theorem eq_of_hyphenated {u v : Uuid} (h : u.hyphenated = v.hyphenated) : u = v := by
  refine eq_of_digits ?_
  rw [← filter_hyphenated, h, filter_hyphenated]

end Uuid

namespace Scalar

/-- Every byte has two digits, so the text of the bytes tells them. -/
theorem eq_of_hexText {xs ys : List UInt8} (h : hexText xs = hexText ys) : xs = ys :=
  eq_of_flatMap Nat.two_pos (Numeral.length_hexByte true)
    (fun _ _ heq => UInt8.toNat_inj.mp (Numeral.eq_of_hex heq)) (String.ofList_injective h)

/-- What scalars of one kind have in common. Integers are of one kind if they are of one type. -/
inductive Kind
  | null
  | bool
  | char
  | integer (type : IntegerType)
  | single
  | double
  | decimal
  | text
  | moment
  | zoned
  | date
  | time
  | span
  | uuid
  | uri
  | bytes
  | member
  | other
  deriving DecidableEq, Repr

def kind : Scalar → Kind
  | null => .null
  | bool _ => .bool
  | char _ => .char
  | integer n => .integer n.type
  | single _ => .single
  | double _ => .double
  | decimal _ => .decimal
  | text _ => .text
  | moment _ => .moment
  | zoned _ => .zoned
  | date _ => .date
  | time _ => .time
  | span _ => .span
  | uuid _ => .uuid
  | uri _ => .uri
  | bytes _ => .bytes
  | member _ _ => .member
  | other _ _ => .other

/-- Whether two scalars of one kind agree in all that their text without a format shows, though they may differ.
Moments show no fraction of a second, times of day no seconds, offsets no seconds, spans no fraction of a tick, and
members and values of declared types do not show their type. -/
def Blurred : Scalar → Scalar → Prop
  | moment x, moment y => x.date = y.date ∧ x.time.second = y.time.second
  | zoned x, zoned y => x.wall.date = y.wall.date ∧ x.wall.time.second = y.wall.time.second ∧
    (x.offset < 0 ↔ y.offset < 0) ∧ x.offset.natAbs / 60 = y.offset.natAbs / 60
  | time x, time y => x.second / 60 = y.second / 60
  | span x, span y => (x.value < 0 ↔ y.value < 0) ∧ x.value.natAbs / 100 = y.value.natAbs / 100
  | member _ x, member _ y => x = y
  | other _ x, other _ y => x = y
  | _, _ => False

theorem display_eq (s : Scalar) : s.display = s.addBuiltin none {} {} "" := by
  unfold display add
  dsimp only
  split
  next h =>
    split at h
    next => cases h
    next => cases h
  next => rfl

theorem keyText_eq_display {s : Scalar} (h : s.kind ≠ .text) : s.keyText = s.addBuiltin none {} {} "" := by
  rw [← display_eq]
  cases s with
  | text value => exact absurd rfl h
  | _ => rfl

variable {x y : Scalar}

/-- Scalars of one kind have one name only if they are the same, or agree in what their text shows. -/
theorem same_or_blurred_of_keyText (hkind : x.kind = y.kind) (hx : x.isNaN = false) (hy : y.isNaN = false)
    (h : x.keyText = y.keyText) : x.same y ∨ x.Blurred y := by
  by_cases htext : x.kind = .text
  · cases x <;> cases y <;> simp only [kind, reduceCtorEq] at hkind htext
    exact .inl (beq_iff_eq.mpr h)
  rw [keyText_eq_display htext, keyText_eq_display (hkind ▸ htext)] at h
  cases x <;> cases y <;> simp only [kind, reduceCtorEq] at hkind <;>
    simp only [addBuiltin, String.empty_append] at h
  case null.null => exact .inl rfl
  case bool.bool x y => cases x <;> cases y <;> first | exact .inl rfl | exact absurd h (by decide)
  case char.char x y => exact .inl (by simpa [same] using congrArg String.toList h)
  case integer.integer x y =>
    have hlist := congrArg String.toList h
    have hvalue := Integer.eq_of_readSigned? (Kind.integer.inj hkind)
      (Number.readSigned?_format_general · Number.asksGeneral_none) hlist
    exact .inl (beq_iff_eq.mpr hvalue)
  case single.single x y =>
    rw [Number.format_single, Number.format_single] at h
    exact .inl (Binary.same_of_usualText hx hy h)
  case double.double x y =>
    rw [Number.format_double, Number.format_double] at h
    exact .inl (Binary.same_of_usualText hx hy h)
  case decimal.decimal x y => exact .inl (Decimal.same_of_general h)
  case text.text => exact absurd rfl htext
  case moment.moment x y => exact .inr (Moment.add_moment_eq_iff.mp h)
  case zoned.zoned x y => exact .inr (Moment.add_zoned_eq_iff.mp h)
  case date.date x y => exact .inl (beq_iff_eq.mpr (Moment.eq_of_add_date h))
  case time.time x y => exact .inr (Moment.add_time_eq_iff.mp h)
  case span.span x y => exact .inr (Span.format_eq_iff.mp h)
  case uuid.uuid x y => exact .inl (beq_iff_eq.mpr (Uuid.eq_of_hyphenated h))
  case uri.uri x y => exact .inl (beq_iff_eq.mpr h)
  case bytes.bytes x y => exact .inl (beq_iff_eq.mpr (eq_of_hexText h))
  case member.member => exact .inr h
  case other.other => exact .inr h

theorem keyText_eq_of_blurred (h : x.Blurred y) : x.keyText = y.keyText := by
  have hkind : x.kind = y.kind ∧ x.kind ≠ .text := by
    cases x <;> cases y <;> simp_all [Blurred, kind]
  rw [keyText_eq_display hkind.2, keyText_eq_display (hkind.1 ▸ hkind.2)]
  cases x <;> cases y <;> simp only [Blurred] at h <;> simp only [addBuiltin, String.empty_append]
  case moment.moment x y => exact Moment.add_moment_eq_iff.mpr h
  case zoned.zoned x y => exact Moment.add_zoned_eq_iff.mpr h
  case time.time x y => exact Moment.add_time_eq_iff.mpr h
  case span.span x y => exact Span.format_eq_iff.mpr h
  case member.member => exact h
  case other.other => exact h

/-- Different scalars of one kind have one name iff their text blurs them. -/
theorem keyText_eq_iff (hkind : x.kind = y.kind) (hx : x.isNaN = false) (hy : y.isNaN = false)
    (hne : x.same y = false) : x.keyText = y.keyText ↔ x.Blurred y := by
  refine ⟨fun h => ?_, keyText_eq_of_blurred⟩
  rcases same_or_blurred_of_keyText hkind hx hy h with hsame | hblurred
  · exact absurd hsame (by simp [hne])
  · exact hblurred

end Scalar

end StructuredMessage
