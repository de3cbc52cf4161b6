import StructuredMessage.Proofs.Calendar.Layout
import StructuredMessage.Template.Parse
import StructuredMessage.Template.Render

namespace StructuredMessage

namespace Scalar

/-- The text that a formatter of the locale gives for the scalar. -/
def custom? (s : Scalar) (format : Option String) (locale : Locale) : Option String :=
  if s.isFormattable then locale.formatter.bind fun formatter => formatter format s else none

/-- The number of points that a scalar in its built-in form can take from what stands before it. Only
dates and times take any. -/
def builtinBack (format : Option String) (dates : DateSymbols) : Scalar → Nat
  | moment m => m.back none 'G' dates format
  | zoned z => z.wall.back (some z.offset) 'G' dates format
  | date d => (Moment.mk d .midnight).back none 'd' dates format
  | time t => (Moment.mk .epoch t).back none 't' dates format
  | _ => 0

def back (s : Scalar) (format : Option String) (locale : Locale) : Nat :=
  match s.custom? format locale with
  | some _ => 0
  | none => s.builtinBack format locale.dates

theorem takesBack_addBuiltin (s : Scalar) (format : Option String) (numbers : NumberSymbols)
    (dates : DateSymbols) :
    Edit.TakesBack (s.builtinBack format dates) (s.addBuiltin format numbers dates) := by
  cases s with
  | moment m => exact m.takesBack_add none 'G' dates format
  | zoned z => exact z.wall.takesBack_add (some z.offset) 'G' dates format
  | date d => exact (Moment.mk d .midnight).takesBack_add none 'd' dates format
  | time t => exact (Moment.mk .epoch t).takesBack_add none 't' dates format
  | char value =>
    have hpush : addBuiltin (char value) format numbers dates = fun out => out ++ String.singleton value := by
      funext out
      exact String.append_singleton.symm
    rw [hpush]
    exact .of_append _
  | _ => exact .of_append _

theorem takesBack_add (s : Scalar) (format : Option String) (locale : Locale) :
    Edit.TakesBack (s.back format locale) (s.add format locale) := by
  have hadd : s.add format locale = fun out =>
      match s.custom? format locale with
      | some shown => out ++ shown
      | none => s.addBuiltin format locale.numbers locale.dates out := rfl
  rw [hadd, back]
  cases s.custom? format locale with
  | some shown => exact .of_append shown
  | none => exact s.takesBack_addBuiltin format locale.numbers locale.dates

end Scalar

namespace Datum

/-- Everything with parts begins with a bracket, a brace or a tag, and so takes no points from what stands
before it. -/
def back (format : Option String) (locale : Locale) : Datum → Nat
  | scalar value => value.back format locale
  | _ => 0

mutual

theorem takesBack_add (format : Option String) (locale : Locale) :
    ∀ d : Datum, Edit.TakesBack (d.back format locale) fun out => add format locale out d
  | scalar value => by
    simp only [add, back]
    exact value.takesBack_add format locale
  | sequence items => by
    have hitems : ∀ out, addItems format locale (out ++ "[") "" items =
        out ++ ("[" ++ addItems format locale "" "" items) := by
      intro out
      rw [addItems_append format locale items (out ++ "[") "" (by simp [Text.endsInPoint]),
        String.append_assoc]
    simp only [add, back, hitems]
    exact (Edit.TakesBack.of_append _).append "]"
  | dictionary entries => by
    have hentries : ∀ out, addEntries locale (out ++ "[") "" entries =
        out ++ ("[" ++ addEntries locale "" "" entries) := by
      intro out
      rw [addEntries_append locale entries (out ++ "[") "", String.append_assoc]
    simp only [add, back, hentries]
    exact (Edit.TakesBack.of_append _).append "]"
  | record tag properties => by
    have hproperties : ∀ out, addProperties locale (out ++ "\x7b ") "" properties =
        out ++ ("\x7b " ++ addProperties locale "" "" properties) := by
      intro out
      rw [addProperties_append locale properties (out ++ "\x7b ") "", String.append_assoc]
    simp only [add, back, hproperties]
    cases tag with
    | none =>
      split
      next => exact .of_append _
      next => exact (Edit.TakesBack.of_append _).append " \x7d"
    | some t =>
      have htag : Edit.TakesBack 0 fun out : String => out ++ t ++ " " :=
        (Edit.TakesBack.of_append t).append " "
      split
      next => exact htag.append _
      next => exact (htag.append _).append " \x7d"

theorem addItems_append (format : Option String) (locale : Locale) :
    ∀ (items : List Datum) (out separator : String), Text.endsInPoint (out ++ separator) = false →
      addItems format locale out separator items = out ++ addItems format locale "" separator items
  | [], out, separator, _ => by simp [addItems]
  | item :: rest, out, separator, h => by
    have hitem := takesBack_add format locale item
    have hrest : ∀ front, addItems format locale front ", " rest =
        front ++ addItems format locale "" ", " rest := fun front =>
      addItems_append format locale rest front ", " (by simp [Text.endsInPoint])
    rw [addItems, addItems, hitem.eq_append h, String.empty_append,
      hitem.eq_append (Text.not_endsInPoint_of_append h), hrest, hrest (separator ++ _)]
    simp only [String.append_assoc]

theorem addEntries_append (locale : Locale) :
    ∀ (entries : List (Scalar × Datum)) (out separator : String),
      addEntries locale out separator entries = out ++ addEntries locale "" separator entries
  | [], out, separator => by simp [addEntries]
  | (key, value) :: rest, out, separator => by
    have hkey : ∀ front, key.add none locale (front ++ "(") =
        front ++ "(" ++ key.add none locale "" := fun front =>
      (key.takesBack_add none locale).eq_append (by simp [Text.endsInPoint])
    have hvalue : ∀ front, add none locale (front ++ ": ") value =
        front ++ ": " ++ add none locale "" value := fun front =>
      (takesBack_add none locale value).eq_append (by simp [Text.endsInPoint])
    simp only [addEntries, hkey, hvalue]
    rw [addEntries_append locale rest (out ++ separator ++ _ ++ _ ++ _ ++ _ ++ _),
      addEntries_append locale rest ("" ++ separator ++ _ ++ _ ++ _ ++ _ ++ _)]
    simp only [String.append_assoc, String.empty_append]

theorem addProperties_append (locale : Locale) :
    ∀ (properties : List (String × Datum)) (out separator : String),
      addProperties locale out separator properties =
        out ++ addProperties locale "" separator properties
  | [], out, separator => by simp [addProperties]
  | (name, value) :: rest, out, separator => by
    have hvalue : ∀ front, add none locale (front ++ ": ") value =
        front ++ ": " ++ add none locale "" value := fun front =>
      (takesBack_add none locale value).eq_append (by simp [Text.endsInPoint])
    simp only [addProperties, hvalue]
    rw [addProperties_append locale rest (out ++ separator ++ _ ++ _ ++ _),
      addProperties_append locale rest ("" ++ separator ++ _ ++ _ ++ _)]
    simp only [String.append_assoc, String.empty_append]

end

end Datum

namespace Token

variable (properties : List Property) (locale : Locale)

/-- The number of points that a token can take from what stands before it. A value with an alignment is
written apart first and takes none. -/
def back : Token → Nat
  | text _ _ => 0
  | placeholder p =>
    match Properties.get? p.name properties with
    | none => 0
    | some value =>
      match p.alignment with
      | none => value.back p.format locale
      | some _ => 0

theorem takesBack_add (token : Token) :
    Edit.TakesBack (token.back properties locale) fun out => add properties locale out token := by
  cases token with
  | text content start => exact .of_append content
  | placeholder p =>
    simp only [add, back]
    cases Properties.get? p.name properties with
    | none => exact .of_append p.source
    | some value =>
      cases p.alignment with
      | none => exact Datum.takesBack_add p.format locale value
      | some alignment => exact .of_append _

/-- What a token does, its text being what it writes alone. -/
def edit (token : Token) : Edit :=
  ⟨token.back properties locale, add properties locale "" token⟩

end Token

namespace Template

variable (properties : List Property) (locale : Locale)

/-- The number of points that a template can take from what stands before it. -/
def back (t : Template) : Nat :=
  (Edit.all (t.tokens.map (Token.edit properties locale))).back

theorem renderOnto_eq_foldl (t : Template) (out : String) :
    t.renderOnto properties locale out =
      t.tokens.foldl (fun out token => (token.edit properties locale).apply out) out := by
  unfold renderOnto
  congr 1
  funext out token
  exact Token.takesBack_add properties locale token out

theorem renderOnto_eq_apply (t : Template) (out : String) :
    t.renderOnto properties locale out =
      (Edit.all (t.tokens.map (Token.edit properties locale))).apply out := by
  rw [renderOnto_eq_foldl, Edit.apply_all, List.foldl_map]

theorem render_eq_text (t : Template) :
    t.render properties locale = (Edit.all (t.tokens.map (Token.edit properties locale))).text := by
  rw [render, renderOnto_eq_apply, Edit.apply_empty]

/-- Rendering adds to `out` what the tokens render to alone, one behind the other, iff no token takes back
a point that it finds at the end of what stands before it. It adds what the whole template renders to
alone iff the template as a whole takes none from `out`. -/
theorem renderOnto_eq_append_iff (t : Template) (out : String) :
    (t.renderOnto properties locale out =
        out ++ String.join (t.tokens.map (Token.add properties locale "")) ↔
      ∀ before token after, t.tokens = before ++ token :: after →
        token.back properties locale = 0 ∨
          Text.endsInPoint (out ++ String.join (before.map (Token.add properties locale ""))) = false) ∧
    (t.renderOnto properties locale out = out ++ t.render properties locale ↔
      t.back properties locale = 0 ∨ Text.endsInPoint out = false) := by
  constructor
  · rw [renderOnto_eq_foldl]
    exact Edit.foldl_eq_append_iff (Token.edit properties locale) t.tokens out
  · rw [renderOnto_eq_apply, render_eq_text]
    exact Edit.apply_eq_append_iff _ out

/-- At midnight a short fraction has no digits, and the point before the placeholder is lost. -/
theorem renderOnto_midnight_fraction :
    (parse "\x7bT:FF\x7d").renderOnto [("T", .scalar (.time .midnight))] .neutral "." = "" ∧
    "." ++ String.join ((parse "\x7bT:FF\x7d").tokens.map
      (Token.add [("T", .scalar (.time .midnight))] .neutral "")) = "." ∧
    "." ++ (parse "\x7bT:FF\x7d").render [("T", .scalar (.time .midnight))] .neutral = "." := by
  decide +kernel

end Template

end StructuredMessage
