import StructuredMessage.Proofs.Number.Places

namespace StructuredMessage

section Join

variable {α : Type} {sep : List α} {xss yss : List (List α)}

theorem intercalate_append (hx : xss ≠ []) (hy : yss ≠ []) :
    sep.intercalate (xss ++ yss) = sep.intercalate xss ++ sep ++ sep.intercalate yss := by
  induction xss with
  | nil => exact absurd rfl hx
  | cons xs xss ih =>
    cases xss with
    | nil => rw [List.singleton_append, List.intercalate_cons_of_ne_nil hy, List.intercalate_singleton]
    | cons xs' xss =>
      have hrest := ih (List.cons_ne_nil _ _)
      rw [List.cons_append] at hrest
      rw [List.cons_append, List.cons_append, List.intercalate_cons_cons, hrest, List.intercalate_cons_cons]
      simp only [List.append_assoc]

theorem mem_intercalate_iff {a : α} (ha : a ∉ sep) : a ∈ sep.intercalate xss ↔ ∃ xs ∈ xss, a ∈ xs := by
  induction xss with
  | nil => simp
  | cons xs xss ih =>
    cases xss with
    | nil => simp
    | cons xs' xss => simp [List.intercalate_cons_cons, ih, ha]

theorem countP_mem_le_count_intercalate [DecidableEq α] (a : α) :
    xss.countP (a ∈ ·) ≤ (sep.intercalate xss).count a := by
  induction xss with
  | nil => simp
  | cons xs xss ih =>
    have hhead : (if a ∈ xs then 1 else 0) ≤ xs.count a := by
      split
      next hmem => exact List.count_pos_iff.mpr hmem
      next => exact Nat.zero_le _
    cases xss with
    | nil => simpa [List.countP_cons] using hhead
    | cons xs' xss =>
      rw [List.countP_cons, List.intercalate_cons_cons, List.count_append, List.count_append]
      simp only [decide_eq_true_eq]
      omega

theorem splitOn_append_cons [BEq α] [LawfulBEq α] (a : α) (xs ys : List α) :
    (xs ++ a :: ys).splitOn a = xs.splitOn a ++ ys.splitOn a := by
  simp only [List.splitOn_eq_splitOnP]
  exact List.splitOnP_append_cons xs ys (beq_self_eq_true a)

end Join

namespace Pattern

/-- What a reader of patterns takes at once. At the end of a pattern a backslash can have nothing behind it, and a
quote can be left open. -/
inductive Piece
  | bare (c : Char)
  | escape (escaped : Option Char)
  | quote (mark : Char) (text : List Char) (isClosed : Bool)
  deriving DecidableEq, Repr

namespace Piece

def source : Piece → List Char
  | bare c => [c]
  | escape escaped => '\\' :: escaped.toList
  | quote mark text isClosed => mark :: (text ++ if isClosed then [mark] else [])

/-- The item that the piece stands for. A point counts only where there was none before. -/
def item? (pointSeen : Bool) : Piece → Option PatternItem
  | bare '0' => some .zero
  | bare '#' => some .hash
  | bare '.' => if pointSeen then none else some .point
  | bare ',' => some .group
  | bare '%' => some .percent
  | bare c => some (.literal [c])
  | escape escaped => escaped.map fun c => .literal [c]
  | quote _ text _ => some (.literal text)

/-- Whether the piece ends where `cs` begins. Only in front of nothing can its own end be missing. -/
def Precedes (cs : List Char) : Piece → Prop
  | bare c => c ≠ '\\' ∧ ¬(c = '\'' ∨ c = '"')
  | escape escaped => escaped = none → cs = []
  | quote mark text isClosed => (mark = '\'' ∨ mark = '"') ∧ mark ∉ text ∧ (isClosed = false → cs = [])

theorem Precedes.of_empty {p : Piece} {cs cs' : List Char} (h : p.Precedes cs) (hcs : cs = [] → cs' = []) :
    p.Precedes cs' := by
  cases p with
  | bare c => exact h
  | escape escaped => exact fun hnone => hcs (h hnone)
  | quote mark text isClosed => exact ⟨h.1, h.2.1, fun hopen => hcs (h.2.2 hopen)⟩

theorem item?_eq_point_iff (seen : Bool) (p : Piece) : p.item? seen = some .point ↔ seen = false ∧ p = .bare '.' := by
  unfold item?
  split <;> simp_all

theorem item?_congr {p : Piece} (h : p ≠ .bare '.') (seen seen' : Bool) : p.item? seen = p.item? seen' := by
  unfold item?
  split <;> simp_all

end Piece

/-- The pattern cut into pieces. -/
def pieces : List Char → List Piece
  | [] => []
  | ['\\'] => [.escape none]
  | '\\' :: c :: rest => .escape (some c) :: pieces rest
  | c :: rest =>
    if c = '\'' ∨ c = '"' then
      .quote c (rest.takeWhile (· ≠ c)) (decide (c ∈ rest)) :: pieces ((rest.dropWhile (· ≠ c)).drop 1)
    else .bare c :: pieces rest
  termination_by cs => cs.length
  decreasing_by all_goals grind [List.Sublist.length_le, List.dropWhile_sublist]

def source (ps : List Piece) : List Char :=
  ps.flatMap Piece.source

/-- The items that the pieces stand for. -/
def meaning (pointSeen : Bool) : List Piece → List PatternItem
  | [] => []
  | p :: ps => (p.item? pointSeen).toList ++ meaning (pointSeen || p = .bare '.') ps

section Step

variable {p : Piece} {cs : List Char}

theorem ne_of_quote {mark : Char} (h : mark = '\'' ∨ mark = '"') : mark ≠ '\\' ∧ mark ≠ ';' := by
  rcases h with rfl | rfl <;> decide

/-- A quoted text ends at the first mark of its kind, and an open one with the pattern. -/
theorem quote_spans {mark : Char} {text : List Char} {isClosed : Bool}
    (h : (Piece.quote mark text isClosed).Precedes cs) :
    ∃ rest, (Piece.quote mark text isClosed).source ++ cs = mark :: rest ∧ rest.takeWhile (· ≠ mark) = text ∧
      (rest.dropWhile (· ≠ mark)).drop 1 = cs ∧ decide (mark ∈ rest) = isClosed := by
  obtain ⟨-, htext, hopen⟩ := h
  have htext' : ∀ c ∈ text, decide (c ≠ mark) = true := by
    intro c hc
    exact decide_eq_true fun he => htext (he ▸ hc)
  cases isClosed with
  | true =>
    have hend : ∀ c ∈ (mark :: cs).head?, ¬decide (c ≠ mark) = true := by simp
    refine ⟨text ++ mark :: cs, by simp [Piece.source], takeWhile_exact htext' hend, ?_, by simp⟩
    rw [dropWhile_exact htext' hend, List.drop_one, List.tail_cons]
  | false =>
    obtain rfl := hopen rfl
    have hend : ∀ c ∈ ([] : List Char).head?, ¬decide (c ≠ mark) = true := by simp
    refine ⟨text ++ [], by simp [Piece.source], takeWhile_exact htext' hend, ?_, by simp [htext]⟩
    rw [dropWhile_exact htext' hend, List.drop_nil]

theorem exists_quote {mark : Char} (hmark : mark = '\'' ∨ mark = '"') (rest : List Char) :
    ∃ text isClosed cs, (Piece.quote mark text isClosed).Precedes cs ∧
      mark :: rest = (Piece.quote mark text isClosed).source ++ cs := by
  by_cases hmem : mark ∈ rest
  · obtain ⟨text, cs, rfl, htext⟩ := List.eq_append_cons_of_mem hmem
    exact ⟨text, true, cs, ⟨hmark, htext, by simp⟩, by simp [Piece.source]⟩
  · exact ⟨rest, false, [], ⟨hmark, hmem, by simp⟩, by simp [Piece.source]⟩

theorem pieces_source_append (h : p.Precedes cs) : pieces (p.source ++ cs) = p :: pieces cs := by
  cases p with
  | bare c =>
    obtain ⟨hback, hquote⟩ := h
    simp [Piece.source, pieces, hback, hquote]
  | escape escaped =>
    cases escaped with
    | none =>
      obtain rfl := h rfl
      simp [Piece.source, pieces]
    | some c => simp [Piece.source, pieces]
  | quote mark text isClosed =>
    obtain ⟨rest, hsource, htake, hdrop, hmem⟩ := quote_spans h
    obtain ⟨hback, -⟩ := ne_of_quote h.1
    rw [hsource, pieces, if_pos h.1, htake, hdrop, hmem] <;> simp [hback]

/-- A pattern is nothing or a piece in front of a pattern. -/
theorem pieces_induction {motive : List Char → Prop} (nil : motive [])
    (step : ∀ (p : Piece) (cs : List Char), p.Precedes cs → motive cs → motive (p.source ++ cs)) (cs : List Char) :
    motive cs := by
  fun_induction pieces cs with
  | case1 => exact nil
  | case2 => exact step (.escape none) [] (fun _ => rfl) nil
  | case3 c rest ih => exact step (.escape (some c)) rest (by simp [Piece.Precedes]) ih
  | case4 c rest hlone hescape hquote ih =>
    obtain ⟨text, isClosed, tail, hp, hsource⟩ := exists_quote hquote rest
    obtain ⟨rest', hsource', -, hdrop, -⟩ := quote_spans hp
    obtain rfl : rest = rest' := (List.cons.inj (hsource.trans hsource')).2
    rw [hdrop] at ih
    rw [hsource]
    exact step _ tail hp ih
  | case5 c rest hlone hescape hquote ih =>
    refine step (.bare c) rest ⟨?_, hquote⟩ ih
    rintro rfl
    cases rest with
    | nil => exact hlone rfl rfl
    | cons d rest => exact hescape d rest rfl rfl

theorem itemsFrom_source_append (seen : Bool) (h : p.Precedes cs) :
    itemsFrom seen (p.source ++ cs) = (p.item? seen).toList ++ itemsFrom (seen || p = .bare '.') cs := by
  cases p with
  | bare c =>
    obtain ⟨hback, hquote⟩ := h
    by_cases hpoint : c = '.'
    · subst hpoint
      cases seen <;> simp [Piece.source, itemsFrom, Piece.item?]
    · unfold Piece.item?
      split <;> simp_all [Piece.source, itemsFrom]
  | escape escaped =>
    cases escaped with
    | none =>
      obtain rfl := h rfl
      simp [Piece.source, itemsFrom, Piece.item?]
    | some c => simp [Piece.source, itemsFrom, Piece.item?]
  | quote mark text isClosed =>
    obtain ⟨rest, hsource, htake, hdrop, -⟩ := quote_spans h
    have hitems : itemsFrom seen (mark :: rest) = .literal text :: itemsFrom seen cs := by
      rcases h.1 with rfl | rfl
      all_goals rw [itemsFrom, if_pos (by decide), htake, hdrop] <;> simp
    rw [hsource, hitems]
    simp [Piece.item?]

theorem exists_sectionsFrom_eq (q : Quoting) (cs : List Char) :
    ∃ first others, sectionsFrom q cs = first :: others := by
  cases cs with
  | nil => exact ⟨[], [], rfl⟩
  | cons c cs =>
    unfold sectionsFrom
    split
    next => exact ⟨_, _, rfl⟩
    next => split <;> exact ⟨_, _, rfl⟩

variable {first : List Char} {others : List (List Char)}

theorem sectionsFrom_cons {q : Quoting} {c : Char} (hc : ¬(q = .bare ∧ c = ';'))
    (h : sectionsFrom (q.after c) cs = first :: others) : sectionsFrom q (c :: cs) = (c :: first) :: others := by
  rw [sectionsFrom, if_neg hc, h]

theorem sectionsFrom_quoted {mark : Char} {text : List Char} (htext : mark ∉ text)
    (h : sectionsFrom (.quoted mark) cs = first :: others) :
    sectionsFrom (.quoted mark) (text ++ cs) = (text ++ first) :: others := by
  induction text with
  | nil => exact h
  | cons c text ih =>
    have hc : c ≠ mark := fun he => htext (he ▸ List.mem_cons_self)
    have hafter : Quoting.after (.quoted mark) c = .quoted mark := if_neg hc
    refine sectionsFrom_cons (by simp) ?_
    rw [hafter]
    exact ih fun hmem => htext (List.mem_cons_of_mem c hmem)

/-- All of a piece goes to the first section, unless it is the semicolon that ends the section. -/
theorem sections_source_append (hp : p.Precedes cs) (hsemicolon : p ≠ .bare ';') (h : sections cs = first :: others) :
    sections (p.source ++ cs) = (p.source ++ first) :: others := by
  unfold sections at h ⊢
  cases p with
  | bare c =>
    obtain ⟨hback, hquote⟩ := hp
    have hc : c ≠ ';' := fun he => hsemicolon (he ▸ rfl)
    have hafter : Quoting.after .bare c = .bare := by simp [Quoting.after, hback, hquote]
    refine sectionsFrom_cons (fun hbare => hc hbare.2) ?_
    rw [hafter]
    exact h
  | escape escaped =>
    cases escaped with
    | none =>
      obtain rfl := hp rfl
      obtain ⟨rfl, rfl⟩ := List.cons.inj h
      rfl
    | some c =>
      have hescaped : sectionsFrom .escaped (c :: cs) = (c :: first) :: others := sectionsFrom_cons (by simp) h
      exact sectionsFrom_cons (by decide) hescaped
  | quote mark text isClosed =>
    obtain ⟨hmark, htext, hopen⟩ := hp
    obtain ⟨hback, hc⟩ := ne_of_quote hmark
    have hopening : Quoting.after .bare mark = .quoted mark := by simp [Quoting.after, hback, hmark]
    rw [Piece.source, List.cons_append, List.cons_append, List.append_assoc, List.append_assoc]
    refine sectionsFrom_cons (fun hbare => hc hbare.2) ?_
    rw [hopening]
    refine sectionsFrom_quoted htext ?_
    cases isClosed with
    | true =>
      have hclosing : Quoting.after (.quoted mark) mark = .bare := if_pos rfl
      refine sectionsFrom_cons (by simp) ?_
      rw [hclosing]
      exact h
    | false =>
      obtain rfl := hopen rfl
      -- Nothing follows, so it does not matter that the pattern ends inside the quote.
      exact h

end Step

theorem source_pieces (cs : List Char) : source (pieces cs) = cs := by
  induction cs using pieces_induction with
  | nil => rw [pieces]; rfl
  | step p cs hp ih => rw [pieces_source_append hp, source, List.flatMap_cons, ← source, ih]

theorem itemsFrom_eq_meaning (seen : Bool) (cs : List Char) : itemsFrom seen cs = meaning seen (pieces cs) := by
  induction cs using pieces_induction generalizing seen with
  | nil => rw [itemsFrom, pieces, meaning]
  | step p cs hp ih => rw [itemsFrom_source_append seen hp, pieces_source_append hp, meaning, ih]

/-- The sections are made of the pieces of the pattern, each of them whole. -/
theorem map_pieces_sections (cs : List Char) : (sections cs).map pieces = (pieces cs).splitOn (.bare ';') := by
  induction cs using pieces_induction with
  | nil => simp [sections, sectionsFrom, pieces]
  | step p cs hp ih =>
    rw [pieces_source_append hp, List.splitOn_eq_splitOnP, List.splitOnP_cons_eq_if_modifyHead,
      ← List.splitOn_eq_splitOnP, ← ih]
    by_cases hsemicolon : p = .bare ';'
    · subst hsemicolon
      have hsections : sections (Piece.source (.bare ';') ++ cs) = [] :: sections cs := rfl
      rw [hsections, List.map_cons, pieces, if_pos (beq_self_eq_true _)]
    · obtain ⟨first, others, hsections⟩ := exists_sectionsFrom_eq .bare cs
      have hfirst : p.Precedes first := by
        refine hp.of_empty ?_
        rintro rfl
        exact (List.cons.inj hsections).1.symm
      rw [sections_source_append hp hsemicolon hsections, sections, hsections, if_neg (by simpa using hsemicolon),
        List.map_cons, List.map_cons, List.modifyHead_cons, pieces_source_append hfirst]

theorem sections_eq (cs : List Char) : sections cs = ((pieces cs).splitOn (.bare ';')).map source := by
  have hsource : source ∘ pieces = id := funext source_pieces
  rw [← map_pieces_sections, List.map_map, hsource, List.map_id]

/-- A pattern can be read on from between any two of its pieces. -/
theorem pieces_source_of_append {cs : List Char} {ps qs : List Piece} (h : pieces cs = ps ++ qs) :
    pieces (source qs) = qs := by
  induction cs using pieces_induction generalizing ps with
  | nil =>
    obtain ⟨-, rfl⟩ := List.append_eq_nil_iff.mp (h.symm.trans pieces.eq_1)
    exact pieces.eq_1
  | step p cs hp ih =>
    have hcons := h
    rw [pieces_source_append hp] at hcons
    cases ps with
    | nil =>
      obtain rfl : pieces (p.source ++ cs) = qs := h
      rw [source_pieces]
    | cons p' ps => exact ih (List.cons.inj hcons).2

theorem source_append (ps qs : List Piece) : source (ps ++ qs) = source ps ++ source qs :=
  List.flatMap_append

theorem source_intercalate (p : Piece) (pss : List (List Piece)) :
    source ([p].intercalate pss) = p.source.intercalate (pss.map source) := by
  induction pss with
  | nil => rfl
  | cons ps pss ih =>
    cases pss with
    | nil => simp [List.intercalate_singleton]
    | cons ps' pss =>
      rw [List.map_cons] at ih
      rw [List.intercalate_cons_cons, source_append, source_append, ih, List.map_cons, List.map_cons,
        List.intercalate_cons_cons, source, source, List.flatMap_singleton]

theorem intercalate_source_splitOn (ps : List Piece) :
    [';'].intercalate ((ps.splitOn (.bare ';')).map source) = source ps := by
  have hjoined := source_intercalate (.bare ';') (ps.splitOn (.bare ';'))
  rw [List.intercalate_splitOn] at hjoined
  exact hjoined.symm

theorem intercalate_sections (cs : List Char) : [';'].intercalate (sections cs) = cs := by
  rw [sections_eq, intercalate_source_splitOn, source_pieces]

/-- A semicolon between the two texts ends a section of the pattern. -/
def PartsAt (pattern before after : List Char) : Prop :=
  ∃ xss yss, xss ≠ [] ∧ yss ≠ [] ∧ sections pattern = xss ++ yss ∧
    [';'].intercalate xss = before ∧ [';'].intercalate yss = after

/-- A semicolon between the two texts is a piece of the pattern by itself. -/
def TakesBareAt (pattern before after : List Char) : Prop :=
  ∃ ps qs, pieces pattern = ps ++ .bare ';' :: qs ∧ source ps = before ∧ source qs = after

theorem partsAt_iff (pattern before after : List Char) :
    PartsAt pattern before after ↔ TakesBareAt pattern before after := by
  constructor
  · rintro ⟨xss, yss, hx, hy, hsections, hbefore, hafter⟩
    rw [sections_eq] at hsections
    obtain ⟨pss, qss, hsplit, rfl, rfl⟩ := List.map_eq_append_iff.mp hsections
    have hjoined : [.bare ';'].intercalate ((pieces pattern).splitOn (.bare ';')) = pieces pattern :=
      List.intercalate_splitOn _
    rw [hsplit, intercalate_append (by simpa using hx) (by simpa using hy), List.append_assoc,
      List.singleton_append] at hjoined
    exact ⟨_, _, hjoined.symm, (source_intercalate _ pss).trans hbefore, (source_intercalate _ qss).trans hafter⟩
  · rintro ⟨ps, qs, hpieces, rfl, rfl⟩
    have hsections : sections pattern =
        (ps.splitOn (.bare ';')).map source ++ (qs.splitOn (.bare ';')).map source := by
      rw [sections_eq, hpieces, splitOn_append_cons, List.map_append]
    exact ⟨_, _, by simp, by simp, hsections, intercalate_source_splitOn ps, intercalate_source_splitOn qs⟩

/-! Of the pieces in front only a bare point matters to those behind. -/

theorem meaning_append (seen : Bool) (ps qs : List Piece) :
    meaning seen (ps ++ qs) = meaning seen ps ++ meaning (seen || .bare '.' ∈ ps) qs := by
  induction ps generalizing seen with
  | nil => simp [meaning]
  | cons p ps ih =>
    rw [List.cons_append, meaning, ih, meaning, List.append_assoc]
    congr 3
    simp [eq_comm, Bool.or_assoc]

theorem point_mem_meaning_iff (seen : Bool) (ps : List Piece) :
    .point ∈ meaning seen ps ↔ seen = false ∧ .bare '.' ∈ ps := by
  induction ps generalizing seen with
  | nil => simp [meaning]
  | cons p ps ih =>
    rw [meaning, List.mem_append, ih, Option.mem_toList, Piece.item?_eq_point_iff, List.mem_cons]
    by_cases hp : p = .bare '.' <;> simp [hp, eq_comm]

theorem meaning_of_not_mem {ps : List Piece} (h : .bare '.' ∉ ps) (seen seen' : Bool) :
    meaning seen ps = meaning seen' ps := by
  induction ps generalizing seen seen' with
  | nil => rfl
  | cons p ps ih =>
    rw [List.mem_cons, not_or] at h
    rw [meaning, meaning, Piece.item?_congr (Ne.symm h.1) seen seen', ih h.2]

theorem items_eq_append {cs : List Char} {ps qs : List Piece} (h : pieces cs = ps ++ qs) :
    items cs = meaning false ps ++ itemsFrom (.bare '.' ∈ ps) (source qs) := by
  rw [items, itemsFrom_eq_meaning, h, meaning_append, itemsFrom_eq_meaning, pieces_source_of_append h, Bool.false_or]

theorem point_mem_items_iff (cs : List Char) : .point ∈ items cs ↔ .bare '.' ∈ pieces cs := by
  rw [items, itemsFrom_eq_meaning, point_mem_meaning_iff]
  exact and_iff_right rfl

/-- Joined, lists of pieces mean what they mean apart if at most one of them has a point. -/
theorem meaning_intercalate {pss : List (List Piece)} (h : pss.countP (.bare '.' ∈ ·) ≤ 1) :
    meaning false ([.bare ';'].intercalate pss) = [.literal [';']].intercalate (pss.map (meaning false)) := by
  induction pss with
  | nil => rfl
  | cons ps pss ih =>
    by_cases hne : pss = []
    · rw [hne, List.map_singleton, List.intercalate_singleton, List.intercalate_singleton]
    · rw [List.countP_cons] at h
      have hseen : decide (.bare '.' ∈ ps ++ [.bare ';']) = decide (.bare '.' ∈ ps) := by simp
      have hsemicolon : meaning (.bare '.' ∈ ps) [.bare ';'] = [.literal [';']] := by simp [meaning, Piece.item?]
      have hbehind : meaning (.bare '.' ∈ ps) ([.bare ';'].intercalate pss) =
          meaning false ([.bare ';'].intercalate pss) := by
        by_cases hpoint : .bare '.' ∈ ps
        · refine meaning_of_not_mem ?_ _ _
          rw [mem_intercalate_iff (by simp)]
          rintro ⟨qs, hqs, hmem⟩
          have hpos : 0 < pss.countP (.bare '.' ∈ ·) := List.countP_pos_iff.mpr ⟨qs, hqs, decide_eq_true hmem⟩
          simp only [hpoint, decide_true, if_true] at h
          omega
        · rw [decide_eq_false hpoint]
      rw [List.intercalate_cons_of_ne_nil hne, List.map_cons, List.intercalate_cons_of_ne_nil (by simpa using hne),
        meaning_append, meaning_append, Bool.false_or, Bool.false_or, hseen, hsemicolon, hbehind, ih (by omega)]

/-- The sections mean apart what they mean in the whole pattern exactly if at most one of them has a point. -/
theorem items_eq_intercalate_iff (cs : List Char) :
    items cs = [.literal [';']].intercalate ((sections cs).map items) ↔
      (sections cs).countP (.bare '.' ∈ pieces ·) ≤ 1 := by
  constructor
  · intro h
    have hpoints : ((sections cs).map items).countP (.point ∈ ·) ≤ (items cs).count .point :=
      h ▸ countP_mem_le_count_intercalate _
    have hmem : (fun xs => decide (.point ∈ xs)) ∘ items = fun xs => decide (.bare '.' ∈ pieces xs) :=
      funext fun xs => decide_eq_decide.mpr (point_mem_items_iff xs)
    rw [List.countP_map, hmem] at hpoints
    exact Nat.le_trans hpoints (count_point_itemsFrom false cs)
  · intro h
    have hmeaning : meaning false ([.bare ';'].intercalate ((sections cs).map pieces)) =
        [.literal [';']].intercalate (((sections cs).map pieces).map (meaning false)) :=
      meaning_intercalate (by rwa [List.countP_map])
    have hitems : meaning false ∘ pieces = items := funext fun xs => (itemsFrom_eq_meaning false xs).symm
    rw [List.map_map, hitems, map_pieces_sections, List.intercalate_splitOn, ← itemsFrom_eq_meaning] at hmeaning
    exact hmeaning

/-- Sections and pieces agree on what is quoted. The reader goes through the pattern piece by piece; a semicolon ends a
section exactly if it is a piece by itself, so the sections keep all other pieces whole and are read apart like the
whole pattern, if there is one point at most. -/
theorem sections_agree_with_pieces (pattern : List Char) :
    (source (pieces pattern) = pattern ∧ ∀ ps qs, pieces pattern = ps ++ qs →
      items pattern = meaning false ps ++ itemsFrom (.bare '.' ∈ ps) (source qs)) ∧
    (∀ before after, PartsAt pattern before after ↔ TakesBareAt pattern before after) ∧
    [';'].intercalate (sections pattern) = pattern ∧
    (sections pattern).map pieces = (pieces pattern).splitOn (.bare ';') ∧
    ((pieces pattern).count (.bare '.') ≤ 1 →
      items pattern = [.literal [';']].intercalate ((sections pattern).map items)) := by
  refine ⟨⟨source_pieces pattern, fun ps qs => items_eq_append⟩, partsAt_iff pattern, intercalate_sections pattern,
    map_pieces_sections pattern, fun hpoint => ?_⟩
  have hsections : ((sections pattern).map pieces).countP (.bare '.' ∈ ·) ≤
      ([.bare ';'].intercalate ((sections pattern).map pieces)).count (.bare '.') :=
    countP_mem_le_count_intercalate _
  rw [List.countP_map, map_pieces_sections, List.intercalate_splitOn] at hsections
  exact (items_eq_intercalate_iff pattern).mpr (Nat.le_trans hsections hpoint)

/-- Semicolons escaped, behind the other quote and a backslash in quotes, behind an escaped quote, and in a quote left
open. -/
theorem sections_agree_with_pieces_crowded :
    let pattern := "0\\;\"a;'\\\";\\'.;#';x".toList
    let ps : List Piece := [.bare '0', .escape (some ';'), .quote '"' "a;'\\".toList true]
    let qs : List Piece := [.escape (some '\''), .bare '.', .bare ';', .bare '#', .quote '\'' ";x".toList false]
    pieces pattern = ps ++ .bare ';' :: qs ∧ (pieces pattern).count (.bare '.') ≤ 1 ∧
      sections pattern = ["0\\;\"a;'\\\"".toList, "\\'.".toList, "#';x".toList] ∧
      PartsAt pattern "0\\;\"a;'\\\"".toList "\\'.;#';x".toList ∧
      items pattern =
        [.zero, .literal [';'], .literal "a;'\\".toList] ++
          [.literal [';'], .literal ['\''], .point] ++ [.literal [';'], .hash, .literal ";x".toList] := by
  intro pattern ps qs
  obtain ⟨-, hparts, -, -, hitems⟩ := sections_agree_with_pieces pattern
  have hpieces : pieces pattern = ps ++ .bare ';' :: qs := by decide +kernel
  have hpoint : (pieces pattern).count (.bare '.') ≤ 1 := by decide +kernel
  have hbare : TakesBareAt pattern "0\\;\"a;'\\\"".toList "\\'.;#';x".toList := ⟨ps, qs, hpieces, rfl, rfl⟩
  refine ⟨hpieces, hpoint, by decide +kernel, (hparts _ _).mpr hbare, ?_⟩
  rw [hitems hpoint]
  decide +kernel

end Pattern

end StructuredMessage
