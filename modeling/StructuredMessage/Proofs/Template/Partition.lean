import StructuredMessage.Proofs.Template.Reading
import StructuredMessage.Template.Render

namespace StructuredMessage

namespace Template

/-- Text in which opening braces come in pairs only, and the same text with pairs of braces made single,
read from the left. A closing brace may also stand alone. -/
inductive Unescapes : List Char → List Char → Prop
  | nil : Unescapes [] []
  | opening {source text : List Char} : Unescapes source text →
      Unescapes ('\x7b' :: '\x7b' :: source) ('\x7b' :: text)
  | closing {source text : List Char} : Unescapes source text →
      Unescapes ('\x7d' :: '\x7d' :: source) ('\x7d' :: text)
  | single {c : Char} {source text : List Char} : c ≠ '\x7b' →
      (c = '\x7d' → source.head? ≠ some '\x7d') → Unescapes source text →
      Unescapes (c :: source) (c :: text)

theorem literalRun_unescapes (cs : List Char) :
    ∃ source, cs = source ++ (literalRun cs).2 ∧ Unescapes source (literalRun cs).1 := by
  fun_induction literalRun cs with
  | case1 => exact ⟨[], rfl, .nil⟩
  | case2 rest text tail hr ih =>
    rw [hr] at ih
    obtain ⟨source, hs, hu⟩ := ih
    exact ⟨'\x7b' :: '\x7b' :: source, by simp [hs], .opening hu⟩
  | case3 rest => exact ⟨[], rfl, .nil⟩
  | case4 rest text tail hr ih =>
    rw [hr] at ih
    obtain ⟨source, hs, hu⟩ := ih
    exact ⟨'\x7d' :: '\x7d' :: source, by simp [hs], .closing hu⟩
  | case5 c rest _ ho hc text tail hr ih =>
    rw [hr] at ih
    obtain ⟨source, hs, hu⟩ := ih
    refine ⟨c :: source, by simp [hs], .single ho ?_ hu⟩
    intro he hh
    obtain ⟨source', hs'⟩ := List.head?_eq_some_iff.mp hh
    exact hc (source' ++ tail) he (by simp [hs, hs'])

end Template

namespace Token

/-- How a token accounts for the piece `slice` of the text in front of `following`. A placeholder keeps the
piece as its source. A text either keeps it, the piece then beginning with a brace that is not doubled, or
has the pairs of braces in it made single. -/
def Accounts (slice following : List Char) : Token → Prop
  | placeholder p =>
    p.source = String.ofList slice ∧
      ∃ inner, slice = '\x7b' :: inner ++ ['\x7d'] ∧ '\x7d' ∉ inner
  | text content _ =>
    (content = String.ofList slice ∧
      ∃ inner, slice = '\x7b' :: inner ∧ (inner ++ following).head? ≠ some '\x7b') ∨
    Template.Unescapes slice content.toList

/-- The token begins at the byte `start` and accounts for a piece of text that is not empty. -/
structure Spans (start : Nat) (slice following : List Char) (token : Token) : Prop where
  start_eq : token.start = start
  ne_nil : slice ≠ []
  accounts : token.Accounts slice following

end Token

namespace Template

theorem not_mem_takeWhile_isTagChar (cs : List Char) :
    '\x7d' ∉ cs.takeWhile Placeholder.isTagChar := by
  intro h
  exact Placeholder.not_isTagChar_close (List.mem_takeWhile_imp h)

theorem ofContent?_source {start : Nat} {content : List Char} {p : Placeholder}
    (h : Placeholder.ofContent? start content = some p) :
    p.start = start ∧ p.source = String.ofList ('\x7b' :: content ++ ['\x7d']) := by
  simp only [Placeholder.ofContent?] at h
  split at h
  · simp at h
  · split at h
    · cases Option.some.inj h
      exact ⟨rfl, rfl⟩
    · obtain ⟨a, _, ha⟩ := Option.map_eq_some_iff.mp h
      subst ha
      exact ⟨rfl, rfl⟩

theorem readTag_spans (start : Nat) (cs : List Char) (hc : cs.head? ≠ some '\x7b') :
    ∃ slice, '\x7b' :: cs = slice ++ (readTag start cs).2 ∧
      (readTag start cs).1.Spans start slice (readTag start cs).2 := by
  have hsplit := List.takeWhile_append_dropWhile (p := Placeholder.isTagChar) (l := cs)
  have hinner := not_mem_takeWhile_isTagChar cs
  unfold readTag
  generalize cs.takeWhile Placeholder.isTagChar = run at hsplit hinner
  dsimp only
  split
  next rest hr =>
    rw [hr] at hsplit
    refine ⟨'\x7b' :: run ++ ['\x7d'], by split <;> simp [← hsplit], ?_⟩
    split
    next p hp =>
      obtain ⟨hs, hsrc⟩ := ofContent?_source hp
      exact ⟨hs, by simp, hsrc, run, rfl, hinner⟩
    next =>
      refine ⟨rfl, by simp, Or.inl ⟨rfl, run ++ ['\x7d'], rfl, ?_⟩⟩
      simpa [← hsplit] using hc
  next rest hr =>
    refine ⟨'\x7b' :: run, by simp [hsplit], rfl, by simp, Or.inl ⟨rfl, run, rfl, ?_⟩⟩
    simpa [hsplit] using hc

theorem readToken_spans (start : Nat) (c : Char) (cs : List Char) :
    ∃ slice, c :: cs = slice ++ (readToken start (c :: cs)).2 ∧
      (readToken start (c :: cs)).1.Spans start slice (readToken start (c :: cs)).2 := by
  have hlt := readToken_length_lt start c cs
  by_cases h : c = '\x7b' ∧ cs.head? ≠ some '\x7b'
  · obtain ⟨rfl, hh⟩ := h
    rw [readToken_tag start hh]
    exact readTag_spans start cs hh
  · have hl : ∀ rest, c :: cs = '\x7b' :: rest → rest.head? = some '\x7b' := by
      intro rest hr
      obtain ⟨rfl, rfl⟩ := List.cons.inj hr
      exact not_not.mp fun hh => h ⟨rfl, hh⟩
    rw [readToken_literal start hl] at hlt ⊢
    obtain ⟨slice, hs, hu⟩ := literalRun_unescapes (c :: cs)
    refine ⟨slice, hs, rfl, ?_, Or.inr (by simpa [readLiteral] using hu)⟩
    intro hnil
    rw [hnil, List.nil_append] at hs
    rw [hs] at hlt
    exact absurd hlt (by simp [readLiteral, ← hs])

/-- The tokens stand for consecutive pieces of a text that begins at the byte `start`. -/
inductive Tiles : Nat → List Char → List Token → Prop
  | nil (start : Nat) : Tiles start [] []
  | cons {start : Nat} {slice following : List Char} {token : Token} {tokens : List Token} :
      token.Spans start slice following →
      Tiles (start + Text.byteLength slice) following tokens →
      Tiles start (slice ++ following) (token :: tokens)

theorem tokensFrom_tiles (start : Nat) (cs : List Char) : Tiles start cs (tokensFrom start cs) := by
  fun_induction tokensFrom start cs with
  | case1 start => exact .nil start
  | case2 start c cs next ih =>
    obtain ⟨slice, hs, hspan⟩ := readToken_spans start c cs
    have hlen : Text.byteLength (c :: cs) - Text.byteLength next.2 = Text.byteLength slice := by
      rw [hs, Text.byteLength_append]
      exact Nat.add_sub_cancel ..
    rw [hlen] at ih ⊢
    rw [hs]
    exact .cons hspan ih

/-- The bytes at which the pieces begin, and the end of the last one. -/
def cuts (finish : Nat) (tokens : List Token) : List Nat :=
  tokens.map Token.start ++ [finish]

theorem Tiles.start_le_cuts {start : Nat} {cs : List Char} {tokens : List Token}
    (h : Tiles start cs tokens) : ∀ x ∈ cuts (start + Text.byteLength cs) tokens, start ≤ x := by
  induction h with
  | nil start => simp [cuts]
  | @cons start slice following token tokens hspan _ ih =>
    intro x hx
    rw [Text.byteLength_append, ← Nat.add_assoc] at hx
    rcases List.mem_cons.mp hx with rfl | hx
    · exact hspan.start_eq.ge
    · have := ih x hx
      omega

theorem Tiles.cuts_increase {start : Nat} {cs : List Char} {tokens : List Token}
    (h : Tiles start cs tokens) : (cuts (start + Text.byteLength cs) tokens).Pairwise (· < ·) := by
  induction h with
  | nil start => simp [cuts]
  | @cons start slice following token tokens hspan htail ih =>
    rw [Text.byteLength_append, ← Nat.add_assoc]
    refine List.pairwise_cons.mpr ⟨?_, ih⟩
    intro x hx
    have hle := htail.start_le_cuts x hx
    have hpos := Text.byteLength_pos hspan.ne_nil
    have hstart := hspan.start_eq
    omega

theorem Tiles.head?_cuts {start : Nat} {cs : List Char} {tokens : List Token}
    (h : Tiles start cs tokens) : (cuts (start + Text.byteLength cs) tokens).head? = some start := by
  cases h with
  | nil => simp [cuts, Text.byteLength]
  | cons hspan => exact congrArg some hspan.start_eq

/-- The piece of one token, between its own cut and the next one. -/
theorem Tiles.slice_at {start : Nat} {cs : List Char} {tokens : List Token}
    (h : Tiles start cs tokens) {i : Nat} {token : Token} (hi : tokens[i]? = some token) :
    ∃ before slice after, cs = before ++ slice ++ after ∧ token.Accounts slice after ∧
      (cuts (start + Text.byteLength cs) tokens)[i]? = some (start + Text.byteLength before) ∧
      (cuts (start + Text.byteLength cs) tokens)[i + 1]? =
        some (start + Text.byteLength (before ++ slice)) := by
  induction h generalizing i with
  | nil => simp at hi
  | @cons start slice following head tokens hspan htail ih =>
    rw [Text.byteLength_append slice following, ← Nat.add_assoc]
    cases i with
    | zero =>
      obtain rfl : head = token := by simpa using hi
      refine ⟨[], slice, following, by simp, hspan.accounts, ?_, ?_⟩
      · exact congrArg some hspan.start_eq
      · have hh := htail.head?_cuts
        rw [List.head?_eq_getElem?] at hh
        simpa [cuts] using hh
    | succ i =>
      obtain ⟨before, piece, after, hcs, ha, hfrom, hto⟩ := ih (by simpa using hi)
      refine ⟨slice ++ before, piece, after, by simp [hcs], ha, ?_, ?_⟩
      · rw [Text.byteLength_append, ← Nat.add_assoc]
        exact hfrom
      · rw [List.append_assoc, Text.byteLength_append, ← Nat.add_assoc]
        exact hto

theorem Unescapes.eq_of_no_pairs {source text : List Char} (h : Unescapes source text)
    (ho : ¬['\x7b', '\x7b'] <:+: source) (hc : ¬['\x7d', '\x7d'] <:+: source) : text = source := by
  induction h with
  | nil => rfl
  | @opening source text _ _ => exact absurd ⟨[], source, rfl⟩ ho
  | @closing source text _ _ => exact absurd ⟨[], source, rfl⟩ hc
  | @single c source text _ _ _ ih =>
    have hinfix : source <:+: c :: source := (List.suffix_cons c source).isInfix
    rw [ih (fun hh => ho (hh.trans hinfix)) (fun hh => hc (hh.trans hinfix))]

theorem display_of_accounts {slice following : List Char} {token : Token}
    (h : token.Accounts slice following)
    (ho : ¬['\x7b', '\x7b'] <:+: slice) (hc : ¬['\x7d', '\x7d'] <:+: slice) :
    token.display = String.ofList slice := by
  cases token with
  | placeholder p => exact h.1
  | text content start =>
    rcases h with ⟨he, _⟩ | hu
    · exact he
    · rw [Token.display, ← hu.eq_of_no_pairs ho hc, String.ofList_toList]

theorem add_unbound (locale : Locale) (out : String) (token : Token) :
    Token.add [] locale out token = out ++ token.display := by
  cases token <;> rfl

/-- With nothing bound, pieces without pairs of braces are shown as they are. -/
theorem Tiles.foldl_add_unbound {start : Nat} {cs : List Char} {tokens : List Token}
    (h : Tiles start cs tokens) (locale : Locale)
    (ho : ¬['\x7b', '\x7b'] <:+: cs) (hc : ¬['\x7d', '\x7d'] <:+: cs) (out : String) :
    tokens.foldl (Token.add [] locale) out = out ++ String.ofList cs := by
  induction h generalizing out with
  | nil => simp
  | @cons start slice following token tokens hspan _ ih =>
    have hslice : slice <:+: slice ++ following := (List.prefix_append slice following).isInfix
    have hrest : following <:+: slice ++ following := (List.suffix_append slice following).isInfix
    have hshown := display_of_accounts hspan.accounts (fun hh => ho (hh.trans hslice))
      (fun hh => hc (hh.trans hslice))
    rw [List.foldl_cons, add_unbound, hshown, ih (fun hh => ho (hh.trans hrest))
      (fun hh => hc (hh.trans hrest)), String.ofList_append, String.append_assoc]

theorem parse_tokens_of_ne {text : String} (h : text ≠ "") :
    (parse text).tokens = tokensFrom 0 text.toList := by
  simp [parse, String.isEmpty_iff, h]

theorem parse_tokens_empty : (parse "").tokens = [.text "" 0] := rfl

theorem parse_tiles {text : String} (h : text ≠ "") : Tiles 0 text.toList (parse text).tokens := by
  rw [parse_tokens_of_ne h]
  exact tokensFrom_tiles 0 text.toList

theorem render_parse_unbound (text : String) (locale : Locale)
    (ho : ¬['\x7b', '\x7b'] <:+: text.toList) (hc : ¬['\x7d', '\x7d'] <:+: text.toList) :
    (parse text).render [] locale = text := by
  by_cases h : text = ""
  · subst h
    rfl
  · have hfold := (parse_tiles h).foldl_add_unbound locale ho hc ""
    simpa [render, renderOnto] using hfold

/-- The tokens of a text cut it into pieces, in order and without gaps. The first cut is the beginning and
the last one the end of the text, each cut has whole characters before it, and each token accounts for
the piece behind its cut. A text without doubled braces is what its template shows with nothing bound. -/
theorem parse_partitions (text : String) :
    (cuts text.utf8ByteSize (parse text).tokens).head? = some 0 ∧
    (text ≠ "" → (cuts text.utf8ByteSize (parse text).tokens).Pairwise (· < ·)) ∧
    (text = "" → (parse text).tokens = [.text "" 0]) ∧
    (∀ i token, (parse text).tokens[i]? = some token →
      ∃ before slice after, text.toList = before ++ slice ++ after ∧ token.Accounts slice after ∧
        (cuts text.utf8ByteSize (parse text).tokens)[i]? = some (Text.byteLength before) ∧
        (cuts text.utf8ByteSize (parse text).tokens)[i + 1]? =
          some (Text.byteLength (before ++ slice))) ∧
    (¬['\x7b', '\x7b'] <:+: text.toList → ¬['\x7d', '\x7d'] <:+: text.toList →
      ∀ locale, (parse text).render [] locale = text) := by
  have hrender := fun ho hc locale => render_parse_unbound text locale ho hc
  by_cases h : text = ""
  · subst h
    refine ⟨rfl, fun hne => absurd rfl hne, fun _ => rfl, ?_, hrender⟩
    intro i token hi
    obtain ⟨rfl, rfl⟩ : i = 0 ∧ token = .text "" 0 := by
      cases i with
      | zero => exact ⟨rfl, (Option.some.inj hi).symm⟩
      | succ i => simp [parse_tokens_empty] at hi
    exact ⟨[], [], [], rfl, Or.inr .nil, rfl, rfl⟩
  · have htiles := parse_tiles h
    have hend : 0 + Text.byteLength text.toList = text.utf8ByteSize := by
      rw [Nat.zero_add, Text.byteLength_toList]
    rw [← hend]
    refine ⟨htiles.head?_cuts, fun _ => htiles.cuts_increase, fun he => absurd he h, ?_, hrender⟩
    intro i token hi
    simpa only [Nat.zero_add] using htiles.slice_at hi

end Template

end StructuredMessage
