import StructuredMessage.Proofs.Template.Partition
import StructuredMessage.Proofs.Template.Spelling

namespace StructuredMessage

/-- The token of a text that begins `bytes` later. -/
def Token.later (bytes : Nat) : Token → Token
  | text content start => text content (start + bytes)
  | placeholder p => placeholder { p with start := p.start + bytes }

theorem Placeholder.ofContent?_add (start bytes : Nat) (content : List Char) :
    ofContent? (start + bytes) content =
      (ofContent? start content).map fun p => { p with start := p.start + bytes } := by
  unfold ofContent?
  dsimp only
  split
  next => rfl
  next =>
    split
    next => rfl
    next => rw [Option.map_map]; rfl

namespace Template

/-! Where a text begins is seen in the starts of its tokens and nowhere else. -/

theorem readTag_add (start bytes : Nat) (cs : List Char) :
    readTag (start + bytes) cs = ((readTag start cs).1.later bytes, (readTag start cs).2) := by
  unfold readTag
  dsimp only
  split
  next =>
    rw [Placeholder.ofContent?_add]
    cases Placeholder.ofContent? start (cs.takeWhile Placeholder.isTagChar) <;> rfl
  next => rfl

theorem readToken_add (start bytes : Nat) (cs : List Char) :
    readToken (start + bytes) cs = ((readToken start cs).1.later bytes, (readToken start cs).2) := by
  unfold readToken
  split
  next => rfl
  next => exact readTag_add start bytes _
  next => rfl

theorem tokensFrom_add (start bytes : Nat) (cs : List Char) :
    tokensFrom (start + bytes) cs = (tokensFrom start cs).map (Token.later bytes) := by
  fun_induction tokensFrom start cs with
  | case1 start => rw [tokensFrom]; rfl
  | case2 start c cs next ih =>
    rw [tokensFrom, readToken_add, List.map_cons, ← ih, Nat.add_right_comm]

/-! What more text can change is the last token of a text only, and never a placeholder. -/

/-- A literal in front of a brace ends there whatever is added behind, if the brace is known to stand alone. -/
theorem literalRun_append {cs : List Char} (more : List Char) (hend : (literalRun cs).2 ≠ [])
    (hopen : (literalRun cs).2 ≠ ['\x7b']) :
    literalRun (cs ++ more) = ((literalRun cs).1, (literalRun cs).2 ++ more) := by
  fun_induction literalRun cs with
  | case1 => exact absurd rfl hend
  | case2 rest text tail hr ih =>
    rw [hr] at ih
    simp only [List.cons_append, literalRun, ih hend hopen]
  | case3 rest hdouble =>
    obtain ⟨c, rest, rfl⟩ := List.exists_cons_of_ne_nil fun hnil => hopen (congrArg _ hnil)
    have hc : c ≠ '\x7b' := fun he => hdouble rest (by rw [he])
    simp [literalRun, hc]
  | case4 rest text tail hr ih =>
    rw [hr] at ih
    simp only [List.cons_append, literalRun, ih hend hopen]
  | case5 c rest hdouble hbrace hclose text tail hr ih =>
    rw [hr] at ih
    -- More follows a closing brace already, so it is known whether it is doubled.
    have hdouble' : ∀ tail', c = '\x7b' → rest ++ more = '\x7b' :: tail' → False := fun _ he _ => hbrace he
    have hclose' : ∀ tail', c = '\x7d' → rest ++ more = '\x7d' :: tail' → False := by
      intro tail' he happend
      cases rest with
      | nil =>
        rw [literalRun] at hr
        exact hend (Prod.mk.inj hr).2.symm
      | cons d rest => exact hclose rest he (by rw [(List.cons.inj happend).1])
    rw [List.cons_append, literalRun, ih hend hopen]
    · exact hdouble'
    · exact hbrace
    · exact hclose'

/-- Whether nothing that is added behind a text can change its first token: the token ends before the text does and
not in front of a last brace, which could be doubled, or it is a placeholder. -/
def IsSettled (next : Token × List Char) : Prop :=
  next.2 ≠ ['\x7b'] ∧ (next.2 = [] → next.1.placeholder?.isSome)

theorem readTag_append {start : Nat} {cs : List Char} (more : List Char)
    (hend : (readTag start cs).2 = [] → (readTag start cs).1.placeholder?.isSome) :
    readTag start (cs ++ more) = ((readTag start cs).1, (readTag start cs).2 ++ more) := by
  obtain ⟨run, behind, rfl, hrun, hbehind, hread⟩ := readTag_cases start cs
  have hne : behind ≠ [] := by
    rintro rfl
    obtain ⟨_, _, h, -⟩ | ⟨_, h, -⟩ | ⟨-, h⟩ := hread
    · cases h
    · cases h
    · rw [h] at hend
      exact Bool.noConfusion (hend rfl)
  obtain ⟨c, rest, rfl⟩ := List.exists_cons_of_ne_nil hne
  have hmore : ∀ d ∈ (c :: (rest ++ more)).head?, ¬Placeholder.isTagChar d := by simpa using hbehind
  have htake := takeWhile_exact hrun hmore
  have hdrop := dropWhile_exact hrun hmore
  rw [List.append_assoc, List.cons_append]
  obtain ⟨p, rest, hrest, hp, h⟩ | ⟨rest, hrest, hp, h⟩ | ⟨hopen, h⟩ := hread
  · cases hrest
    rw [h]
    simp only [readTag, htake, hdrop, hp]
  · cases hrest
    rw [h]
    simp only [readTag, htake, hdrop, hp]
  · have hc : c ≠ '\x7d' := by simpa using hopen
    rw [h]
    simp [readTag, htake, hdrop, hc]

theorem readToken_append {start : Nat} {cs : List Char} (more : List Char) (h : IsSettled (readToken start cs)) :
    readToken start (cs ++ more) = ((readToken start cs).1, (readToken start cs).2 ++ more) := by
  obtain ⟨hopen, hend⟩ := h
  have hne : cs ≠ [] := by
    rintro rfl
    exact Bool.noConfusion (hend rfl)
  obtain ⟨c, rest, rfl⟩ := List.exists_cons_of_ne_nil hne
  by_cases htag : c = '\x7b' ∧ rest.head? ≠ some '\x7b'
  · obtain ⟨rfl, hhead⟩ := htag
    rw [readToken_tag start hhead] at hend ⊢
    have hhead' : (rest ++ more).head? ≠ some '\x7b' := by
      cases rest with
      | nil => exact Bool.noConfusion (hend rfl)
      | cons d rest => exact hhead
    rw [List.cons_append, readToken_tag start hhead', readTag_append more hend]
  · have hhead (tail : List Char) (hcs : c :: rest = '\x7b' :: tail) : tail.head? = some '\x7b' := by
      obtain ⟨rfl, rfl⟩ := List.cons.inj hcs
      exact not_not.mp fun hhead => htag ⟨rfl, hhead⟩
    rw [readToken_literal start hhead] at hopen hend ⊢
    have hrun : (literalRun (c :: rest)).2 ≠ [] := by
      intro hnil
      exact Bool.noConfusion (hend hnil)
    have hhead' (tail : List Char) (hcs : c :: rest ++ more = '\x7b' :: tail) : tail.head? = some '\x7b' := by
      obtain ⟨rfl, rfl⟩ := List.cons.inj hcs
      obtain ⟨after, rfl⟩ := List.head?_eq_some_iff.mp (hhead rest rfl)
      rfl
    rw [readToken_literal start hhead', readLiteral, readLiteral, literalRun_append more hrun hopen]

/-- A placeholder at the end is still to come behind every token that is not it. -/
theorem isSettled_of_getLast? {start : Nat} {next : Token × List Char} {p : Placeholder}
    (h : (next.1 :: tokensFrom start next.2).getLast? = some (.placeholder p)) : IsSettled next := by
  obtain ⟨token, rest⟩ := next
  constructor
  · rintro rfl
    simp [tokensFrom, readToken, readTag] at h
  · rintro rfl
    have htoken : token = .placeholder p := by simpa [tokensFrom] using h
    rw [htoken]
    rfl

/-- Behind a last token that is a placeholder a text goes on as if it began there. -/
theorem tokensFrom_append {start : Nat} {cs : List Char} {p : Placeholder} (more : List Char)
    (h : (tokensFrom start cs).getLast? = some (.placeholder p)) :
    tokensFrom start (cs ++ more) = tokensFrom start cs ++ tokensFrom (start + Text.byteLength cs) more := by
  fun_induction tokensFrom start cs with
  | case1 start => simp at h
  | case2 start c cs next ih =>
    obtain ⟨slice, hslice, hspan⟩ := readToken_spans start c cs
    have hread : readToken start (slice ++ (next.2 ++ more)) = (next.1, next.2 ++ more) := by
      rw [← List.append_assoc, ← hslice, readToken_append more (isSettled_of_getLast? h)]
    have hbytes : Text.byteLength (c :: cs) = Text.byteLength slice + Text.byteLength next.2 := by
      rw [hslice, Text.byteLength_append]
    have hlength : Text.byteLength (c :: cs) - Text.byteLength next.2 = Text.byteLength slice := by omega
    rw [hlength] at h ih ⊢
    have hrest : tokensFrom (start + Text.byteLength slice) (next.2 ++ more) =
        tokensFrom (start + Text.byteLength slice) next.2 ++ tokensFrom (start + Text.byteLength (c :: cs)) more := by
      rw [hbytes, ← Nat.add_assoc]
      cases hnext : next.2 with
      | nil => simp [tokensFrom, Text.byteLength]
      | cons d rest =>
        have htail : tokensFrom (start + Text.byteLength slice) next.2 ≠ [] := by
          rw [hnext, tokensFrom]
          exact List.cons_ne_nil _ _
        rw [← hnext]
        exact ih (by rwa [List.getLast?_cons_of_ne_nil htail] at h)
    have hcs : c :: cs ++ more = slice ++ (next.2 ++ more) := by rw [hslice, List.append_assoc]
    rw [hcs, tokensFrom_of_readToken hspan.ne_nil hread, hrest, List.cons_append]

theorem exists_spelling_of_readToken {start : Nat} {cs : List Char} {p : Placeholder}
    (h : (readToken start cs).1 = .placeholder p) : ∃ w : Placeholder.Spelling, p = w.placeholder start := by
  unfold readToken at h
  split at h
  next => exact Token.noConfusion h
  next rest _ =>
    obtain ⟨w, -, hp⟩ := readTag_eq_placeholder_iff.mp (Prod.ext h rfl : readTag start rest = (.placeholder p, _))
    exact ⟨w, hp⟩
  next => exact Token.noConfusion h

/-- The placeholders of a text are spelled in it. -/
theorem exists_spelling_of_mem {start : Nat} {cs : List Char} {p : Placeholder}
    (h : .placeholder p ∈ tokensFrom start cs) : ∃ w : Placeholder.Spelling, p = w.placeholder p.start := by
  fun_induction tokensFrom start cs with
  | case1 start => simp at h
  | case2 start c cs next ih =>
    rcases List.mem_cons.mp h with hhead | htail
    · obtain ⟨w, rfl⟩ := exists_spelling_of_readToken hhead.symm
      exact ⟨w, rfl⟩
    · exact ih htail

/-- A spelling is read as its placeholder wherever it stands. -/
theorem readToken_spelling (w : Placeholder.Spelling) (start : Nat) (rest : List Char) :
    readToken start (w.chars ++ rest) = (.placeholder (w.placeholder start), rest) := by
  have hchars : w.chars ++ rest = '\x7b' :: (w.content ++ '\x7d' :: rest) := by simp [Placeholder.Spelling.chars]
  have hhead : (w.content ++ '\x7d' :: rest).head? ≠ some '\x7b' :=
    Placeholder.form_head w.name_ne_nil w.isNameChar_of_mem _
  rw [hchars, readToken_tag start hhead, w.readTag_content]

theorem parse_spelling (w : Placeholder.Spelling) :
    (parse (String.ofList w.chars)).tokens = [.placeholder (w.placeholder 0)] := by
  have hne : w.chars ≠ [] := List.cons_ne_nil _ _
  have hsource : String.ofList w.chars ≠ "" := fun h => hne (by simpa using congrArg String.toList h)
  have htokens := tokensFrom_of_readToken hne (readToken_spelling w 0 [])
  rw [List.append_nil, tokensFrom.eq_1] at htokens
  rw [parse_tokens_of_ne hsource, String.toList_ofList, htokens]

/-- A text that ends in a placeholder is cut from what follows it: the tokens of the two together are those of the one
and, so many bytes later, those of the other. And the source of a placeholder is read alone as that placeholder,
whatever stood around it. -/
theorem parse_append :
    (∀ (a b : String) (p : Placeholder), (parse a).tokens.getLast? = some (.placeholder p) → b ≠ "" →
      (parse (a ++ b)).tokens = (parse a).tokens ++ (parse b).tokens.map (Token.later a.utf8ByteSize)) ∧
    (∀ (text : String) (p : Placeholder), .placeholder p ∈ (parse text).tokens →
      (parse p.source).tokens = [.placeholder { p with start := 0 }]) := by
  constructor
  · intro a b p hlast hb
    have ha : a ≠ "" := by
      rintro rfl
      simp [parse_tokens_empty] at hlast
    have hab : a ++ b ≠ "" := by simp [ha]
    rw [parse_tokens_of_ne ha] at hlast ⊢
    rw [parse_tokens_of_ne hb, parse_tokens_of_ne hab, String.toList_append, tokensFrom_append b.toList hlast,
      tokensFrom_add, Text.byteLength_toList]
  · intro text p hp
    have hmem : .placeholder p ∈ tokensFrom 0 text.toList := by
      by_cases htext : text = ""
      · subst htext
        simp [parse_tokens_empty] at hp
      · rwa [parse_tokens_of_ne htext] at hp
    obtain ⟨w, hw⟩ := exists_spelling_of_mem hmem
    have hsource : p.source = String.ofList w.chars := by rw [hw]; rfl
    rw [hsource, parse_spelling, hw]
    rfl

/-- Braces stand on both sides of the cut, where a literal would take two of them together. -/
theorem parse_append_braces :
    let a := "é\x7b\x7b\x7bn,5:x\x7d"
    let b := "\x7d\x7b\x7b0\x7d\x7b@B\x7d"
    let p : Placeholder := ⟨"n", "\x7bn,5:x\x7d", some "x", some ⟨.right, 5⟩, .plain, 4⟩
    (parse a).tokens.getLast? = some (.placeholder p) ∧ b ≠ "" ∧ .placeholder p ∈ (parse a).tokens ∧
      (parse (a ++ b)).tokens =
        [.text "é\x7b" 0, .placeholder p, .text "\x7d\x7b0\x7d" 11,
          .placeholder ⟨"B", "\x7b@B\x7d", none, none, .destructure, 16⟩] ∧
      (parse "\x7bn,5:x\x7d").tokens = [.placeholder { p with start := 0 }] := by
  intro a b p
  obtain ⟨hcut, hsource⟩ := parse_append
  have hlast : (parse a).tokens.getLast? = some (.placeholder p) := by decide +kernel
  have hmem : .placeholder p ∈ (parse a).tokens := List.mem_of_getLast? hlast
  have hb : b ≠ "" := by decide
  refine ⟨hlast, hb, hmem, ?_, hsource a p hmem⟩
  rw [hcut a b p hlast hb]
  decide +kernel

end Template

end StructuredMessage
