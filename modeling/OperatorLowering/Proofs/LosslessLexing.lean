import OperatorLowering.Proofs.Scanning

/-!
Lexing loses nothing. The spans of the tokens and the gaps between them make up the text, the text
under each span is that of the token, and what stands in the gaps is layout. Lexing fails only at a
character that nothing can start with.
-/

namespace OperatorLowering

namespace Span

/-- The span covers one part of a text: it starts after `before`, and `after` is left. -/
structure Covers (span : Span) (text before part after : String) : Prop where
  text_eq : text = before ++ part ++ after
  start_eq : span.start = before.utf8ByteSize
  stop_eq : span.stop = (before ++ part).utf8ByteSize

/-- What the spans leave uncovered between two offsets: before, between and after them. -/
def gaps (start : Nat) (spans : List Span) (stop : Nat) : List Span :=
  match spans with
  | [] => [⟨start, stop⟩]
  | s :: spans => ⟨start, s.start⟩ :: gaps s.stop spans stop

end Span

namespace Token

variable {c : Char} {cs rest lexeme : List Char} {t : Token}

section Lex

variable {offset : Nat} {tokens : List (Spanned Token)} {before gap : String}

theorem lex_of_scan_eq_none (h : scan c cs = none)
    : lex offset (c :: cs) = .error ⟨c, ⟨offset, offset + c.utf8Size⟩⟩ := by
  rw [lex]
  split
  . rfl
  . next hsome =>
    rw [h] at hsome
    contradiction

theorem lex_induction {P : Nat → List Char → Prop} (nil : ∀ offset, P offset [])
    (stuck : ∀ offset c cs, scan c cs = none → P offset (c :: cs))
    (step : ∀ offset c piece lexeme rest, Scans c piece lexeme rest →
      P (offset + c.utf8Size + Text.byteLength lexeme) rest → P offset (c :: (lexeme ++ rest)))
    (offset : Nat) (cs : List Char) : P offset cs := by
  induction offset, cs using lex.induct with
  | case1 offset => exact nil offset
  | case2 offset c cs h => exact stuck offset c cs h
  | case3 offset c cs lexeme rest _ h _ _ ih | case4 offset c cs lexeme rest _ _ h _ _ _ _ ih
  | case5 offset c cs lexeme rest _ _ h _ _ _ _ ih =>
    rw [← scan_append h]
    exact step offset c _ lexeme rest (scans_of_scan h) ih

/-- Whatever matches at the start of the text is a part of the token. -/
def IsLongest (t : Token) (after : String) : Prop :=
  ∀ lexeme, lexeme <+: (t.text ++ after).toList → IsMatch lexeme → lexeme <+: t.text.toList

/-- The tokens of a text that stands behind `before`, with layout around them. -/
inductive IsCut : String → String → List (Spanned Token) → Prop where
  | done {before gap : String} (hgap : IsSkipped [] gap.toList) : IsCut before gap []
  | token {before gap rest : String} {t : Token} {tokens : List (Spanned Token)}
    (hgap : IsSkipped (t.text ++ rest).toList gap.toList) (ht : t.IsSpelled)
    (hlongest : t.IsLongest rest) (hrest : IsCut (before ++ gap ++ t.text) rest tokens)
    : IsCut before (gap ++ t.text ++ rest)
      (⟨t, ⟨(before ++ gap).utf8ByteSize, (before ++ gap ++ t.text).utf8ByteSize⟩⟩ :: tokens)

theorem IsSkipped.append (hcs : IsSkipped (rest ++ cs) lexeme) (hrest : IsSkipped cs rest)
    : IsSkipped cs (lexeme ++ rest) := by
  induction hcs with
  | nil => exact hrest
  | space hc _ ih => exact .space hc ih
  | comment hbody hend _ ih =>
    rw [← List.append_assoc] at hend
    have := IsSkipped.comment hbody hend ih
    rw [← List.append_assoc] at this
    exact this

theorem IsCut.skip {rest : String} (hgap : IsSkipped rest.toList gap.toList)
    (h : IsCut (before ++ gap) rest tokens) : IsCut before (gap ++ rest) tokens := by
  cases h with
  | done hrest =>
    apply IsCut.done
    rw [String.toList_append]
    apply IsSkipped.append _ hrest
    rw [List.append_nil]
    exact hgap
  | @token _ gap' after t tokens hgap' ht hlongest hafter =>
    have hgaps : IsSkipped (t.text ++ after).toList (gap.toList ++ gap'.toList) := by
      apply IsSkipped.append _ hgap'
      rw [← String.toList_append, ← String.append_assoc]
      exact hgap
    have hassoc : before ++ gap ++ gap' = before ++ (gap ++ gap') := String.append_assoc
    rw [← String.toList_append] at hgaps
    rw [hassoc] at hafter ⊢
    rw [← String.append_assoc, ← String.append_assoc]
    exact .token hgaps ht hlongest hafter

theorem IsCut.next {rest : String} (ht : t.IsSpelled) (hlongest : t.IsLongest rest)
    (hrest : IsCut (before ++ t.text) rest tokens)
    : IsCut before (t.text ++ rest)
        (⟨t, ⟨before.utf8ByteSize, (before ++ t.text).utf8ByteSize⟩⟩ :: tokens) := by
  have hgap : IsSkipped (t.text ++ rest).toList "".toList := .nil
  rw [← before.append_empty] at hrest
  have := IsCut.token hgap ht hlongest hrest
  rw [String.append_empty, String.empty_append] at this
  exact this

theorem utf8ByteSize_lexeme (c : Char) (lexeme : List Char)
    : (String.ofList (c :: lexeme)).utf8ByteSize = c.utf8Size + Text.byteLength lexeme := by
  rw [← Text.byteLength_toList, String.toList_ofList, Text.byteLength]

theorem Scans.isLongest (h : Scans c (.token t) lexeme rest)
    : t.IsLongest (String.ofList rest) := by
  intro other hother hmatch
  rw [String.toList_append, String.toList_ofList, h.text_eq] at hother
  rw [h.text_eq]
  cases other with
  | nil => apply List.nil_prefix
  | cons d other =>
    rw [List.cons_append, List.cons_prefix_cons] at hother
    obtain ⟨rfl, tail, htail⟩ := hother
    rw [List.cons_prefix_cons]
    exact ⟨rfl, h.longest hmatch htail⟩

theorem isCut_of_lex (offset : Nat) (cs : List Char)
    : ∀ tokens before, lex offset cs = .ok tokens → before.utf8ByteSize = offset →
        IsCut before (String.ofList cs) tokens := by
  induction offset, cs using lex_induction with
  | nil offset =>
    intro tokens before h _
    rw [lex] at h
    cases h
    exact .done .nil
  | stuck offset c cs hnone =>
    intro tokens before h
    rw [lex_of_scan_eq_none hnone] at h
    contradiction
  | step offset c piece lexeme rest hscan ih =>
    intro tokens before h hbefore
    have hsize : (before ++ String.ofList (c :: lexeme)).utf8ByteSize =
        offset + c.utf8Size + Text.byteLength lexeme := by
      rw [String.utf8ByteSize_append, utf8ByteSize_lexeme, hbefore, Nat.add_assoc]
    rw [← List.cons_append, String.ofList_append]
    cases piece with
    | skipped =>
      rw [lex_of_skipped hscan.scan_eq] at h
      apply IsCut.skip _ (ih tokens _ h hsize)
      rw [String.toList_ofList, String.toList_ofList]
      exact hscan.isSkipped
    | token t =>
      rw [lex_of_token hscan.scan_eq] at h
      split at h
      . next tokens hrest =>
        cases h
        have htext : String.ofList (c :: lexeme) = t.text := by
          rw [← hscan.text_eq, String.ofList_toList]
        have hcut := ih _ _ hrest hsize
        rw [htext] at hcut hsize ⊢
        rw [← hbefore] at hsize ⊢
        rw [← hsize]
        exact .next hscan.isSpelled hscan.isLongest hcut
      . contradiction

theorem exists_of_lex_eq_error (offset : Nat) (cs : List Char)
    : ∀ e, lex offset cs = .error e →
        ∃ before after, cs = before ++ e.char :: after ∧
          e.span = ⟨offset + Text.byteLength before,
            offset + Text.byteLength before + e.char.utf8Size⟩ ∧
          scan e.char after = none ∧ ∃ tokens, lex offset before = .ok tokens := by
  induction offset, cs using lex_induction with
  | nil offset =>
    intro e h
    rw [lex] at h
    contradiction
  | stuck offset c cs hnone =>
    intro e h
    rw [lex_of_scan_eq_none hnone] at h
    cases h
    refine ⟨[], cs, rfl, rfl, hnone, [], ?_⟩
    rw [lex]
  | step offset c piece lexeme rest hscan ih =>
    intro e h
    have hrest : lex (offset + c.utf8Size + Text.byteLength lexeme) rest = .error e := by
      cases piece with
      | skipped => rw [← h, lex_of_skipped hscan.scan_eq]
      | token t =>
        rw [lex_of_token hscan.scan_eq] at h
        split at h
        . contradiction
        . next hrest =>
          cases h
          exact hrest
    obtain ⟨before, after, rfl, hspan, hnone, tokens, htokens⟩ := ih e hrest
    -- The step is taken in the same way when the text ends before the character.
    have hstep := hscan.of_append.scan_eq
    refine ⟨c :: (lexeme ++ before), after, ?_, ?_, hnone, ?_⟩
    . rw [List.cons_append, List.append_assoc]
    . rw [hspan]
      simp only [Text.byteLength, Text.byteLength_append, Nat.add_assoc]
    . cases piece with
      | skipped =>
        rw [lex_of_skipped hstep]
        exact ⟨tokens, htokens⟩
      | token t =>
        rw [lex_of_token hstep, htokens]
        exact ⟨_, rfl⟩

end Lex

/-- The tokens and the layout between them make up the text. -/
structure IsLossless (text : String) (tokens : List (Spanned Token)) : Prop where
  start_lt_stop : ∀ t ∈ tokens, t.span.start < t.span.stop
  stop_le_start : tokens.Pairwise fun t next => t.span.stop ≤ next.span.start
  covers : ∀ t ∈ tokens, t.node.IsSpelled ∧
    ∃ before after, t.span.Covers text before t.node.text after ∧ t.node.IsLongest after
  isSkipped : ∀ gap ∈ Span.gaps 0 (tokens.map Spanned.span) text.utf8ByteSize,
    ∃ before part after, gap.Covers text before part after ∧ IsSkipped after.toList part.toList

/-- The text can be lexed up to a character that nothing can start with. -/
def IsFirstUnexpected (text : String) (e : UnexpectedCharacter) : Prop :=
  ∃ before after, e.span.Covers text before (String.singleton e.char) after ∧
    (∀ cs, ¬ IsMatch (e.char :: cs)) ∧ ∃ tokens, tokenize before = .ok tokens

namespace IsCut

variable {before rest : String} {tokens : List (Spanned Token)}

theorem le_start (h : IsCut before rest tokens)
    : ∀ t ∈ tokens, before.utf8ByteSize ≤ t.span.start := by
  induction h with
  | done => nofun
  | token _ _ _ _ ih =>
    rw [List.forall_mem_cons]
    constructor
    . dsimp only
      rw [String.utf8ByteSize_append]
      omega
    . intro t ht
      have := ih t ht
      simp only [String.utf8ByteSize_append] at this
      omega

theorem stop_le_start (h : IsCut before rest tokens)
    : tokens.Pairwise fun t next => t.span.stop ≤ next.span.start := by
  induction h with
  | done => exact .nil
  | token _ _ _ hrest ih => exact .cons hrest.le_start ih

theorem covers (h : IsCut before rest tokens)
    : ∀ t ∈ tokens, t.node.IsSpelled ∧
        ∃ before' after, t.span.Covers (before ++ rest) before' t.node.text after ∧
          t.node.IsLongest after := by
  induction h with
  | done => nofun
  | @token before gap rest t tokens _ ht hlongest _ ih =>
    have htext : before ++ (gap ++ t.text ++ rest) = before ++ gap ++ t.text ++ rest := by
      simp only [String.append_assoc]
    rw [htext, List.forall_mem_cons]
    exact ⟨⟨ht, _, _, ⟨rfl, rfl, rfl⟩, hlongest⟩, ih⟩

theorem isSkipped (h : IsCut before rest tokens)
    : ∀ gap ∈ Span.gaps before.utf8ByteSize (tokens.map Spanned.span) (before ++ rest).utf8ByteSize,
        ∃ before' part after, gap.Covers (before ++ rest) before' part after ∧
          IsSkipped after.toList part.toList := by
  induction h with
  | @done before gap hgap =>
    intro gap' hgap'
    rw [List.map_nil, Span.gaps, List.mem_singleton] at hgap'
    subst hgap'
    exact ⟨before, gap, "", ⟨by simp, rfl, rfl⟩, hgap⟩
  | @token before gap rest t tokens hgap _ _ _ ih =>
    have htext : before ++ (gap ++ t.text ++ rest) = before ++ gap ++ t.text ++ rest := by
      simp only [String.append_assoc]
    rw [htext, List.map_cons, Span.gaps, List.forall_mem_cons]
    exact ⟨⟨before, gap, t.text ++ rest, ⟨String.append_assoc, rfl, rfl⟩, hgap⟩, ih⟩

end IsCut

theorem IsSpelled.utf8ByteSize_pos (h : t.IsSpelled) : 0 < t.text.utf8ByteSize := by
  obtain ⟨c, tail, htext, -⟩ := exists_scan_text h
  rw [← Text.byteLength_toList, htext, Text.byteLength]
  have := c.utf8Size_pos
  omega

theorem isLossless_of_tokenize {text : String} {tokens : List (Spanned Token)}
    (h : tokenize text = .ok tokens) : IsLossless text tokens := by
  have hcut := isCut_of_lex 0 text.toList tokens "" h rfl
  rw [String.ofList_toList] at hcut
  have htext := text.empty_append
  refine ⟨?_, hcut.stop_le_start, htext ▸ hcut.covers, ?_⟩
  . intro t ht
    obtain ⟨hspelled, before, after, hspan, -⟩ := hcut.covers t ht
    have := hspelled.utf8ByteSize_pos
    rw [hspan.start_eq, hspan.stop_eq, String.utf8ByteSize_append]
    omega
  . have := hcut.isSkipped
    rw [htext] at this
    exact this

theorem isFirstUnexpected_of_tokenize {text : String} {e : UnexpectedCharacter}
    (h : tokenize text = .error e) : IsFirstUnexpected text e := by
  obtain ⟨before, after, htext, hspan, hnone, tokens, htokens⟩ :=
    exists_of_lex_eq_error 0 text.toList e h
  have hsize : (String.ofList before).utf8ByteSize = 0 + Text.byteLength before := by
    rw [← Text.byteLength_toList, String.toList_ofList, Nat.zero_add]
  refine ⟨String.ofList before, String.ofList after, ⟨?_, ?_, ?_⟩,
    not_isMatch_of_scan_eq_none hnone, tokens, ?_⟩
  . apply String.toList_inj.mp
    simp [htext]
  . rw [hspan, hsize]
  . rw [hspan, String.utf8ByteSize_append, String.utf8ByteSize_singleton, hsize]
  . unfold tokenize
    rw [String.toList_ofList]
    exact htokens

end Token

/--
Lexing loses nothing: it gives tokens that make up the text together with the layout between them,
or it names the first character that nothing can start with.
-/
theorem tokenize_is_lossless (text : String)
    : match Token.tokenize text with
      | .ok tokens => Token.IsLossless text tokens
      | .error e => Token.IsFirstUnexpected text e := by
  split
  . next h => exact Token.isLossless_of_tokenize h
  . next h => exact Token.isFirstUnexpected_of_tokenize h

end OperatorLowering
