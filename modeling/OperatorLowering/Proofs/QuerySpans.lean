import Mathlib.Data.List.Forall2
import OperatorLowering.Proofs.LosslessLexing
import OperatorLowering.Proofs.QueryErrors

/-!
Where queries and errors stand in the text. A query runs from its first token to its last, each
operand over its own tokens, and every error points into the text, at a type or a marker into the
operand that is at fault.
-/

namespace OperatorLowering

namespace Span

/-- The span is a part of the text, and its ends fall between characters. -/
structure IsIn (span : Span) (text : String) : Prop where
  start_le_stop : span.start ≤ span.stop
  stop_le : span.stop ≤ text.utf8ByteSize
  start_isValid : String.Pos.Raw.IsValid text ⟨span.start⟩
  stop_isValid : String.Pos.Raw.IsValid text ⟨span.stop⟩

structure IsWithin (inner outer : Span) : Prop where
  start_le : outer.start ≤ inner.start
  stop_le : inner.stop ≤ outer.stop

/-- From the start of the first token to the end of the last one. -/
def RunsOver (span : Span) (ts : List (Spanned Token)) : Prop :=
  ∃ first last, ts.head? = some first ∧ ts.getLast? = some last ∧
    span = ⟨first.span.start, last.span.stop⟩

variable {a b span : Span} {text before part after : String}

theorem Covers.isIn (h : span.Covers text before part after) : span.IsIn text := by
  obtain ⟨rfl, hstart, hstop⟩ := h
  have hpart := String.utf8ByteSize_append (s := before) (t := part)
  refine ⟨?_, ?_, ?_, ?_⟩
  . omega
  . rw [hstop, String.utf8ByteSize_append (t := after)]
    omega
  . apply String.Pos.Raw.isValid_iff_exists_append.mpr
    refine ⟨before, part ++ after, String.append_assoc, ?_⟩
    rw [hstart]
    rfl
  . apply String.Pos.Raw.isValid_iff_exists_append.mpr
    refine ⟨before ++ part, after, rfl, ?_⟩
    rw [hstop]
    rfl

theorem IsIn.join (ha : a.IsIn text) (hb : b.IsIn text) (h : a.start ≤ b.stop)
    : IsIn ⟨a.start, b.stop⟩ text :=
  ⟨h, hb.stop_le, ha.start_isValid, hb.stop_isValid⟩

theorem isIn_zero (text : String) : IsIn ⟨0, 0⟩ text := by
  have hcovers : Covers ⟨0, 0⟩ text "" "" text := ⟨by simp, rfl, rfl⟩
  exact hcovers.isIn

theorem runsOver_singleton (t : Spanned Token) : t.span.RunsOver [t] := ⟨t, t, rfl, rfl, rfl⟩

theorem RunsOver.append {ts us : List (Spanned Token)} (ha : a.RunsOver ts) (hb : b.RunsOver us)
    (mid : List (Spanned Token)) : RunsOver ⟨a.start, b.stop⟩ (ts ++ mid ++ us) := by
  obtain ⟨first, _, hfirst, -, rfl⟩ := ha
  obtain ⟨_, last, -, hlast, rfl⟩ := hb
  refine ⟨first, last, ?_, ?_, rfl⟩
  . simp [hfirst]
  . simp [hlast]

end Span

namespace Token

/-- The tokens stand one after the other, none of them empty. -/
structure IsOrdered (ts : List (Spanned Token)) : Prop where
  start_lt_stop : ∀ t ∈ ts, t.span.start < t.span.stop
  stop_le_start : ts.Pairwise fun t next => t.span.stop ≤ next.span.start

variable {ts before part after : List (Spanned Token)} {span : Span} {text : String}

theorem mem_of_mem_part {t : Spanned Token} (ht : t ∈ part) : t ∈ before ++ part ++ after :=
  List.mem_append_left after (List.mem_append_right before ht)

theorem IsLossless.isOrdered (h : IsLossless text ts) : IsOrdered ts :=
  ⟨h.start_lt_stop, h.stop_le_start⟩

theorem IsLossless.isIn (h : IsLossless text ts) {t : Spanned Token} (ht : t ∈ ts)
    : t.span.IsIn text := by
  obtain ⟨-, _, _, hcovers, -⟩ := h.covers t ht
  exact hcovers.isIn

namespace IsOrdered

theorem of_append (h : IsOrdered (before ++ part ++ after)) : IsOrdered part := by
  obtain ⟨hlt, hpairwise⟩ := h
  constructor
  . intro t ht
    exact hlt t (mem_of_mem_part ht)
  . exact (List.pairwise_append.mp (List.pairwise_append.mp hpairwise).1).2.1

theorem isWithin (h : IsOrdered ts) (hspan : span.RunsOver ts)
    : ∀ t ∈ ts, t.span.IsWithin span := by
  obtain ⟨first, last, hfirst, hlast, rfl⟩ := hspan
  intro t ht
  constructor
  . obtain ⟨rest, rfl⟩ := List.head?_eq_some_iff.mp hfirst
    rcases List.mem_cons.mp ht with rfl | ht
    . exact Nat.le_refl _
    . have := List.rel_of_pairwise_cons h.stop_le_start ht
      have := h.start_lt_stop first List.mem_cons_self
      dsimp only
      omega
  . obtain ⟨rest, rfl⟩ := List.getLast?_eq_some_iff.mp hlast
    rcases List.mem_append.mp ht with ht | ht
    . have := (List.pairwise_append.mp h.stop_le_start).2.2 t ht last List.mem_cons_self
      have := h.start_lt_stop last (by simp)
      dsimp only
      omega
    . obtain rfl := List.mem_singleton.mp ht
      exact Nat.le_refl _

theorem stop_le_of_runsOver {a b : Span} (h : IsOrdered (before ++ part ++ after))
    (ha : a.RunsOver before) (hb : b.RunsOver after) : a.stop ≤ b.start := by
  obtain ⟨_, last, -, hlast, rfl⟩ := ha
  obtain ⟨first, _, hfirst, -, rfl⟩ := hb
  have hpairwise := (List.pairwise_append.mp h.stop_le_start).2.2
  have hlast := List.mem_append_left part (List.mem_of_getLast? hlast)
  exact hpairwise last hlast first (List.mem_of_head? hfirst)

theorem isWithin_of_runsOver {a b : Span} (h : IsOrdered (before ++ part ++ after))
    (ha : a.RunsOver part) (hb : b.RunsOver (before ++ part ++ after)) : a.IsWithin b := by
  have hwithin := h.isWithin hb
  obtain ⟨first, last, hfirst, hlast, rfl⟩ := ha
  constructor
  . exact (hwithin first (mem_of_mem_part (List.mem_of_head? hfirst))).start_le
  . exact (hwithin last (mem_of_mem_part (List.mem_of_getLast? hlast))).stop_le

theorem mem_iff_isWithin (h : IsOrdered (before ++ part ++ after)) (hspan : span.RunsOver part)
    : ∀ t ∈ before ++ part ++ after, t ∈ part ↔ t.span.IsWithin span := by
  intro t ht
  constructor
  . exact h.of_append.isWithin hspan t
  . rintro ⟨hstart, hstop⟩
    have hlt := h.start_lt_stop t ht
    obtain ⟨first, last, hfirst, hlast, rfl⟩ := hspan
    dsimp only at hstart hstop
    have hpairwise := List.pairwise_append.mp h.stop_le_start
    -- A token that is not empty cannot end before the part or start after it.
    rcases List.mem_append.mp ht with ht | ht
    . rcases List.mem_append.mp ht with ht | ht
      . have := (List.pairwise_append.mp hpairwise.1).2.2 t ht first (List.mem_of_head? hfirst)
        omega
      . exact ht
    . have hlast := List.mem_append_right before (List.mem_of_getLast? hlast)
      have := hpairwise.2.2 last hlast t ht
      omega

end IsOrdered

theorem IsLossless.isIn_of_runsOver (h : IsLossless text (before ++ part ++ after))
    (hspan : span.RunsOver part) : span.IsIn text := by
  have hwithin := h.isOrdered.of_append.isWithin hspan
  obtain ⟨first, last, hfirst, hlast, rfl⟩ := hspan
  have hfirst := List.mem_of_head? hfirst
  have hfirstIn := h.isIn (mem_of_mem_part hfirst)
  have hlastIn := h.isIn (mem_of_mem_part (List.mem_of_getLast? hlast))
  apply hfirstIn.join hlastIn
  exact Nat.le_trans hfirstIn.start_le_stop (hwithin first hfirst).stop_le

end Token

namespace Query

open Token

variable {text : String} {ts : List (Spanned Token)} {p : Phrase} {o : OperandPhrase} {e : Error}
  {query : Query}

def operands (query : Query) : List Operand := query.left :: query.right.toList

theorem OperandPhrase.mem_tokens_type (o : OperandPhrase)
    : ⟨.ident o.type.node, o.type.span⟩ ∈ o.tokens := by
  simp [tokens]

theorem OperandPhrase.runsOver_tokens (o : OperandPhrase) : o.span.RunsOver o.tokens := by
  obtain ⟨name, type, marker⟩ := o
  cases name <;> cases marker <;> exact ⟨_, _, rfl, rfl, rfl⟩

namespace Phrase

theorem runsOver_tokens (p : Phrase) : p.form.span.RunsOver p.tokens := by
  cases p with
  | binary left op right =>
    have := left.runsOver_tokens.append right.runsOver_tokens [⟨op.node.token, op.span⟩]
    simpa [tokens, form] using this
  | negate sign operand =>
    exact (Span.runsOver_singleton ⟨.minus, sign⟩).append operand.runsOver_tokens []
  | cast operand keyword target =>
    have := operand.runsOver_tokens.append
      (Span.runsOver_singleton ⟨.ident target.node, target.span⟩) [⟨.asKeyword, keyword⟩]
    simpa [tokens, form] using this

theorem exists_append_of_mem_operands (ho : o ∈ p.operands)
    : ∃ before after, p.tokens = before ++ o.tokens ++ after := by
  cases p with
  | binary left op right =>
    simp only [operands, List.mem_cons, List.not_mem_nil, or_false] at ho
    rcases ho with rfl | rfl
    . exact ⟨[], ⟨op.node.token, op.span⟩ :: right.tokens, rfl⟩
    . refine ⟨left.tokens ++ [⟨op.node.token, op.span⟩], [], ?_⟩
      simp [tokens]
  | negate sign operand =>
    obtain rfl := List.mem_singleton.mp ho
    refine ⟨[⟨.minus, sign⟩], [], ?_⟩
    simp [tokens]
  | cast operand keyword target =>
    obtain rfl := List.mem_singleton.mp ho
    exact ⟨[], [⟨.asKeyword, keyword⟩, ⟨.ident target.node, target.span⟩], rfl⟩

theorem stop_le_start (h : IsOrdered p.tokens)
    : p.operands.Pairwise fun left right => left.span.stop ≤ right.span.start := by
  cases p with
  | binary left op right =>
    rw [tokens, ← List.singleton_append, ← List.append_assoc] at h
    simpa [operands] using h.stop_le_of_runsOver left.runsOver_tokens right.runsOver_tokens
  | negate | cast => simp [operands]

end Phrase

section Resolve

theorem OperandPhrase.of_resolve {operand : Operand} {defaultName : String}
    (h : o.form.resolve defaultName = .ok operand)
    : operand.span = o.span ∧ o.type.node ∈ operand.type.names := by
  unfold OperandForm.resolve at h
  split at h
  . contradiction
  . next type hname =>
    have hname := NumericType.mem_names_of_ofName? hname
    dsimp only at h
    split at h
    . cases h
      exact ⟨rfl, hname⟩
    . split at h
      . cases h
        exact ⟨rfl, hname⟩
      . contradiction
    . cases h
      exact ⟨rfl, hname⟩

theorem Phrase.of_resolve (h : p.form.resolve = .ok query)
    : query.span = p.form.span ∧
        List.Forall₂ (fun operand o => operand.span = o.span ∧ o.type.node ∈ operand.type.names)
          query.operands p.operands := by
  unfold Form.resolve at h
  cases p with
  | binary left op right =>
    dsimp only [form] at h
    split at h
    . contradiction
    . next l hleft =>
      split at h
      . contradiction
      . next r hright =>
        cases h
        refine ⟨rfl, ?_⟩
        exact .cons (OperandPhrase.of_resolve hleft) (.cons (OperandPhrase.of_resolve hright) .nil)
  | negate _ operand | cast operand =>
    dsimp only [form] at h
    split at h
    . contradiction
    . next l hleft =>
      cases h
      exact ⟨rfl, .cons (OperandPhrase.of_resolve hleft) .nil⟩

theorem Phrase.exists_fault (h : p.form.resolve = .error e) : ∃ o ∈ p.operands, o.Fault e := by
  have hfirst {o : OperandPhrase} (ho : p.operands.head? = some o)
      : o.IsTyped ∨ ∃ o ∈ p.operands, o.Fault e := by
    rcases o.isTyped_or_fault with htyped | ⟨e', hfault⟩
    . exact .inl htyped
    . rw [resolve_of_fault ho hfault] at h
      cases h
      exact .inr ⟨o, List.mem_of_head? ho, hfault⟩
  by_contra hnone
  have htyped : ∀ o ∈ p.operands, o.IsTyped := by
    cases p with
    | binary left op right =>
      have hleft := (hfirst rfl).resolve_right hnone
      rcases right.isTyped_or_fault with hright | ⟨e', hfault⟩
      . simpa [operands] using ⟨hleft, hright⟩
      . rw [resolve_of_right_fault hleft hfault] at h
        cases h
        exact absurd ⟨right, by simp [operands], hfault⟩ hnone
    | negate _ operand | cast operand =>
      simpa [operands] using (hfirst rfl).resolve_right hnone
  obtain ⟨query, hquery⟩ := exists_resolve htyped
  rw [hquery] at h
  contradiction

end Resolve

theorem isSentence_of_ofTokens {form : Form} (h : Form.ofTokens ts = .ok form) : IsSentence ts := by
  cases reading_ofTokens ts with
  | accepted _ hsentence => exact hsentence
  | unexpected hts hread =>
    rw [hts, hread] at h
    contradiction
  | unfinished hread =>
    rw [hread] at h
    contradiction

theorem exists_grammar_of_error (hts : ¬IsSentence ts) (h : ofTokens ts = .error e)
    : ∃ g, e = .grammar g := by
  unfold ofTokens at h
  split at h
  . cases h
    exact ⟨_, rfl⟩
  . next form hform => exact absurd (isSentence_of_ofTokens hform) hts

/-- The operand stands over the tokens it was read from, and over no others. -/
structure Operand.IsPlaced (operand : Operand) (o : OperandPhrase) (ts : List (Spanned Token))
    (text : String) : Prop where
  type_mem : o.type.node ∈ operand.type.names
  runsOver : operand.span.RunsOver o.tokens
  mem_iff : ∀ t ∈ ts, t ∈ o.tokens ↔ t.span.IsWithin operand.span
  isIn : operand.span.IsIn text

/-- The query stands over all of its tokens, and its operands in order over theirs. -/
structure IsPlaced (query : Query) (p : Phrase) (text : String) : Prop where
  runsOver : query.span.RunsOver p.tokens
  isIn : query.span.IsIn text
  operands : List.Forall₂
    (fun operand o => operand.IsPlaced o p.tokens text ∧ operand.span.IsWithin query.span)
    query.operands p.operands
  stop_le_start : query.operands.Pairwise fun left right => left.span.stop ≤ right.span.start

/-- The error is about the type of an operand, and lies in that operand. -/
def Error.IsInOperand (e : Error) (ts : List (Spanned Token)) : Prop :=
  ∃ p : Phrase, p.tokens = ts ∧ ∃ o ∈ p.operands, o.Fault e ∧ o.span.RunsOver o.tokens ∧
    e.span.IsWithin o.span

theorem isPlaced_of_ofTokens (hts : IsLossless text ts) (h : ofTokens ts = .ok query)
    : ∃ p : Phrase, p.tokens = ts ∧ query.IsPlaced p text := by
  obtain ⟨p, rfl, -⟩ := exists_ofTokens_iff.mp ⟨query, h⟩
  rw [ofTokens_tokens] at h
  obtain ⟨hspan, hoperands⟩ := Phrase.of_resolve h
  have hordered := hts.isOrdered
  have hruns : query.span.RunsOver p.tokens := by
    rw [hspan]
    exact p.runsOver_tokens
  have hspans : query.operands.map Operand.span = p.operands.map OperandPhrase.span := by
    rw [← List.forall₂_eq_eq_eq, List.forall₂_map_left_iff, List.forall₂_map_right_iff]
    exact hoperands.imp fun _ _ h => h.1
  refine ⟨p, rfl, hruns, ?_, ?_, ?_⟩
  . rw [← List.append_nil p.tokens, ← List.nil_append p.tokens] at hts
    exact hts.isIn_of_runsOver hruns
  . obtain ⟨hlength, hzip⟩ := List.forall₂_iff_zip.mp hoperands
    apply List.forall₂_iff_zip.mpr
    refine ⟨hlength, ?_⟩
    intro operand o hmem
    obtain ⟨heq, htype⟩ := hzip hmem
    obtain ⟨before, after, hsplit⟩ :=
      Phrase.exists_append_of_mem_operands (List.of_mem_zip hmem).2
    have ho : operand.span.RunsOver o.tokens := by
      rw [heq]
      exact o.runsOver_tokens
    rw [hsplit] at hts hordered hruns ⊢
    exact ⟨⟨htype, ho, hordered.mem_iff_isWithin ho, hts.isIn_of_runsOver ho⟩,
      hordered.isWithin_of_runsOver ho hruns⟩
  . have hpairwise := Phrase.stop_le_start hordered
    rw [← List.pairwise_map (f := OperandPhrase.span)
      (R := fun left right : Span => left.stop ≤ right.start), ← hspans, List.pairwise_map]
      at hpairwise
    exact hpairwise

theorem isIn_endOffset (hts : IsLossless text ts)
    : Span.IsIn ⟨endOffset ts, endOffset ts⟩ text := by
  unfold endOffset
  cases hlast : ts.getLast? with
  | none => exact Span.isIn_zero text
  | some t =>
    have ht := hts.isIn (List.mem_of_getLast? hlast)
    exact ⟨Nat.le_refl _, ht.stop_le, ht.stop_isValid, ht.stop_isValid⟩

theorem isIn_of_isFirstIn (hts : IsLossless text ts) (h : e.IsFirstIn ts) : e.span.IsIn text := by
  cases h with
  | @unexpected seen rest t expected hsplit _ _ hreports _ =>
    rw [hreports.span]
    apply hts.isIn
    simp [hsplit]
  | unfinished _ hreports _ =>
    rw [hreports.span]
    exact isIn_endOffset hts

theorem isIn_of_fault (hp : IsLossless text p.tokens) (ho : o ∈ p.operands) (h : o.Fault e)
    : e.span.IsIn text ∧ e.span.IsWithin o.span := by
  obtain ⟨before, after, hsplit⟩ := Phrase.exists_append_of_mem_operands ho
  rw [hsplit] at hp
  have htype := hp.isOrdered.of_append.isWithin o.runsOver_tokens _ o.mem_tokens_type
  have htypeIn := hp.isIn (mem_of_mem_part o.mem_tokens_type)
  cases h with
  | unknownType => exact ⟨htypeIn, htype⟩
  | nullablePrimitive =>
    refine ⟨?_, htype.start_le, Nat.le_refl _⟩
    apply htypeIn.join (hp.isIn_of_runsOver o.runsOver_tokens)
    exact Nat.le_trans htypeIn.start_le_stop htype.stop_le

end Query

open Query

/--
Everything that reading a query says about places is so. The query runs from its first token to its
last, and its operands one after the other over their tokens. Any error points at a part of the text
that starts and ends between characters, within the operand if it is about the type of one.
-/
theorem query_spans_lie_in_text (text : String)
    : match Token.tokenize text with
      | .error e => e.span.IsIn text
      | .ok tokens =>
        match Query.ofTokens tokens with
        | .ok query => ∃ p : Phrase, p.tokens = tokens ∧ query.IsPlaced p text
        | .error e => e.span.IsIn text ∧ ((∃ g, e = .grammar g) ∨ e.IsInOperand tokens) := by
  split
  . next e htokenize =>
    obtain ⟨_, _, hcovers, -⟩ := Token.isFirstUnexpected_of_tokenize htokenize
    exact hcovers.isIn
  . next tokens htokenize =>
    have hlossless := Token.isLossless_of_tokenize htokenize
    split
    . next query hquery => exact isPlaced_of_ofTokens hlossless hquery
    . next e he =>
      by_cases hsentence : IsSentence tokens
      . obtain ⟨p, rfl⟩ := hsentence
        rw [ofTokens_tokens] at he
        obtain ⟨o, ho, hfault⟩ := Phrase.exists_fault he
        obtain ⟨hisIn, hwithin⟩ := isIn_of_fault hlossless ho hfault
        exact ⟨hisIn, .inr ⟨p, rfl, o, ho, hfault, o.runsOver_tokens, hwithin⟩⟩
      . obtain ⟨e', he', hfirst⟩ := exists_isFirstIn hsentence
        rw [he] at he'
        cases he'
        exact ⟨isIn_of_isFirstIn hlossless hfirst, .inl (exists_grammar_of_error hsentence he)⟩

end OperatorLowering
