import Mathlib.Tactic.Tauto
import OperatorLowering.Proofs.QueryGrammar

/-!
Which lists of tokens are queries, and where the others go wrong. Reading stops at the first token
with which no query goes on, and what it lists as expected could all have stood there.
-/

namespace OperatorLowering

namespace Query

def IsSentence (ts : List (Spanned Token)) : Prop := ∃ p : Phrase, p.tokens = ts

def IsSentencePrefix (ts : List (Spanned Token)) : Prop := ∃ rest, IsSentence (ts ++ rest)

def TokenClass.Matches : TokenClass → Token → Prop
  | name, t => ∃ text, t = .ident text
  | symbol s, t => t = s

/-- With any token of the class after them, the tokens still start a query. -/
def TokenClass.Extends (c : TokenClass) (ts : List (Spanned Token)) : Prop :=
  ∀ t : Spanned Token, c.Matches t.node → IsSentencePrefix (ts ++ [t])

def endOffset (ts : List (Spanned Token)) : Nat := (ts.getLast?.map fun t => t.span.stop).getD 0

/-- The tokens after which an operand is due, before an operator or at the end of the query. -/
inductive AwaitsOperand : Place → List (Spanned Token) → Prop where
  | first : AwaitsOperand .first []
  | negated (sign : Span) : AwaitsOperand .final [⟨.minus, sign⟩]
  | right (left : OperandPhrase) (op : Spanned BinaryOp)
    : AwaitsOperand .final (left.tokens ++ [⟨op.node.token, op.span⟩])

variable {before ts rest : List (Spanned Token)} {place : Place} {c : TokenClass}
  {t : Spanned Token}

theorem IsSentencePrefix.of_append (h : IsSentencePrefix (ts ++ rest)) : IsSentencePrefix ts := by
  obtain ⟨rest', h⟩ := h
  rw [List.append_assoc] at h
  exact ⟨rest ++ rest', h⟩

theorem IsSentence.isSentencePrefix (h : IsSentence ts) : IsSentencePrefix ts := by
  rw [← List.append_nil ts] at h
  exact ⟨[], h⟩

namespace TokenClass

-- There is a token of every class.
theorem Extends.isSentencePrefix (h : c.Extends ts) : IsSentencePrefix ts := by
  cases c with
  | name => exact (h ⟨.ident "int", .zero⟩ ⟨"int", rfl⟩).of_append
  | symbol s => exact (h ⟨s, .zero⟩ rfl).of_append

theorem mem_operators (h : c ∈ operators)
    : c = .symbol .asKeyword ∨ ∃ op : BinaryOp, c = .symbol op.token := by
  simp only [operators, binaryOps, List.mem_cons, List.not_mem_nil, or_false] at h
  rcases h with h | h | h | h | h | h | h
  . exact .inl h
  . exact .inr ⟨.add, h⟩
  . exact .inr ⟨.sub, h⟩
  . exact .inr ⟨.pow, h⟩
  . exact .inr ⟨.mul, h⟩
  . exact .inr ⟨.div, h⟩
  . exact .inr ⟨.mod, h⟩

theorem mem_markers (h : c ∈ markers) : ∃ marker : Marker, c = .symbol marker.token := by
  simp only [markers, List.mem_cons, List.not_mem_nil, or_false] at h
  rcases h with h | h
  . exact ⟨.nonNull, h⟩
  . exact ⟨.nullable, h⟩

theorem mem_afterType (h : c ∈ afterType place)
    : c ∈ markers ∨ place = .first ∧ c ∈ operators := by
  cases place with
  | first =>
    simp only [afterType, operators, List.cons_append, List.mem_cons, List.mem_append] at h ⊢
    tauto
  | final => exact .inl h

theorem mem_afterName (h : c ∈ afterName place) : c = .symbol .colon ∨ c ∈ afterType place := by
  cases place with
  | first =>
    simp only [afterName, afterType, List.cons_append, List.nil_append, List.mem_cons,
      List.mem_append] at h ⊢
    tauto
  | final => exact List.mem_cons.mp h

theorem extends_operators (o : OperandPhrase) (h : c ∈ operators) : c.Extends o.tokens := by
  rintro ⟨t, span⟩ ht
  rcases mem_operators h with rfl | ⟨op, rfl⟩
  . obtain rfl : t = .asKeyword := ht
    refine ⟨[⟨.ident "int", .zero⟩], .cast o span ⟨"int", .zero⟩, ?_⟩
    simp [Phrase.tokens]
  . obtain rfl : t = op.token := ht
    let right : OperandPhrase := ⟨none, ⟨"int", .zero⟩, none⟩
    refine ⟨right.tokens, .binary o ⟨op, span⟩ right, ?_⟩
    simp [Phrase.tokens]

end TokenClass

namespace AwaitsOperand

variable (h : AwaitsOperand place before)
include h

theorem isSentencePrefix (o : OperandPhrase) : IsSentencePrefix (before ++ o.tokens) := by
  cases h with
  | first =>
    refine ⟨[⟨.asKeyword, .zero⟩, ⟨.ident "int", .zero⟩], .cast o .zero ⟨"int", .zero⟩, ?_⟩
    simp [Phrase.tokens]
  | negated sign =>
    refine ⟨[], .negate sign o, ?_⟩
    simp [Phrase.tokens]
  | right left op =>
    refine ⟨[], .binary left op o, ?_⟩
    simp [Phrase.tokens]

theorem extends_name : TokenClass.name.Extends before := by
  rintro ⟨_, span⟩ ⟨text, rfl⟩
  exact h.isSentencePrefix ⟨none, ⟨text, span⟩, none⟩

theorem extends_colon (type : Spanned String)
    : (TokenClass.symbol .colon).Extends (before ++ [⟨.ident type.node, type.span⟩]) := by
  rintro ⟨_, span⟩ ⟨⟩
  have hnamed : IsSentencePrefix (before ++ [⟨.ident type.node, type.span⟩] ++ [⟨.colon, span⟩] ++
      [⟨.ident "int", .zero⟩]) := by
    rw [List.append_assoc, List.append_assoc]
    exact h.isSentencePrefix ⟨some (type, span), ⟨"int", .zero⟩, none⟩
  exact hnamed.of_append

theorem extends_name_of_colon (name : Spanned String) (colon : Span)
    : TokenClass.name.Extends
        (before ++ [⟨.ident name.node, name.span⟩, ⟨.colon, colon⟩]) := by
  rintro ⟨_, span⟩ ⟨text, rfl⟩
  rw [List.append_assoc]
  exact h.isSentencePrefix ⟨some (name, colon), ⟨text, span⟩, none⟩

theorem extends_afterType {o : OperandPhrase} (ho : o.marker = none)
    (hc : c ∈ TokenClass.afterType place) : c.Extends (before ++ o.tokens) := by
  rcases TokenClass.mem_afterType hc with hmarker | ⟨rfl, hoperator⟩
  . obtain ⟨marker, rfl⟩ := TokenClass.mem_markers hmarker
    rintro ⟨t, span⟩ ht
    obtain rfl : t = marker.token := ht
    have := h.isSentencePrefix { o with marker := some ⟨marker, span⟩ }
    simpa [OperandPhrase.tokens, OperandPhrase.markerTokens, OperandPhrase.nameTokens, ho]
      using this
  . cases h
    exact TokenClass.extends_operators o hoperator

theorem extends_afterName (type : Spanned String) (hc : c ∈ TokenClass.afterName place)
    : c.Extends (before ++ [⟨.ident type.node, type.span⟩]) := by
  rcases TokenClass.mem_afterName hc with rfl | hc
  . exact h.extends_colon type
  . have ho : (⟨none, type, none⟩ : OperandPhrase).marker = none := rfl
    exact h.extends_afterType ho hc

end AwaitsOperand

section EndOffset

@[simp]
theorem endOffset_append_singleton (ts : List (Spanned Token)) (t : Spanned Token)
    : endOffset (ts ++ [t]) = t.span.stop := by
  simp [endOffset]

theorem endOffset_tokens (o : OperandPhrase) : endOffset o.tokens = o.span.stop := by
  obtain ⟨name, type, marker⟩ := o
  cases marker <;> simp [endOffset, OperandPhrase.tokens, OperandPhrase.markerTokens,
    OperandPhrase.span]

end EndOffset

/--
How reading tokens after the ones `before` ends: with a result that is `Accepted`, or at the first
token that cannot follow, whatever comes after it, or at the end of tokens that only start a query.
-/
inductive Reading {α : Type} (read : List (Spanned Token) → Except GrammarError α)
    (before ts : List (Spanned Token)) (Accepted : α → Prop) : Prop where
  | accepted {a : α} (hread : read ts = .ok a) (ha : Accepted a)
  | unexpected {seen rest : List (Spanned Token)} {t : Spanned Token} {expected : List TokenClass}
    (hts : ts = seen ++ t :: rest)
    (hread : ∀ rest, read (seen ++ t :: rest) = .error (.unexpected t expected))
    (hviable : IsSentencePrefix (before ++ seen))
    (hexpected : ∀ c ∈ expected, c.Extends (before ++ seen))
  | unfinished {expected : List TokenClass}
    (hread : read ts = .error (.unfinished (endOffset (before ++ ts)) expected))
    (hviable : IsSentencePrefix (before ++ ts))
    (hexpected : ∀ c ∈ expected, c.Extends (before ++ ts))

namespace Reading

variable {α : Type} {read read' : List (Spanned Token) → Except GrammarError α}
  {P : α → Prop} {expected : List TokenClass}

theorem unexpected_head (hread : ∀ rest, read (t :: rest) = .error (.unexpected t expected))
    (hviable : IsSentencePrefix before) (hexpected : ∀ c ∈ expected, c.Extends before)
    : Reading read before (t :: rest) P := by
  rw [← List.append_nil before] at hviable hexpected
  exact unexpected rfl hread hviable hexpected

theorem unfinished_nil (hread : read [] = .error (.unfinished (endOffset before) expected))
    (hviable : IsSentencePrefix before) (hexpected : ∀ c ∈ expected, c.Extends before)
    : Reading read before [] P := by
  rw [← List.append_nil before] at hread hviable hexpected
  exact unfinished hread hviable hexpected

-- One reader hands over to another after some tokens. It may look at the next token to do so.
theorem append (seen : List (Spanned Token))
    (hread : ∀ ts', ts'.head? = ts.head? → read (seen ++ ts') = read' ts')
    (h : Reading read' (before ++ seen) ts P) : Reading read before (seen ++ ts) P := by
  cases h with
  | accepted hread' ha =>
    rw [← hread ts rfl] at hread'
    exact accepted hread' ha
  | @unexpected seen' rest t expected hts hread' hviable hexpected =>
    rw [List.append_assoc] at hviable hexpected
    have hts' : seen ++ ts = (seen ++ seen') ++ t :: rest := by rw [hts, List.append_assoc]
    refine unexpected hts' ?_ hviable hexpected
    intro rest'
    rw [List.append_assoc, hread, hread']
    rw [hts]
    cases seen' <;> rfl
  | unfinished hread' hviable hexpected =>
    rw [List.append_assoc] at hread' hviable hexpected
    rw [← hread ts rfl] at hread'
    exact unfinished hread' hviable hexpected

end Reading

theorem OperandPhrase.MayPrecede.of_head?_eq {o : OperandPhrase} (h : o.MayPrecede rest)
    (hhead : ts.head? = rest.head?) : o.MayPrecede ts := by
  intro hmarker
  rw [hhead]
  exact h hmarker

/-- An operand was read from the front of the tokens, and what is left can follow it. -/
def ReadsOperand (ts : List (Spanned Token)) (a : OperandForm × List (Spanned Token)) : Prop :=
  ∃ o : OperandPhrase, a.1 = o.form ∧ o.tokens ++ a.2 = ts ∧ o.MayPrecede a.2

theorem reading_then {α : Type} {P : α → Prop} {last : Nat}
    {next : OperandForm → List (Spanned Token) → Except GrammarError α}
    (h : Reading (readOperand place last) before ts (ReadsOperand ts))
    (hnext : ∀ (o : OperandPhrase) (rest : List (Spanned Token)), o.tokens ++ rest = ts →
      Reading (next o.form) (before ++ o.tokens) rest P)
    : Reading
        (fun ts =>
          match readOperand place last ts with
          | .ok (o, rest) => next o rest
          | .error e => .error e)
        before ts P := by
  cases h with
  | @accepted a hread ha =>
    obtain ⟨form, rest⟩ := a
    obtain ⟨o, hform, hts, hfollow⟩ := ha
    subst hts
    refine Reading.append o.tokens ?_ (hnext o rest rfl)
    intro ts' hhead
    have hrest : o.MayPrecede rest := hfollow
    simp only [readOperand_tokens (hrest.of_head?_eq hhead)]
  | unexpected hts hread hviable hexpected =>
    refine .unexpected hts ?_ hviable hexpected
    intro rest'
    simp only [hread rest']
  | unfinished hread hviable hexpected =>
    refine .unfinished ?_ hviable hexpected
    simp only [hread]

theorem reading_readEnd (form : Form) (h : IsSentence before)
    : Reading (readEnd form) before ts (fun _ => IsSentence (before ++ ts)) := by
  cases ts with
  | nil =>
    rw [← List.append_nil before] at h
    exact .accepted rfl h
  | cons t ts =>
    refine Reading.unexpected_head (fun _ => rfl) h.isSentencePrefix ?_
    nofun

theorem reading_readMarker {o : OperandPhrase} {expected : List TokenClass} (ho : o.marker = none)
    (hviable : IsSentencePrefix (before ++ o.tokens))
    (hexpected : ∀ c ∈ expected, c.Extends (before ++ o.tokens))
    : Reading
        (readMarker (o.name.map fun name => name.1.node) o.type o.span.start expected)
        (before ++ o.tokens) ts (ReadsOperand (o.tokens ++ ts)) := by
  obtain ⟨name, type, marker⟩ := o
  obtain rfl : marker = none := ho
  by_cases hends : ∀ t ∈ ts.head?, endsOperand t.node = true
  . exact .accepted (readMarker_of_endsOperand hends)
      ⟨⟨name, type, none⟩, rfl, rfl, fun _ => hends⟩
  . cases ts with
    | nil => exact absurd nofun hends
    | cons t rest =>
      obtain ⟨t, span⟩ := t
      have hends : endsOperand t = false := by simpa using hends
      have hmarker (marker : Spanned Marker)
          : ReadsOperand
              ((⟨name, type, none⟩ : OperandPhrase).tokens ++
                ⟨marker.node.token, marker.span⟩ :: rest)
              ((⟨name, type, some marker⟩ : OperandPhrase).form, rest) := by
        refine ⟨⟨name, type, some marker⟩, rfl, ?_, nofun⟩
        simp [OperandPhrase.tokens, OperandPhrase.markerTokens, OperandPhrase.nameTokens]
      cases t with
      | bang => exact .accepted (readMarker_of_marker ⟨.nonNull, span⟩) (hmarker _)
      | question => exact .accepted (readMarker_of_marker ⟨.nullable, span⟩) (hmarker _)
      | asKeyword | plus | minus | starStar | star | slash | percent => contradiction
      | ident | colon =>
        refine Reading.unexpected_head ?_ hviable hexpected
        intro rest
        rfl

theorem reading_readOperand_unnamed (h : AwaitsOperand place before) {last : Nat}
    (type : Spanned String) (hcolon : ∀ t ∈ rest.head?, t.node ≠ .colon)
    : Reading (readOperand place last) before (⟨.ident type.node, type.span⟩ :: rest)
        (ReadsOperand (⟨.ident type.node, type.span⟩ :: rest)) := by
  let o : OperandPhrase := ⟨none, type, none⟩
  have ho : o.marker = none := rfl
  have hexpected : ∀ c ∈ TokenClass.afterName place, c.Extends (before ++ o.tokens) := by
    intro c hc
    exact h.extends_afterName type hc
  refine Reading.append o.tokens ?_ (reading_readMarker ho (h.isSentencePrefix o) hexpected)
  intro ts' hhead
  rw [← hhead] at hcolon
  exact readOperand_of_not_colon hcolon

theorem reading_readOperand_named (h : AwaitsOperand place before) {last : Nat}
    (name : Spanned String) (colon : Span)
    : Reading (readOperand place last) before
        (⟨.ident name.node, name.span⟩ :: ⟨.colon, colon⟩ :: rest)
        (ReadsOperand (⟨.ident name.node, name.span⟩ :: ⟨.colon, colon⟩ :: rest)) := by
  let named : List (Spanned Token) := [⟨.ident name.node, name.span⟩, ⟨.colon, colon⟩]
  have hname : ∀ c ∈ [TokenClass.name], c.Extends (before ++ named) := by
    simpa using h.extends_name_of_colon name colon
  have hviable : IsSentencePrefix (before ++ named) :=
    (hname .name List.mem_cons_self).isSentencePrefix
  cases rest with
  | nil =>
    refine .unfinished ?_ hviable hname
    rw [← List.singleton_append, ← List.append_assoc, endOffset_append_singleton]
    rfl
  | cons t rest =>
    obtain ⟨t, span⟩ := t
    cases t with
    | ident text =>
      let o : OperandPhrase := ⟨some (name, colon), ⟨text, span⟩, none⟩
      have ho : o.marker = none := rfl
      have hexpected : ∀ c ∈ TokenClass.afterType place, c.Extends (before ++ o.tokens) := by
        intro c hc
        exact h.extends_afterType ho hc
      refine Reading.append o.tokens ?_ (reading_readMarker ho (h.isSentencePrefix o) hexpected)
      intro ts' _
      rfl
    | _ => exact .unexpected (show _ = named ++ _ :: rest from rfl) (fun _ => rfl) hviable hname

theorem reading_readOperand (ts : List (Spanned Token)) (h : AwaitsOperand place before)
    : Reading (readOperand place (endOffset before)) before ts (ReadsOperand ts) := by
  have hviable : IsSentencePrefix before := h.extends_name.isSentencePrefix
  have hname : ∀ c ∈ [TokenClass.name], c.Extends before := by
    simpa using h.extends_name
  cases ts with
  | nil => exact Reading.unfinished_nil rfl hviable hname
  | cons t rest =>
    obtain ⟨t, span⟩ := t
    cases t with
    | ident text =>
      by_cases hcolon : ∀ t ∈ rest.head?, t.node ≠ .colon
      . exact reading_readOperand_unnamed h ⟨text, span⟩ hcolon
      . obtain ⟨colon, rest, rfl⟩ : ∃ colon rest', rest = ⟨.colon, colon⟩ :: rest' := by
          cases rest with
          | nil => exact absurd nofun hcolon
          | cons t rest =>
            obtain ⟨t, colon⟩ := t
            obtain rfl : t = .colon := by simpa using hcolon
            exact ⟨colon, rest, rfl⟩
        exact reading_readOperand_named h ⟨text, span⟩ colon
    | _ => exact Reading.unexpected_head (fun _ => rfl) hviable hname

theorem reading_cast (left : OperandPhrase) (keyword : Span)
    : Reading (readOperator left.form) left.tokens (⟨.asKeyword, keyword⟩ :: rest)
        (fun _ => IsSentence (left.tokens ++ ⟨.asKeyword, keyword⟩ :: rest)) := by
  have hname : ∀ c ∈ [TokenClass.name], c.Extends (left.tokens ++ [⟨.asKeyword, keyword⟩]) := by
    simp only [List.mem_singleton, forall_eq]
    rintro ⟨_, span⟩ ⟨text, rfl⟩
    refine ⟨[], .cast left keyword ⟨text, span⟩, ?_⟩
    simp [Phrase.tokens]
  have hviable : IsSentencePrefix (left.tokens ++ [⟨.asKeyword, keyword⟩]) :=
    (hname .name List.mem_cons_self).isSentencePrefix
  cases rest with
  | nil =>
    refine .unfinished ?_ hviable hname
    rw [endOffset_append_singleton]
    rfl
  | cons t rest =>
    obtain ⟨t, span⟩ := t
    cases t with
    | ident text =>
      let cast : List (Spanned Token) := [⟨.asKeyword, keyword⟩, ⟨.ident text, span⟩]
      have hsentence : IsSentence (left.tokens ++ cast) := ⟨.cast left keyword ⟨text, span⟩, rfl⟩
      have hts : left.tokens ++ ⟨.asKeyword, keyword⟩ :: ⟨.ident text, span⟩ :: rest =
          left.tokens ++ cast ++ rest := by simp [cast]
      rw [hts]
      exact Reading.append cast (fun _ _ => rfl) (reading_readEnd _ hsentence)
    | _ =>
      exact .unexpected (show _ = [_] ++ _ :: rest from rfl) (fun _ => rfl) hviable hname

theorem reading_binary (left : OperandPhrase) (op : Spanned BinaryOp)
    : Reading (readOperator left.form) left.tokens (⟨op.node.token, op.span⟩ :: rest)
        (fun _ => IsSentence (left.tokens ++ ⟨op.node.token, op.span⟩ :: rest)) := by
  refine Reading.append [⟨op.node.token, op.span⟩]
    (fun ts' _ => readOperator_token left.form op) ?_
  have hright := reading_readOperand rest (AwaitsOperand.right left op)
  rw [endOffset_append_singleton] at hright
  apply reading_then hright
  rintro right rest rfl
  have hsentence : IsSentence (left.tokens ++ [⟨op.node.token, op.span⟩] ++ right.tokens) := by
    refine ⟨.binary left op right, ?_⟩
    simp [Phrase.tokens]
  have hts : left.tokens ++ ⟨op.node.token, op.span⟩ :: (right.tokens ++ rest) =
      left.tokens ++ [⟨op.node.token, op.span⟩] ++ right.tokens ++ rest := by simp
  rw [hts]
  exact reading_readEnd _ hsentence

theorem reading_readOperator (left : OperandPhrase)
    : Reading (readOperator left.form) left.tokens ts
        (fun _ => IsSentence (left.tokens ++ ts)) := by
  have hviable : IsSentencePrefix left.tokens := AwaitsOperand.first.isSentencePrefix left
  have hoperators : ∀ c ∈ TokenClass.operators, c.Extends left.tokens := by
    intro c hc
    exact TokenClass.extends_operators left hc
  cases ts with
  | nil =>
    refine Reading.unfinished_nil ?_ hviable hoperators
    rw [endOffset_tokens]
    rfl
  | cons t rest =>
    obtain ⟨t, span⟩ := t
    cases hop : BinaryOp.ofToken? t with
    | some op =>
      obtain rfl := BinaryOp.ofToken?_eq_some_iff.mp hop
      exact reading_binary left ⟨op, span⟩
    | none =>
      cases t with
      | asKeyword => exact reading_cast left span
      | ident | colon | bang | question =>
        exact Reading.unexpected_head (fun _ => rfl) hviable hoperators
      | _ => contradiction

theorem reading_ofTokens (ts : List (Spanned Token))
    : Reading Form.ofTokens [] ts (fun _ => IsSentence ts) := by
  have hviable : IsSentencePrefix [] := AwaitsOperand.first.extends_name.isSentencePrefix
  have hstart : ∀ c ∈ [TokenClass.name, .symbol .minus], c.Extends [] := by
    simp only [List.mem_cons, List.not_mem_nil, or_false, forall_eq_or_imp, forall_eq]
    refine ⟨AwaitsOperand.first.extends_name, ?_⟩
    rintro ⟨_, span⟩ ⟨⟩
    exact (AwaitsOperand.negated span).extends_name.isSentencePrefix
  cases ts with
  | nil => exact .unfinished rfl hviable hstart
  | cons t rest =>
    obtain ⟨t, span⟩ := t
    cases t with
    | minus =>
      refine Reading.append [⟨.minus, span⟩] (fun _ _ => rfl) ?_
      apply reading_then (reading_readOperand rest (.negated span))
      rintro operand rest rfl
      exact reading_readEnd _ ⟨.negate span operand, rfl⟩
    | ident text =>
      have hquery : Reading
          (fun ts =>
            match readOperand .first 0 ts with
            | .ok (left, rest) => readOperator left rest
            | .error e => .error e)
          [] (⟨.ident text, span⟩ :: rest)
          (fun _ => IsSentence (⟨.ident text, span⟩ :: rest)) := by
        apply reading_then (reading_readOperand _ .first)
        intro left rest' hts
        rw [← hts]
        exact reading_readOperator left
      refine Reading.append [] ?_ hquery
      intro ts' hhead
      obtain ⟨rest', rfl⟩ := List.head?_eq_some_iff.mp hhead
      rfl
    | _ => exact Reading.unexpected_head (fun _ => rfl) hviable hstart

namespace OperandPhrase

variable {o : OperandPhrase} {e : Error} {defaultName : String}

/-- The type name is that of a numeric type, of a reference type if the operand is nullable. -/
def IsTyped (o : OperandPhrase) : Prop :=
  ∃ t : NumericType, o.type.node ∈ t.names ∧ (o.IsMarkedNullable → t.isReference = true)

/-- What is wrong with the type of an operand. The name of the type comes before its marker. -/
inductive Fault (o : OperandPhrase) : Error → Prop where
  | unknownType (hname : ∀ t : NumericType, o.type.node ∉ t.names) : o.Fault (.unknownType o.type)
  | nullablePrimitive {t : NumericType} (hname : o.type.node ∈ t.names)
    (hmarker : o.IsMarkedNullable) (hprimitive : t.isReference = false)
    : o.Fault (.nullablePrimitive t ⟨o.type.span.start, o.span.stop⟩)

theorem isTyped_or_fault (o : OperandPhrase) : o.IsTyped ∨ ∃ e, o.Fault e := by
  by_cases hname : ∃ t : NumericType, o.type.node ∈ t.names
  . obtain ⟨t, hname⟩ := hname
    by_cases hmarker : o.IsMarkedNullable
    . cases hreference : t.isReference with
      | true => exact .inl ⟨t, hname, fun _ => hreference⟩
      | false => exact .inr ⟨_, .nullablePrimitive hname hmarker hreference⟩
    . exact .inl ⟨t, hname, fun h => absurd h hmarker⟩
  . exact .inr ⟨_, .unknownType (not_exists.mp hname)⟩

theorem IsTyped.exists_resolve (h : o.IsTyped) (defaultName : String)
    : ∃ operand, o.form.resolve defaultName = .ok operand := by
  obtain ⟨t, hname, hmarker⟩ := h
  exact ⟨_, resolve_form hname hmarker defaultName⟩

theorem Fault.resolve_form (h : o.Fault e) : o.form.resolve defaultName = .error e := by
  unfold OperandForm.resolve
  cases h with
  | unknownType hname =>
    have hnone : NumericType.ofName? o.type.node = none := by
      rw [Option.eq_none_iff_forall_ne_some]
      intro t ht
      exact hname t (NumericType.mem_names_of_ofName? ht)
    simp only [form, hnone]
  | nullablePrimitive hname hmarker hprimitive =>
    have hmarker : o.marker.map Spanned.node = some .nullable := hmarker
    simp [form, NumericType.ofName?_of_mem_names hname, hmarker, hprimitive]

end OperandPhrase

namespace Phrase

variable {p : Phrase} {e : Error}

theorem exists_resolve (h : ∀ o ∈ p.operands, o.IsTyped) : ∃ query, p.form.resolve = .ok query := by
  unfold Form.resolve
  cases p with
  | binary left op right =>
    obtain ⟨l, hleft⟩ := (h left List.mem_cons_self).exists_resolve "left"
    obtain ⟨r, hright⟩ := (h right (.tail _ List.mem_cons_self)).exists_resolve "right"
    simp [form, hleft, hright]
  | negate _ operand | cast operand =>
    obtain ⟨o, hoperand⟩ := (h operand List.mem_cons_self).exists_resolve "left"
    simp [form, hoperand]

theorem resolve_of_fault {o : OperandPhrase} (ho : p.operands.head? = some o) (h : o.Fault e)
    : p.form.resolve = .error e := by
  unfold Form.resolve
  cases p with
  | binary left op right =>
    obtain rfl : left = o := Option.some.inj ho
    simp only [form, h.resolve_form]
  | negate _ operand | cast operand =>
    obtain rfl : operand = o := Option.some.inj ho
    simp only [form, h.resolve_form]

theorem resolve_of_right_fault {left right : OperandPhrase} {op : Spanned BinaryOp}
    (hleft : left.IsTyped) (h : right.Fault e)
    : (binary left op right).form.resolve = .error e := by
  unfold Form.resolve
  obtain ⟨l, hleft⟩ := hleft.exists_resolve "left"
  simp only [form, hleft, h.resolve_form]

theorem forall_isTyped_of_resolve {query : Query} (h : p.form.resolve = .ok query)
    : ∀ o ∈ p.operands, o.IsTyped := by
  have hfirst {o : OperandPhrase} (ho : p.operands.head? = some o) : o.IsTyped := by
    rcases o.isTyped_or_fault with htyped | ⟨e, hfault⟩
    . exact htyped
    . rw [resolve_of_fault ho hfault] at h
      contradiction
  cases p with
  | binary left op right =>
    have hright : right.IsTyped := by
      rcases right.isTyped_or_fault with htyped | ⟨e, hfault⟩
      . exact htyped
      . rw [resolve_of_right_fault (hfirst rfl) hfault] at h
        contradiction
    simpa [operands] using ⟨hfirst rfl, hright⟩
  | negate _ operand | cast operand => simpa [operands] using hfirst rfl

end Phrase

namespace TokenClass

/-- What a class is called in messages. -/
def label : TokenClass → String
  | name => "Ident"
  | symbol .asKeyword => "\"as\""
  | symbol .colon => "\":\""
  | symbol .bang => "\"!\""
  | symbol .question => "\"?\""
  | symbol .plus => "\"+\""
  | symbol .minus => "\"-\""
  | symbol .starStar => "\"**\""
  | symbol .star => "\"*\""
  | symbol .slash => "\"/\""
  | symbol .percent => "\"%\""
  | symbol (.ident text) => "\"" ++ text ++ "\""

def listing : List TokenClass → String
  | [] => ""
  | [c] => c.label
  | c :: next :: cs => c.label ++ ", " ++ listing (next :: cs)

/-- The part of a message about what was expected, which is left out if nothing was. -/
def hint : List TokenClass → String
  | [] => ""
  | c :: cs => ", expected one of " ++ listing (c :: cs)

theorem text_eq_label (c : TokenClass) : c.text = c.label := by
  cases c with
  | name => rfl
  | symbol t =>
    cases t with
    | ident => rfl
    | _ => decide

theorem intercalate_text (expected : List TokenClass)
    : ", ".intercalate (expected.map text) = listing expected := by
  induction expected with
  | nil => rfl
  | cons c cs ih =>
    cases cs with
    | nil => rw [listing, List.map_singleton, String.intercalate_singleton, text_eq_label]
    | cons next cs =>
      rw [listing, ← ih, ← text_eq_label]
      exact String.intercalate_cons_cons

theorem expectation_eq_hint (expected : List TokenClass)
    : GrammarError.expectation expected = hint expected := by
  cases expected with
  | nil => rfl
  | cons c cs =>
    unfold GrammarError.expectation hint
    rw [intercalate_text, List.isEmpty_cons, if_neg Bool.false_ne_true]

end TokenClass

namespace Error

/-- The error tells what was found where, and lists what was expected. -/
structure Reports (e : Error) (found : String) (span : Span) (expected : List TokenClass)
    : Prop where
  message : e.message = found ++ TokenClass.hint expected
  span : e.span = span

/--
The error is where the tokens first leave the grammar: at the first token with which no query goes
on, or at their end if they only start a query. All that it lists as expected could stand there.
-/
inductive IsFirstIn (ts : List (Spanned Token)) (e : Error) : Prop where
  | unexpected {seen rest : List (Spanned Token)} {t : Spanned Token} {expected : List TokenClass}
    (hts : ts = seen ++ t :: rest) (hseen : IsSentencePrefix seen)
    (ht : ¬IsSentencePrefix (seen ++ [t]))
    (hreports : e.Reports s!"unexpected '{t.node.text}'" t.span expected)
    (hexpected : ∀ c ∈ expected, c.Extends seen)
  | unfinished {expected : List TokenClass} (hviable : IsSentencePrefix ts)
    (hreports : e.Reports "unexpected end of query" ⟨endOffset ts, endOffset ts⟩ expected)
    (hexpected : ∀ c ∈ expected, c.Extends ts)

end Error

theorem reports_unexpected (t : Spanned Token) (expected : List TokenClass)
    : (Error.grammar (.unexpected t expected)).Reports s!"unexpected '{t.node.text}'" t.span
        expected := by
  refine ⟨?_, rfl⟩
  rw [← TokenClass.expectation_eq_hint]
  rfl

theorem reports_unfinished (offset : Nat) (expected : List TokenClass)
    : (Error.grammar (.unfinished offset expected)).Reports "unexpected end of query"
        ⟨offset, offset⟩ expected := by
  refine ⟨?_, rfl⟩
  rw [← TokenClass.expectation_eq_hint]
  rfl

-- A query is read to its end, so none starts with tokens on which reading fails whatever follows.
theorem not_isSentencePrefix_of_error {e : GrammarError}
    (h : ∀ rest, Form.ofTokens (ts ++ rest) = .error e) : ¬IsSentencePrefix ts := by
  rintro ⟨rest, p, hp⟩
  have := Form.ofTokens_tokens p
  rw [hp, h rest] at this
  contradiction

theorem exists_isFirstIn (hts : ¬IsSentence ts) : ∃ e, ofTokens ts = .error e ∧ e.IsFirstIn ts := by
  cases reading_ofTokens ts with
  | accepted hread hsentence => exact absurd hsentence hts
  | @unexpected seen rest t expected hsplit hread hviable hexpected =>
    refine ⟨.grammar (.unexpected t expected), ?_, ?_⟩
    . unfold ofTokens
      rw [hsplit, hread]
    . refine .unexpected hsplit hviable ?_ (reports_unexpected t expected) hexpected
      apply not_isSentencePrefix_of_error
      intro rest'
      rw [List.append_assoc]
      exact hread rest'
  | @unfinished expected hread hviable hexpected =>
    refine ⟨.grammar (.unfinished (endOffset ts) expected), ?_, ?_⟩
    . unfold ofTokens
      rw [hread]
      rfl
    . exact .unfinished hviable (reports_unfinished _ expected) hexpected

theorem exists_ofTokens_iff
    : (∃ query, ofTokens ts = .ok query) ↔
        ∃ p : Phrase, p.tokens = ts ∧ ∀ o ∈ p.operands, o.IsTyped := by
  constructor
  . rintro ⟨query, hquery⟩
    by_cases hts : IsSentence ts
    . obtain ⟨p, rfl⟩ := hts
      rw [ofTokens_tokens] at hquery
      exact ⟨p, rfl, Phrase.forall_isTyped_of_resolve hquery⟩
    . obtain ⟨e, he, -⟩ := exists_isFirstIn hts
      rw [he] at hquery
      contradiction
  . rintro ⟨p, rfl, htyped⟩
    rw [ofTokens_tokens]
    exact Phrase.exists_resolve htyped

end Query

open Query

/--
Exactly the queries of the grammar whose operands have types are read. Tokens outside the grammar
are refused where they leave it; then faults of the first operand come before those of the second.
-/
theorem parser_accepts_grammar_and_reports_first_error
    : (∀ ts : List (Spanned Token),
          (∃ query, Query.ofTokens ts = .ok query) ↔
            ∃ p : Phrase, p.tokens = ts ∧ ∀ o ∈ p.operands, o.IsTyped) ∧
        (∀ ts : List (Spanned Token), ¬IsSentence ts →
          ∃ e, Query.ofTokens ts = .error e ∧ e.IsFirstIn ts) ∧
        (∀ (p : Phrase) (o : OperandPhrase) (e : Query.Error), p.operands.head? = some o →
          o.Fault e → Query.ofTokens p.tokens = .error e) ∧
        ∀ (left right : OperandPhrase) (op : Spanned BinaryOp) (e : Query.Error), left.IsTyped →
          right.Fault e → Query.ofTokens (Phrase.binary left op right).tokens = .error e := by
  refine ⟨?_, ?_, ?_, ?_⟩
  . intro ts
    exact exists_ofTokens_iff
  . intro ts hts
    exact exists_isFirstIn hts
  . intro p o e ho hfault
    rw [ofTokens_tokens]
    exact Phrase.resolve_of_fault ho hfault
  . intro left right op e hleft hfault
    rw [ofTokens_tokens]
    exact Phrase.resolve_of_right_fault hleft hfault

-- `x: +`, `Strng? + Foo` and `int + int?`
theorem malformed_queries_report_first_error
    : let sum (left right : OperandPhrase) : Phrase := .binary left ⟨.add, ⟨7, 8⟩⟩ right
      let int (marker : Option (Spanned Marker)) : OperandPhrase := ⟨none, ⟨"int", ⟨9, 12⟩⟩, marker⟩
      let tokens : List (Spanned Token) :=
        [⟨.ident "x", ⟨0, 1⟩⟩, ⟨.colon, ⟨1, 2⟩⟩, ⟨.plus, ⟨3, 4⟩⟩]
      (∃ e, Query.ofTokens tokens = .error e ∧ e.IsFirstIn tokens ∧ e.span = ⟨3, 4⟩ ∧
          e.message = "unexpected '+', expected one of Ident") ∧
        Query.ofTokens (sum ⟨none, ⟨"Strng", ⟨0, 5⟩⟩, some ⟨.nullable, ⟨5, 6⟩⟩⟩
          ⟨none, ⟨"Foo", ⟨9, 12⟩⟩, none⟩).tokens = .error (.unknownType ⟨"Strng", ⟨0, 5⟩⟩) ∧
        Query.ofTokens (sum (int none) (int (some ⟨.nullable, ⟨12, 13⟩⟩))).tokens =
          .error (.nullablePrimitive (.primitive .int) ⟨9, 13⟩) := by
  intro sum int tokens
  obtain ⟨-, hfirst, hleft, hright⟩ := parser_accepts_grammar_and_reports_first_error
  refine ⟨?_, ?_, ?_⟩
  . have htokens : ¬IsSentence tokens := by
      intro h
      exact not_isSentencePrefix_of_error (fun _ => rfl) h.isSentencePrefix
    obtain ⟨e, he, hfirst⟩ := hfirst tokens htokens
    refine ⟨e, he, hfirst, ?_⟩
    cases he
    exact ⟨rfl, by decide⟩
  . apply hleft _ _ _ rfl
    apply OperandPhrase.Fault.unknownType
    intro t ht
    have hnone : NumericType.ofName? "Strng" = none := by decide
    rw [NumericType.ofName?_of_mem_names ht] at hnone
    contradiction
  . apply hright
    . exact ⟨.primitive .int, List.mem_cons_self, nofun⟩
    . exact .nullablePrimitive List.mem_cons_self rfl rfl

end OperatorLowering
