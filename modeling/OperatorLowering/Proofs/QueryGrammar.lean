import OperatorLowering.Proofs.Promotion
import OperatorLowering.Query.Parser

/-!
The grammar of queries. A phrase is a sentence of the grammar together with the places of its
tokens; reading the tokens of a phrase gives the query it is written for.
-/

namespace OperatorLowering

namespace NumericType

variable {t : NumericType} {name : String}

/-- The simple and, if there is one, the qualified name. -/
def names (t : NumericType) : List String := t.name :: t.qualifiedName?.toList

theorem mem_names_of_ofName? (h : ofName? name = some t) : name ∈ t.names := by
  have := List.find?_some h
  simp only [Bool.or_eq_true, beq_iff_eq] at this
  simpa [names, eq_comm] using this

theorem ofName?_of_mem_names (h : name ∈ t.names) : ofName? name = some t := by
  have hall : ∀ t ∈ all, ∀ name ∈ t.names, ofName? name = some t := by decide
  exact hall t t.mem_all name h

end NumericType

namespace Query

def Marker.token : Marker → Token
  | nonNull => .bang
  | nullable => .question

/-- An operand as written: `[name ':'] type ['!' | '?']`. -/
structure OperandPhrase where
  /-- The name, and where the colon after it stands. -/
  name : Option (Spanned String × Span)
  type : Spanned String
  marker : Option (Spanned Marker)

/-- A query as written: `operand binop operand`, `'-' operand` or `operand 'as' target`. -/
inductive Phrase where
  | binary (left : OperandPhrase) (op : Spanned BinaryOp) (right : OperandPhrase)
  | negate (sign : Span) (operand : OperandPhrase)
  | cast (operand : OperandPhrase) (keyword : Span) (target : Spanned String)

end Query

def BinaryOp.token : BinaryOp → Token
  | add => .plus
  | sub => .minus
  | mul => .star
  | div => .slash
  | mod => .percent
  | pow => .starStar

namespace BinaryOp

@[simp]
theorem ofToken?_token (op : BinaryOp) : ofToken? op.token = some op := by
  cases op <;> rfl

theorem ofToken?_eq_some_iff {t : Token} {op : BinaryOp} : ofToken? t = some op ↔ t = op.token := by
  constructor
  . intro h
    cases t <;> cases h <;> rfl
  . rintro rfl
    exact ofToken?_token op

end BinaryOp

namespace Query

namespace OperandPhrase

def nameTokens (o : OperandPhrase) : List (Spanned Token) :=
  match o.name with
  | some (name, colon) => [⟨.ident name.node, name.span⟩, ⟨.colon, colon⟩]
  | none => []

def markerTokens (o : OperandPhrase) : List (Spanned Token) :=
  match o.marker with
  | some marker => [⟨marker.node.token, marker.span⟩]
  | none => []

def tokens (o : OperandPhrase) : List (Spanned Token) :=
  o.nameTokens ++ ⟨.ident o.type.node, o.type.span⟩ :: o.markerTokens

theorem exists_tokens_eq_cons (o : OperandPhrase)
    : ∃ name span tail, o.tokens = ⟨.ident name, span⟩ :: tail := by
  obtain ⟨name, type, marker⟩ := o
  cases name <;> exact ⟨_, _, _, rfl⟩

/-- From the name or the type to the type or the marker. -/
def span (o : OperandPhrase) : Span where
  start := (o.name.map fun name => name.1.span.start).getD o.type.span.start
  stop := (o.marker.map fun marker => marker.span.stop).getD o.type.span.stop

def form (o : OperandPhrase) : OperandForm :=
  ⟨o.name.map fun name => name.1.node, o.type, o.marker.map Spanned.node, o.span⟩

end OperandPhrase

namespace Phrase

def operands : Phrase → List OperandPhrase
  | binary left _ right => [left, right]
  | negate _ operand | cast operand _ _ => [operand]

def tokens : Phrase → List (Spanned Token)
  | binary left op right => left.tokens ++ ⟨op.node.token, op.span⟩ :: right.tokens
  | negate sign operand => ⟨.minus, sign⟩ :: operand.tokens
  | cast operand keyword target =>
    operand.tokens ++ [⟨.asKeyword, keyword⟩, ⟨.ident target.node, target.span⟩]

def form : Phrase → Form
  | binary left op right =>
    ⟨.binary op.node, left.form, some right.form, ⟨left.span.start, right.span.stop⟩⟩
  | negate sign operand => ⟨.negate, operand.form, none, ⟨sign.start, operand.span.stop⟩⟩
  | cast operand _ target =>
    ⟨.cast target.node, operand.form, none, ⟨operand.span.start, target.span.stop⟩⟩

end Phrase

section Readers

variable {rest : List (Spanned Token)} {name : Option String} {type : Spanned String} {start : Nat}
  {expected : List TokenClass} {place : Place} {last : Nat}

theorem readMarker_of_marker (marker : Spanned Marker)
    : readMarker name type start expected (⟨marker.node.token, marker.span⟩ :: rest) =
        .ok (⟨name, type, some marker.node, ⟨start, marker.span.stop⟩⟩, rest) := by
  obtain ⟨marker, span⟩ := marker
  cases marker <;> rfl

theorem readMarker_of_endsOperand (h : ∀ t ∈ rest.head?, endsOperand t.node = true)
    : readMarker name type start expected rest =
        .ok (⟨name, type, none, ⟨start, type.span.stop⟩⟩, rest) := by
  cases rest with
  | nil => rfl
  | cons t rest =>
    obtain ⟨t, span⟩ := t
    have hends : endsOperand t = true := h ⟨t, span⟩ rfl
    cases t with
    | bang | question => contradiction
    | _ => simp [readMarker, hends]

theorem readOperand_of_not_colon (h : ∀ t ∈ rest.head?, t.node ≠ .colon)
    : readOperand place last (⟨.ident type.node, type.span⟩ :: rest) =
        readMarker none type type.span.start (TokenClass.afterName place) rest := by
  cases rest with
  | nil => rfl
  | cons t rest =>
    obtain ⟨t, span⟩ := t
    have hcolon : t ≠ .colon := h ⟨t, span⟩ rfl
    cases t with
    | colon => contradiction
    | _ => rfl

theorem ne_colon_of_endsOperand {t : Token} (h : endsOperand t = true) : t ≠ .colon := by
  rintro rfl
  contradiction

/-- An operand without a marker has to be followed by an operator, or by nothing. -/
def OperandPhrase.MayPrecede (o : OperandPhrase) (rest : List (Spanned Token)) : Prop :=
  o.marker = none → ∀ t ∈ rest.head?, endsOperand t.node = true

theorem readMarker_tokens (expected : List TokenClass) {o : OperandPhrase} (h : o.MayPrecede rest)
    : readMarker (o.name.map fun name => name.1.node) o.type o.span.start expected
          (o.markerTokens ++ rest) =
        .ok (o.form, rest) := by
  obtain ⟨name, type, marker⟩ := o
  cases marker with
  | none => exact readMarker_of_endsOperand (h rfl)
  | some marker => apply readMarker_of_marker

theorem OperandPhrase.MayPrecede.head?_ne_colon {o : OperandPhrase} (h : o.MayPrecede rest)
    : ∀ t ∈ (o.markerTokens ++ rest).head?, t.node ≠ .colon := by
  obtain ⟨name, type, marker⟩ := o
  cases marker with
  | none =>
    intro t ht
    exact ne_colon_of_endsOperand (h rfl t ht)
  | some marker =>
    rintro t ⟨⟩
    obtain ⟨marker, span⟩ := marker
    cases marker <;> simp [Marker.token]

theorem readOperand_tokens {o : OperandPhrase} (h : o.MayPrecede rest)
    : readOperand place last (o.tokens ++ rest) = .ok (o.form, rest) := by
  have hcolon := h.head?_ne_colon
  obtain ⟨name, type, marker⟩ := o
  cases name with
  | none =>
    rw [← readMarker_tokens (TokenClass.afterName place) h]
    exact readOperand_of_not_colon hcolon
  | some name =>
    rw [← readMarker_tokens (TokenClass.afterType place) h]
    rfl

theorem readOperator_token (left : OperandForm) (op : Spanned BinaryOp)
    : readOperator left (⟨op.node.token, op.span⟩ :: rest) =
        match readOperand .final op.span.stop rest with
        | .ok (right, rest) =>
          readEnd ⟨.binary op.node, left, some right, ⟨left.span.start, right.span.stop⟩⟩ rest
        | .error e => .error e := by
  obtain ⟨op, span⟩ := op
  cases op <;> rfl

theorem Form.ofTokens_of_ident {name : String} {span : Span}
    : Form.ofTokens (⟨.ident name, span⟩ :: rest) =
        match readOperand .first 0 (⟨.ident name, span⟩ :: rest) with
        | .ok (left, rest) => readOperator left rest
        | .error e => .error e := rfl

theorem Form.ofTokens_of_operand {o : OperandPhrase} (h : o.MayPrecede rest)
    : Form.ofTokens (o.tokens ++ rest) = readOperator o.form rest := by
  have hread : readOperand .first 0 (o.tokens ++ rest) = .ok (o.form, rest) := readOperand_tokens h
  obtain ⟨name, span, tail, htokens⟩ := o.exists_tokens_eq_cons
  rw [htokens] at hread ⊢
  rw [List.cons_append] at hread ⊢
  rw [Form.ofTokens_of_ident, hread]

end Readers

theorem endsOperand_token (op : BinaryOp) : endsOperand op.token = true := by
  cases op <;> rfl

theorem OperandPhrase.mayPrecede_nil (o : OperandPhrase) : o.MayPrecede [] := nofun

theorem Form.ofTokens_tokens (p : Phrase) : Form.ofTokens p.tokens = .ok p.form := by
  cases p with
  | binary left op right =>
    have hleft : left.MayPrecede (⟨op.node.token, op.span⟩ :: right.tokens) := by
      rintro - t ⟨⟩
      exact endsOperand_token op.node
    have hright : readOperand .final op.span.stop right.tokens = .ok (right.form, []) := by
      rw [← List.append_nil right.tokens]
      exact readOperand_tokens right.mayPrecede_nil
    simp only [Phrase.tokens]
    rw [Form.ofTokens_of_operand hleft, readOperator_token, hright]
    rfl
  | negate sign operand =>
    have hoperand : readOperand .final sign.stop operand.tokens = .ok (operand.form, []) := by
      rw [← List.append_nil operand.tokens]
      exact readOperand_tokens operand.mayPrecede_nil
    simp only [Phrase.tokens, Form.ofTokens, hoperand]
    rfl
  | cast operand keyword target =>
    have hoperand : operand.MayPrecede
        [⟨.asKeyword, keyword⟩, ⟨.ident target.node, target.span⟩] := by
      rintro - t ⟨⟩
      rfl
    simp only [Phrase.tokens]
    rw [Form.ofTokens_of_operand hoperand]
    rfl

theorem ofTokens_tokens (p : Phrase) : ofTokens p.tokens = p.form.resolve := by
  unfold ofTokens
  rw [Form.ofTokens_tokens]

namespace OperandPhrase

variable {o : OperandPhrase} {t : NumericType}

def IsMarkedNullable (o : OperandPhrase) : Prop := o.marker.map Spanned.node = some .nullable

/-- As marked, and without a marker as the type has it. -/
def isNullable (o : OperandPhrase) (t : NumericType) : Bool :=
  match o.marker with
  | some ⟨.nonNull, _⟩ => false
  | some ⟨.nullable, _⟩ => true
  | none => t.isReference

theorem resolve_form (hname : o.type.node ∈ t.names)
    (hmarker : o.IsMarkedNullable → t.isReference = true) (defaultName : String)
    : o.form.resolve defaultName =
        .ok ⟨(o.name.map fun name => name.1.node).getD defaultName, t, o.isNullable t, o.span⟩ := by
  obtain ⟨name, type, marker⟩ := o
  unfold OperandForm.resolve
  simp only [form, NumericType.ofName?_of_mem_names hname]
  cases marker with
  | none => rfl
  | some marker =>
    obtain ⟨marker, span⟩ := marker
    cases marker with
    | nonNull => rfl
    | nullable => exact if_pos (hmarker rfl)

end OperandPhrase

end Query

end OperatorLowering
