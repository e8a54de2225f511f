import OperatorLowering.Proofs.Layout
import OperatorLowering.Proofs.QueryGrammar

/-!
Queries as text. A query that is written out in full, with a space between any two tokens, is read
back as it was.
-/

namespace OperatorLowering

namespace Query

/-- A name that an operand can have: simple or dotted, and not the keyword. -/
structure Identifier where
  text : String
  isName : Token.IsName text.toList
  ne_as : text ≠ "as"

structure WrittenOperand where
  name : Identifier
  type : NumericType
  /-- The simple or the qualified name of the type. -/
  spelling : String
  mem_names : spelling ∈ type.names
  nullable : Bool
  isReference : nullable = true → type.isReference = true

structure CastTarget where
  type : TypeName
  exists_ofName : ∃ name, TypeName.ofName name = type
  isName : Token.IsName type.text.toList
  ne_as : type.text ≠ "as"

inductive WrittenQuery where
  | binary (op : BinaryOp) (left right : WrittenOperand)
  | negate (operand : WrittenOperand)
  | cast (operand : WrittenOperand) (target : CastTarget)

def Operand.content (o : Operand) : String × NumericType × Bool := (o.name, o.type, o.nullable)

namespace WrittenOperand

def content (w : WrittenOperand) : String × NumericType × Bool := (w.name.text, w.type, w.nullable)

/-- `name : Type marker` -/
def words (w : WrittenOperand) : List String :=
  [w.name.text, ":", w.spelling, if w.nullable then "?" else "!"]

def marker (w : WrittenOperand) : Marker := if w.nullable then .nullable else .nonNull

def tokens (w : WrittenOperand) : List Token :=
  [.ident w.name.text, .colon, .ident w.spelling, w.marker.token]

end WrittenOperand

namespace WrittenQuery

def operator : WrittenQuery → Operator
  | binary op _ _ => .binary op
  | negate _ => .negate
  | cast _ target => .cast target.type

def left : WrittenQuery → WrittenOperand
  | binary _ left _ => left
  | negate operand | cast operand _ => operand

def right? : WrittenQuery → Option WrittenOperand
  | binary _ _ right => some right
  | negate _ | cast .. => none

def words : WrittenQuery → List String
  | binary op left right => left.words ++ op.text :: right.words
  | negate operand => "-" :: operand.words
  | cast operand target => operand.words ++ ["as", target.type.text]

/-- The words of a query with a space between any two of them. -/
def text (q : WrittenQuery) : String := " ".intercalate q.words

def tokens : WrittenQuery → List Token
  | binary op left right => left.tokens ++ op.token :: right.tokens
  | negate operand => .minus :: operand.tokens
  | cast operand target => operand.tokens ++ [.asKeyword, .ident target.type.text]

end WrittenQuery

end Query

theorem BinaryOp.text_token (op : BinaryOp) : op.token.text = op.text := by
  cases op <;> rfl

theorem NumericType.isSpelled_of_mem_names {t : NumericType} {name : String} (h : name ∈ t.names)
    : (Token.ident name).IsSpelled := by
  have hall : ∀ t ∈ all, ∀ name ∈ t.names, Token.IsName name.toList ∧ name ≠ "as" := by
    decide +kernel
  exact hall t t.mem_all name h

theorem TypeName.eq_of_ofName_eq_named {name other : String} (h : ofName name = .named other)
    : name = other := by
  unfold ofName at h
  split at h
  . contradiction
  . repeat' split at h
    all_goals cases h
    rfl

theorem TypeName.ofName_text {type : TypeName} (h : ∃ name, ofName name = type)
    : ofName type.text = type := by
  obtain ⟨name, rfl⟩ := h
  cases htype : ofName name with
  | numeric t =>
    have hname : NumericType.ofName? t.name = some t :=
      NumericType.ofName?_of_mem_names List.mem_cons_self
    simp only [ofName, text, hname]
  | named other =>
    obtain rfl := eq_of_ofName_eq_named htype
    exact htype
  | _ => decide

namespace Query

namespace WrittenOperand

variable {w : WrittenOperand}

theorem words_eq (w : WrittenOperand) : w.words = w.tokens.map Token.text := by
  unfold words tokens marker
  cases w.nullable <;> rfl

theorem isSpelled_of_mem_tokens {t : Token} (h : t ∈ w.tokens) : t.IsSpelled := by
  simp only [tokens, List.mem_cons, List.not_mem_nil, or_false] at h
  rcases h with rfl | rfl | rfl | rfl
  . exact ⟨w.name.isName, w.name.ne_as⟩
  . trivial
  . exact NumericType.isSpelled_of_mem_names w.mem_names
  . cases w.marker <;> trivial

theorem nullable_of_marker_eq (h : w.marker = .nullable) : w.nullable = true := by
  unfold marker at h
  split at h
  . assumption
  . contradiction

theorem exists_phrase {ts : List (Spanned Token)} (h : ts.map Spanned.node = w.tokens)
    : ∃ o : OperandPhrase, o.tokens = ts ∧
        ∀ defaultName, ∃ operand,
          o.form.resolve defaultName = .ok operand ∧ operand.content = w.content := by
  simp only [tokens, List.map_eq_cons_iff, List.map_eq_nil_iff] at h
  obtain ⟨⟨_, nameSpan⟩, _, rfl, rfl, ⟨_, colon⟩, _, rfl, rfl, ⟨_, typeSpan⟩, _, rfl, rfl,
    ⟨_, markerSpan⟩, _, rfl, rfl, rfl⟩ := h
  let o : OperandPhrase :=
    ⟨some (⟨w.name.text, nameSpan⟩, colon), ⟨w.spelling, typeSpan⟩, some ⟨w.marker, markerSpan⟩⟩
  have hnullable : o.isNullable w.type = w.nullable := by
    simp only [o, OperandPhrase.isNullable, marker]
    cases w.nullable <;> rfl
  have hmarker : o.IsMarkedNullable → w.type.isReference = true := by
    intro h
    exact w.isReference (nullable_of_marker_eq (Option.some.inj h))
  refine ⟨o, rfl, ?_⟩
  intro defaultName
  refine ⟨_, OperandPhrase.resolve_form w.mem_names hmarker defaultName, ?_⟩
  simp only [Operand.content, content, hnullable]
  rfl

end WrittenOperand

namespace WrittenQuery

theorem words_eq (q : WrittenQuery) : q.words = q.tokens.map Token.text := by
  cases q with
  | binary op left right =>
    simp only [words, tokens, WrittenOperand.words_eq, List.map_append, List.map_cons,
      BinaryOp.text_token]
  | negate operand | cast operand =>
    simp only [words, tokens, WrittenOperand.words_eq, List.map_append, List.map_cons,
      List.map_nil]
    rfl

theorem isSpelled_of_mem_tokens {q : WrittenQuery} {t : Token} (h : t ∈ q.tokens)
    : t.IsSpelled := by
  cases q with
  | binary op left right =>
    rcases List.mem_append.mp h with h | h
    . exact WrittenOperand.isSpelled_of_mem_tokens h
    . rcases List.mem_cons.mp h with rfl | h
      . cases op <;> trivial
      . exact WrittenOperand.isSpelled_of_mem_tokens h
  | negate operand =>
    rcases List.mem_cons.mp h with rfl | h
    . trivial
    . exact WrittenOperand.isSpelled_of_mem_tokens h
  | cast operand target =>
    rcases List.mem_append.mp h with h | h
    . exact WrittenOperand.isSpelled_of_mem_tokens h
    . simp only [List.mem_cons, List.not_mem_nil, or_false] at h
      rcases h with rfl | rfl
      . trivial
      . exact ⟨target.isName, target.ne_as⟩

theorem exists_tokenize (q : WrittenQuery)
    : ∃ tokens, Token.tokenize q.text = .ok tokens ∧ tokens.map Spanned.node = q.tokens := by
  have hline := Token.isLaidOut_spaced fun _ => q.isSpelled_of_mem_tokens
  have hlex := hline.lex_written 0
  rw [Token.written_spaced, ← q.words_eq, String.toList_empty, List.append_nil] at hlex
  exact ⟨_, hlex, Token.nodes_placed_spaced 0 q.tokens⟩

/-- The query has the operator and the operands that were written. -/
structure IsReadAs (q : WrittenQuery) (query : Query) : Prop where
  operator : query.operator = q.operator
  left : query.left.content = q.left.content
  right : query.right.map Operand.content = q.right?.map WrittenOperand.content

theorem exists_ofTokens {q : WrittenQuery} {ts : List (Spanned Token)}
    (h : ts.map Spanned.node = q.tokens) : ∃ query, ofTokens ts = .ok query ∧ q.IsReadAs query := by
  cases q with
  | binary op left right =>
    obtain ⟨leftTokens, _, rfl, hleft, hrest⟩ := List.map_eq_append_iff.mp h
    obtain ⟨⟨_, opSpan⟩, rightTokens, rfl, rfl, hright⟩ := List.map_eq_cons_iff.mp hrest
    obtain ⟨l, rfl, hl⟩ := WrittenOperand.exists_phrase hleft
    obtain ⟨r, rfl, hr⟩ := WrittenOperand.exists_phrase hright
    obtain ⟨lo, hlo, hlcontent⟩ := hl "left"
    obtain ⟨ro, hro, hrcontent⟩ := hr "right"
    have hresolve := ofTokens_tokens (.binary l ⟨op, opSpan⟩ r)
    simp only [Phrase.form, Form.resolve, hlo, hro] at hresolve
    exact ⟨_, hresolve, rfl, hlcontent, congrArg some hrcontent⟩
  | negate operand =>
    obtain ⟨⟨_, sign⟩, tokens, rfl, rfl, htokens⟩ := List.map_eq_cons_iff.mp h
    obtain ⟨o, rfl, ho⟩ := WrittenOperand.exists_phrase htokens
    obtain ⟨oo, hoo, hcontent⟩ := ho "left"
    have hresolve := ofTokens_tokens (.negate sign o)
    simp only [Phrase.form, Form.resolve, hoo] at hresolve
    exact ⟨_, hresolve, rfl, hcontent, rfl⟩
  | cast operand target =>
    obtain ⟨tokens, _, rfl, htokens, hrest⟩ := List.map_eq_append_iff.mp h
    simp only [List.map_eq_cons_iff, List.map_eq_nil_iff] at hrest
    obtain ⟨⟨_, keyword⟩, _, rfl, rfl, ⟨_, span⟩, _, rfl, rfl, rfl⟩ := hrest
    obtain ⟨o, rfl, ho⟩ := WrittenOperand.exists_phrase htokens
    obtain ⟨oo, hoo, hcontent⟩ := ho "left"
    have hresolve := ofTokens_tokens (.cast o keyword ⟨target.type.text, span⟩)
    simp only [Phrase.form, Form.resolve, hoo] at hresolve
    refine ⟨_, hresolve, ?_, hcontent, rfl⟩
    simp only [operator, OperatorForm.resolve, TypeName.ofName_text target.exists_ofName]

end WrittenQuery

end Query

/-- Every query that is written out in full is read back with its operator and operands. -/
theorem written_query_is_read_back (q : Query.WrittenQuery)
    : ∃ tokens query, Token.tokenize q.text = .ok tokens ∧ Query.ofTokens tokens = .ok query ∧
        q.IsReadAs query := by
  obtain ⟨tokens, htokens, hnodes⟩ := q.exists_tokenize
  obtain ⟨query, hquery, hread⟩ := Query.WrittenQuery.exists_ofTokens hnodes
  exact ⟨tokens, query, htokens, hquery, hread⟩

/-- A name that starts with the keyword, a power and a qualified nullable type are read back. -/
theorem power_of_nullable_counter_is_read_back
    : let base : Query.WrittenOperand :=
        ⟨⟨"as.b", by decide, by decide⟩, .atomic .long, "java.util.concurrent.atomic.AtomicLong",
          by decide, true, fun _ => rfl⟩
      let exponent : Query.WrittenOperand :=
        ⟨⟨"$x", by decide, by decide⟩, .primitive .int, "int", by decide, false, nofun⟩
      ∃ tokens query,
        Token.tokenize "as.b : java.util.concurrent.atomic.AtomicLong ? ** $x : int !" =
            .ok tokens ∧
          Query.ofTokens tokens = .ok query ∧
          (Query.WrittenQuery.binary .pow base exponent).IsReadAs query := by
  intro base exponent
  have htext : (Query.WrittenQuery.binary .pow base exponent).text =
      "as.b : java.util.concurrent.atomic.AtomicLong ? ** $x : int !" := by
    decide +kernel
  rw [← htext]
  exact written_query_is_read_back _

end OperatorLowering
