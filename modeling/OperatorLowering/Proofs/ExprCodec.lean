import OperatorLowering.Expr.Codec
import OperatorLowering.Proofs.Decoding
import OperatorLowering.Proofs.QueryText
import OperatorLowering.Proofs.Tree

/-!
Expressions as JSON values. The expressions that can be read are those whose spans fit into words,
whose type names stand for their types and whose literals are finite, and each of them is read back
from what it is written as.
-/

namespace OperatorLowering

namespace Decoder

theorem word_yields : word.Yields (· < UInt64.size) := by
  intro n j k h
  unfold word at h
  split at h
  . split at h
    . next hrange =>
      cases h
      simp only [Bool.and_eq_true, decide_eq_true_eq] at hrange
      omega
    . contradiction
  . contradiction

theorem word_readsBack {k : Nat} (h : k < UInt64.size) : word.ReadsBack .nat k := by
  intro n _
  have hrange : (0 ≤ (k : Int) && (k : Int) < UInt64.size) = true := by
    simp only [Bool.and_eq_true, decide_eq_true_eq]
    omega
  unfold word Json.nat
  dsimp only
  rw [if_pos hrange, Int.toNat_natCast]

theorem int64_readsBack (v : Int64) : int64.ReadsBack (fun v => .int v.toInt) v := by
  intro n _
  have hrange : (Int64.minValue.toInt ≤ v.toInt && v.toInt ≤ Int64.maxValue.toInt) = true := by
    rw [decide_eq_true v.minValue_le_toInt, decide_eq_true v.toInt_le]
    rfl
  unfold int64 Json.int
  dsimp only
  rw [if_pos hrange, Int64.ofInt_toInt]

theorem binary64_yields : binary64.Yields (Binary64.isFinite ·) := by
  intro n j x h
  unfold binary64 at h
  split at h
  . split at h
    . next hfinite =>
      cases h
      exact hfinite
    . contradiction
  . contradiction

theorem binary64_readsBack {x : Binary64} (h : x.isFinite) : binary64.ReadsBack .float x := by
  intro n _
  unfold Json.float
  rw [if_pos h]
  exact if_pos h

end Decoder

namespace Span

def IsStorable (s : Span) : Prop := s.start < UInt64.size ∧ s.stop < UInt64.size

theorem isStorable_zero : zero.IsStorable := by
  constructor <;> decide

theorem decoder_yields : decoder.Yields IsStorable := by
  intro n j s h
  unfold decoder at h
  split at h
  . simp only [Option.bind_eq_bind, Option.bind_eq_some_iff, Option.pure_def, Option.some.injEq]
      at h
    obtain ⟨start, hstart, stop, hstop, rfl⟩ := h
    exact ⟨Json.Field.required_yields Decoder.word_yields hstart,
      Json.Field.required_yields Decoder.word_yields hstop⟩
  . contradiction

theorem readsBack {s : Span} (h : s.IsStorable) : decoder.ReadsBack encode s := by
  intro n hdepth
  obtain ⟨m, hrecord, hvalues⟩ := Decoder.exists_record hdepth ["start", "end"]
    [.nat s.start, .nat s.stop] rfl (by decide) rfl
  have hstart := Decoder.word_readsBack h.1 m (hvalues _ (by simp))
  have hstop := Decoder.word_readsBack h.2 m (hvalues _ (by simp))
  unfold decoder
  rw [hrecord]
  dsimp only [List.map]
  rw [Json.Field.required_given, Json.Field.required_given, hstart, hstop]
  rfl

end Span

namespace Spanned

variable {α : Type} {d : Decoder α} {encodeNode : α → Json}

theorem decoder_yields {P : α → Prop} (hd : d.Yields P)
    : (decoder d).Yields fun s => P s.node ∧ s.span.IsStorable := by
  intro n j s h
  unfold decoder at h
  split at h
  . simp only [Option.bind_eq_bind, Option.bind_eq_some_iff, Option.pure_def, Option.some.injEq]
      at h
    obtain ⟨node, hnode, span, hspan, rfl⟩ := h
    refine ⟨Json.Field.required_yields hd hnode, ?_⟩
    exact Json.Field.withDefault_yields Span.decoder_yields Span.isStorable_zero hspan
  . contradiction

theorem span_yields : (decoder d).Yields fun s => s.span.IsStorable := by
  intro n j s h
  exact (decoder_yields d.yields_true n j s h).2

theorem readsBack {s : Spanned α} (hnode : d.ReadsBack encodeNode s.node)
    (hspan : s.span.IsStorable) : (decoder d).ReadsBack (encode encodeNode) s := by
  intro n hdepth
  obtain ⟨m, hrecord, hvalues⟩ := Decoder.exists_record hdepth ["node", "span"]
    [encodeNode s.node, s.span.encode] rfl (by decide) rfl
  have hnode := hnode m (hvalues _ (by simp))
  have hspan := Span.readsBack hspan m (hvalues _ (by simp))
  unfold decoder
  rw [hrecord]
  simp [hnode, hspan]

end Spanned

namespace TypeName

def IsNamed (t : TypeName) : Prop := ∃ name, ofName name = t

theorem decoder_yields : decoder.Yields IsNamed := by
  intro n j t h
  obtain ⟨name, -, rfl⟩ := Option.map_eq_some_iff.mp h
  exact ⟨name, rfl⟩

theorem readsBack {t : TypeName} (h : t.IsNamed) : decoder.ReadsBack encode t := by
  intro n _
  exact congrArg some (ofName_text h)

theorem spanned_readsBack {t : Spanned TypeName} (h : t.node.IsNamed ∧ t.span.IsStorable)
    : (Spanned.decoder decoder).ReadsBack (Spanned.encode encode) t :=
  Spanned.readsBack (readsBack h.1) h.2

end TypeName

theorem BinaryOp.readsBack (op : BinaryOp) : decoder.ReadsBack encode op := by
  intro n _
  cases op <;> rfl

theorem FeatureSlot.readsBack (slot : FeatureSlot) : decoder.ReadsBack encode slot := by
  intro n hdepth
  cases slot with
  | linked id | proxy text =>
    obtain ⟨m, rfl, -⟩ := Json.exists_of_depth_object_le hdepth
    rfl

namespace Expr

def castTarget? : Expr → Option (Spanned TypeName)
  | cast _ _ target => some target
  | _ => none

def floatValue? : Expr → Option Binary64
  | floatLit _ value => some value
  | _ => none

/-- The span of a node, the type of a cast and the value of a literal can be written. -/
structure HasStorableData (e : Expr) : Prop where
  span : e.span.IsStorable
  target : ∀ target ∈ e.castTarget?, target.node.IsNamed ∧ target.span.IsStorable
  value : ∀ value ∈ e.floatValue?, value.isFinite

def IsStorable (e : Expr) : Prop := ∀ node ∈ e.nodes, node.HasStorableData

variable {e : Expr} {es : List Expr} {span : Span} {part : Decoder Expr} {name : String}

theorem isStorable_iff
    : e.IsStorable ↔ e.HasStorableData ∧ ∀ child ∈ e.children, child.IsStorable := by
  unfold IsStorable
  rw [nodes_eq_cons, List.forall_mem_cons]
  simp only [List.mem_flatMap, forall_exists_index, and_imp]
  constructor
  . rintro ⟨he, h⟩
    exact ⟨he, fun child hchild node => h node child hchild⟩
  . rintro ⟨he, h⟩
    exact ⟨he, fun node child hchild => h child hchild node⟩

theorem isStorable_of_children (hspan : e.span.IsStorable) (hcast : e.castTarget? = none)
    (hfloat : e.floatValue? = none) (hchildren : ∀ child ∈ e.children, child.IsStorable)
    : e.IsStorable := by
  refine isStorable_iff.mpr ⟨⟨hspan, ?_, ?_⟩, hchildren⟩
  . rw [hcast]
    simp
  . rw [hfloat]
    simp

theorem isStorable_leaf (hspan : e.span.IsStorable) (hcast : e.castTarget? = none)
    (hfloat : e.floatValue? = none) (hchildren : e.children = []) : e.IsStorable := by
  apply isStorable_of_children hspan hcast hfloat
  rw [hchildren]
  simp

theorem isStorable_floatLit {value : Binary64} (hspan : span.IsStorable) (hvalue : value.isFinite)
    : (floatLit span value).IsStorable := by
  refine isStorable_iff.mpr ⟨⟨hspan, ?_, ?_⟩, ?_⟩
  . simp [castTarget?]
  . simpa [floatValue?] using hvalue
  . simp [children]

theorem isStorable_cast {operand : Expr} {target : Spanned TypeName} (hspan : span.IsStorable)
    (htarget : target.node.IsNamed ∧ target.span.IsStorable) (hoperand : operand.IsStorable)
    : (cast span operand target).IsStorable := by
  refine isStorable_iff.mpr ⟨⟨hspan, ?_, ?_⟩, ?_⟩
  . simpa [castTarget?] using htarget
  . simp [floatValue?]
  . simpa [children] using hoperand

theorem nodeWith_yields (hpart : part.Yields IsStorable) (hspan : span.IsStorable)
    (name : String) : (nodeWith part span name).Yields IsStorable := by
  intro n j e h
  have hrequired {field : Json.Field} {n : Nat} {a : Expr} (h : field.required part n = some a) :=
    Json.Field.required_yields hpart h
  unfold nodeWith at h
  split at h
  . obtain ⟨value, -, rfl⟩ := Option.map_eq_some_iff.mp h
    exact isStorable_leaf hspan rfl rfl rfl
  . obtain ⟨value, hvalue, rfl⟩ := Option.map_eq_some_iff.mp h
    exact isStorable_floatLit hspan (Decoder.binary64_yields n j value hvalue)
  -- The other nodes without parts.
  iterate 3
    obtain ⟨value, -, rfl⟩ := Option.map_eq_some_iff.mp h
    exact isStorable_leaf hspan rfl rfl rfl
  . split at h
    . simp only [Option.bind_eq_bind, Option.bind_eq_some_iff, Option.pure_def, Option.some.injEq]
        at h
      obtain ⟨left, hleft, op, -, right, hright, rfl⟩ := h
      refine isStorable_of_children hspan rfl rfl ?_
      simp [children, hrequired hleft, hrequired hright]
    . contradiction
  . split at h
    . simp only [Option.bind_eq_bind, Option.bind_eq_some_iff, Option.pure_def, Option.some.injEq]
        at h
      obtain ⟨-, -, operand, hoperand, rfl⟩ := h
      refine isStorable_of_children hspan rfl rfl ?_
      simp [children, hrequired hoperand]
    . contradiction
  . split at h
    . simp only [Option.bind_eq_bind, Option.bind_eq_some_iff, Option.pure_def, Option.some.injEq]
        at h
      obtain ⟨operand, hoperand, target, htarget, rfl⟩ := h
      have htarget := Json.Field.required_yields
        (Spanned.decoder_yields TypeName.decoder_yields) htarget
      exact isStorable_cast hspan htarget (hrequired hoperand)
    . contradiction
  . split at h
    . simp only [Option.bind_eq_bind, Option.bind_eq_some_iff, Option.pure_def, Option.some.injEq]
        at h
      obtain ⟨receiver, hreceiver, feature, -, args, hargs, rfl⟩ := h
      have hreceiver := Json.Field.optional_yields hpart hreceiver
      have hargs := Json.Field.listed_yields hpart hargs
      refine isStorable_of_children hspan rfl rfl ?_
      simpa [children, or_imp, forall_and] using ⟨hreceiver, hargs⟩
    . contradiction
  . obtain ⟨statements, hstatements, rfl⟩ := Option.map_eq_some_iff.mp h
    exact isStorable_of_children hspan rfl rfl (hpart.list n j statements hstatements)
  . split at h
    . simp only [Option.bind_eq_bind, Option.bind_eq_some_iff, Option.pure_def, Option.some.injEq]
        at h
      obtain ⟨condition, hcondition, thenBranch, hthen, elseBranch, helse, rfl⟩ := h
      refine isStorable_of_children hspan rfl rfl ?_
      have helse := Json.Field.nullable_yields hpart helse
      simpa [children, hrequired hcondition, hrequired hthen] using helse
    . contradiction
  . split at h
    . simp only [Option.bind_eq_bind, Option.bind_eq_some_iff, Option.pure_def, Option.some.injEq]
        at h
      obtain ⟨condition, hcondition, body, hbody, rfl⟩ := h
      refine isStorable_of_children hspan rfl rfl ?_
      simp [children, hrequired hcondition, hrequired hbody]
    . contradiction
  . split at h
    . simp only [Option.bind_eq_bind, Option.bind_eq_some_iff, Option.pure_def, Option.some.injEq]
        at h
      obtain ⟨body, hbody, condition, hcondition, rfl⟩ := h
      refine isStorable_of_children hspan rfl rfl ?_
      simp [children, hrequired hcondition, hrequired hbody]
    . contradiction
  . obtain ⟨value, hvalue, rfl⟩ := Option.map_eq_some_iff.mp h
    refine isStorable_of_children hspan rfl rfl ?_
    simpa [children] using hpart.option n j value hvalue
  . obtain ⟨value, hvalue, rfl⟩ := Option.map_eq_some_iff.mp h
    refine isStorable_of_children hspan rfl rfl ?_
    simp [children, hpart n j value hvalue]
  . split at h
    . simp only [Option.bind_eq_bind, Option.bind_eq_some_iff, Option.pure_def, Option.some.injEq]
        at h
      obtain ⟨body, hbody, handlers, hhandlers, finalizer, hfinalizer, rfl⟩ := h
      have hhandlers := Json.Field.required_yields hpart.list hhandlers
      have hfinalizer := Json.Field.nullable_yields hpart hfinalizer
      refine isStorable_of_children hspan rfl rfl ?_
      simpa [children, or_imp, forall_and, hrequired hbody] using ⟨hhandlers, hfinalizer⟩
    . contradiction
  . split at h
    . simp only [Option.bind_eq_bind, Option.bind_eq_some_iff, Option.pure_def, Option.some.injEq]
        at h
      obtain ⟨lock, hlock, body, hbody, rfl⟩ := h
      refine isStorable_of_children hspan rfl rfl ?_
      simp [children, hrequired hlock, hrequired hbody]
    . contradiction
  . obtain ⟨value, -, rfl⟩ := Option.map_eq_some_iff.mp h
    exact isStorable_leaf hspan rfl rfl rfl
  . contradiction

theorem nodeDecoder_yields (hpart : part.Yields IsStorable) (hspan : span.IsStorable)
    : (nodeDecoder part span).Yields IsStorable := by
  have hplain {name : String} {e : Expr} (h : plainNode? span name = some e) : e.IsStorable := by
    unfold plainNode? at h
    repeat' split at h
    all_goals cases h
    all_goals exact isStorable_leaf hspan rfl rfl rfl
  intro n j e h
  unfold nodeDecoder at h
  split at h
  . exact hplain h
  . split at h
    . next hnode _ =>
      cases h
      exact hplain hnode
    . exact nodeWith_yields hpart hspan _ _ _ _ h
  . contradiction

theorem decoderTo_yields (k : Nat) : (decoderTo k).Yields IsStorable := by
  induction k with
  | zero =>
    intro n j e h
    contradiction
  | succ k ih =>
    intro n j e h
    unfold decoderTo at h
    split at h
    . rw [Option.bind_eq_bind, Option.bind_eq_some_iff] at h
      obtain ⟨span, hspan, hnode⟩ := h
      have hspan := Json.Field.withDefault_yields Span.decoder_yields Span.isStorable_zero hspan
      exact Json.Field.required_yields (nodeDecoder_yields ih hspan) hnode
    . contradiction

theorem encodeAll_eq_map (es : List Expr) : encodeAll es = es.map encode := by
  induction es with
  | nil => rfl
  | cons e es ih => rw [encodeAll, ih, List.map_cons]

theorem depth_encode_le (h : e ∈ es) : e.encode.depth ≤ Json.depthOfAll (encodeAll es) := by
  apply Json.depth_le_depthOfAll
  rw [encodeAll_eq_map]
  exact List.mem_map_of_mem h

/-- Each level of expressions takes at least one level of nesting. -/
theorem depth_encode_lt {child : Expr} (h : child ∈ e.children)
    : child.encode.depth < e.encode.depth := by
  cases e with
  | call span receiver feature args =>
    simp only [children, List.mem_append, Option.mem_toList] at h
    rcases h with rfl | h
    . simp only [encode, Json.depth, Json.depthOfMembers]
      omega
    . have := depth_encode_le h
      cases receiver <;> simp only [encode, Json.depth, Json.depthOfMembers] <;> omega
  | block span statements =>
    have : child.encode.depth ≤ Json.depthOfAll (encodeAll statements) := depth_encode_le h
    simp only [encode, Json.depth, Json.depthOfMembers]
    omega
  | conditional span condition thenBranch elseBranch =>
    cases elseBranch <;>
      simp only [children, Option.toList_none, Option.toList_some, List.mem_cons, List.not_mem_nil,
        or_false] at h <;>
      rcases h with rfl | rfl | rfl <;>
      simp only [encode, Json.depth, Json.depthOfMembers] <;>
      omega
  | returnValue span value =>
    simp only [children, Option.mem_toList] at h
    subst h
    simp only [encode, Json.depth, Json.depthOfMembers]
    omega
  | tryCatch span body handlers finalizer =>
    simp only [children, List.cons_append, List.mem_cons, List.mem_append, Option.mem_toList] at h
    rcases h with rfl | h | rfl
    . cases finalizer <;> simp only [encode, Json.depth, Json.depthOfMembers] <;> omega
    . have := depth_encode_le h
      cases finalizer <;> simp only [encode, Json.depth, Json.depthOfMembers] <;> omega
    . simp only [encode, Json.depth, Json.depthOfMembers]
      omega
  | binary | negation | cast | throwValue | whileLoop | doWhileLoop | synchronized =>
    simp only [children, List.mem_cons, List.not_mem_nil, or_false] at h
    rcases h with rfl | rfl <;> simp only [encode, Json.depth, Json.depthOfMembers] <;> omega
  | _ => simp [children] at h

theorem encode_ne_null (e : Expr) : e.encode ≠ .null := by
  unfold encode
  nofun

section Reading

variable {content : Json} {n k : Nat}

/-- The decoder of the parts of a node is enough to read the node from its content. -/
def ReadsNode (part : Decoder Expr) (e : Expr) (name : String) (content : Json) : Prop :=
  ∀ n, content.depth ≤ n → nodeWith part e.span name n content = some e

theorem readsBack_of_nodeDecoder
    (henc : e.encode = .object [("node", content), ("span", e.span.encode)])
    (hspan : e.span.IsStorable)
    (hnode : ∀ n, content.depth ≤ n → nodeDecoder (decoderTo k) e.span n content = some e)
    : (decoderTo (k + 1)).ReadsBack encode e := by
  intro n hdepth
  obtain ⟨m, hrecord, hvalues⟩ := Decoder.exists_record hdepth ["node", "span"]
    [content, e.span.encode] henc (by decide) rfl
  have hnode := hnode m (hvalues _ (by simp))
  have hspan := Span.readsBack hspan m (hvalues _ (by simp))
  unfold decoderTo
  rw [hrecord]
  simp [hspan, hnode]

theorem readsBack_of_readsNode
    (henc : e.encode = .object [("node", .object [(name, content)]), ("span", e.span.encode)])
    (hname : name ≠ "Null" ∧ name ≠ "Break") (hspan : e.span.IsStorable)
    (hnode : ReadsNode (decoderTo k) e name content)
    : (decoderTo (k + 1)).ReadsBack encode e := by
  apply readsBack_of_nodeDecoder henc hspan
  intro n hdepth
  obtain ⟨m, rfl, hvalues⟩ := Json.exists_of_depth_object_le hdepth
  have hnode := hnode m (hvalues _ (by simp))
  simp only [nodeDecoder, Decoder.choice, plainNode?, hname.1, hname.2, if_false, hnode]

theorem readsNode_binary {left right : Expr} {op : BinaryOp} (hleft : part.ReadsBack encode left)
    (hright : part.ReadsBack encode right)
    : ReadsNode part (.binary span left op right) "Binary"
        (.object [("left", left.encode), ("op", op.encode), ("right", right.encode)]) := by
  intro n hdepth
  obtain ⟨m, hrecord, hvalues⟩ := Decoder.exists_record hdepth ["left", "op", "right"]
    [left.encode, op.encode, right.encode] rfl (by decide) rfl
  have hleft := hleft m (hvalues _ (by simp))
  have hop := op.readsBack m (hvalues _ (by simp))
  have hright := hright m (hvalues _ (by simp))
  unfold nodeWith
  simp [hrecord, hleft, hop, hright, Expr.span]

theorem readsNode_negation {operand : Expr} (hoperand : part.ReadsBack encode operand)
    : ReadsNode part (.negation span operand) "Unary"
        (.object [("op", .string "Neg"), ("expr", operand.encode)]) := by
  intro n hdepth
  obtain ⟨m, hrecord, hvalues⟩ := Decoder.exists_record hdepth ["op", "expr"]
    [.string "Neg", operand.encode] rfl (by decide) rfl
  have hop : negationDecoder m (.string "Neg") = some () := rfl
  have hoperand := hoperand m (hvalues _ (by simp))
  unfold nodeWith
  simp [hrecord, hop, hoperand, Expr.span]

theorem readsNode_cast {operand : Expr} {target : Spanned TypeName}
    (hoperand : part.ReadsBack encode operand)
    (htarget : target.node.IsNamed ∧ target.span.IsStorable)
    : ReadsNode part (.cast span operand target) "Cast"
        (.object [("expr", operand.encode), ("target", target.encode TypeName.encode)]) := by
  intro n hdepth
  obtain ⟨m, hrecord, hvalues⟩ := Decoder.exists_record hdepth ["expr", "target"]
    [operand.encode, target.encode TypeName.encode] rfl (by decide) rfl
  have hoperand := hoperand m (hvalues _ (by simp))
  have htarget := TypeName.spanned_readsBack htarget m (hvalues _ (by simp))
  unfold nodeWith
  simp [hrecord, hoperand, htarget, Expr.span]

theorem readsNode_call {receiver : Option Expr} {feature : FeatureSlot}
    (hreceiver : ∀ e ∈ receiver, part.ReadsBack encode e)
    (hargs : ∀ e ∈ es, part.ReadsBack encode e)
    : ReadsNode part (.call span receiver feature es) "FeatureCall"
        (.object [("receiver", .ofOption encode receiver), ("feature", feature.encode),
          ("args", .array (es.map encode))]) := by
  intro n hdepth
  obtain ⟨m, hrecord, hvalues⟩ := Decoder.exists_record hdepth ["receiver", "feature", "args"]
    [.ofOption encode receiver, feature.encode, .array (es.map encode)] rfl (by decide) rfl
  have hreceiver := Decoder.readsBack_option hreceiver (fun e _ => e.encode_ne_null) m
    (hvalues _ (by simp))
  have hfeature := feature.readsBack m (hvalues _ (by simp))
  have hargs := Decoder.readsBack_list hargs m (hvalues _ (by simp))
  unfold nodeWith
  simp [hrecord, hreceiver, hfeature, hargs, Expr.span]

theorem readsNode_conditional {condition thenBranch : Expr} {elseBranch : Option Expr}
    (hcondition : part.ReadsBack encode condition) (hthen : part.ReadsBack encode thenBranch)
    (helse : ∀ e ∈ elseBranch, part.ReadsBack encode e)
    : ReadsNode part (.conditional span condition thenBranch elseBranch) "If"
        (.object [("cond", condition.encode), ("then_branch", thenBranch.encode),
          ("else_branch", .ofOption encode elseBranch)]) := by
  intro n hdepth
  obtain ⟨m, hrecord, hvalues⟩ := Decoder.exists_record hdepth
    ["cond", "then_branch", "else_branch"]
    [condition.encode, thenBranch.encode, .ofOption encode elseBranch] rfl (by decide) rfl
  have hcondition := hcondition m (hvalues _ (by simp))
  have hthen := hthen m (hvalues _ (by simp))
  have helse := Decoder.readsBack_option helse (fun e _ => e.encode_ne_null) m
    (hvalues _ (by simp))
  unfold nodeWith
  simp [hrecord, hcondition, hthen, helse, Expr.span]

theorem readsNode_tryCatch {body : Expr} {finalizer : Option Expr}
    (hbody : part.ReadsBack encode body) (hhandlers : ∀ e ∈ es, part.ReadsBack encode e)
    (hfinalizer : ∀ e ∈ finalizer, part.ReadsBack encode e)
    : ReadsNode part (.tryCatch span body es finalizer) "TryCatch"
        (.object [("body", body.encode), ("catches", .array (es.map encode)),
          ("finally", .ofOption encode finalizer)]) := by
  intro n hdepth
  obtain ⟨m, hrecord, hvalues⟩ := Decoder.exists_record hdepth ["body", "catches", "finally"]
    [body.encode, .array (es.map encode), .ofOption encode finalizer] rfl (by decide) rfl
  have hbody := hbody m (hvalues _ (by simp))
  have hhandlers := Decoder.readsBack_list hhandlers m (hvalues _ (by simp))
  have hfinalizer := Decoder.readsBack_option hfinalizer (fun e _ => e.encode_ne_null) m
    (hvalues _ (by simp))
  unfold nodeWith
  simp [hrecord, hbody, hhandlers, hfinalizer, Expr.span]

section Pair

variable {first second : Expr}

theorem exists_record_pair (hfirst : part.ReadsBack encode first)
    (hsecond : part.ReadsBack encode second) {key key' : String} (hkeys : key ≠ key')
    (hdepth : (Json.object [(key, first.encode), (key', second.encode)]).depth ≤ n)
    : ∃ m, Decoder.record [key, key'] n (.object [(key, first.encode), (key', second.encode)]) =
          some (m, [.given first.encode, .given second.encode]) ∧
        part m first.encode = some first ∧ part m second.encode = some second := by
  obtain ⟨m, hrecord, hvalues⟩ := Decoder.exists_record hdepth [key, key']
    [first.encode, second.encode] rfl (by simpa using hkeys) rfl
  refine ⟨m, hrecord, hfirst m (hvalues _ (by simp)), hsecond m (hvalues _ (by simp))⟩

theorem readsNode_whileLoop (hfirst : part.ReadsBack encode first)
    (hsecond : part.ReadsBack encode second)
    : ReadsNode part (.whileLoop span first second) "While"
        (.object [("cond", first.encode), ("body", second.encode)]) := by
  intro n hdepth
  obtain ⟨m, hrecord, hfirst, hsecond⟩ := exists_record_pair hfirst hsecond (by decide) hdepth
  unfold nodeWith
  simp [hrecord, hfirst, hsecond, Expr.span]

theorem readsNode_doWhileLoop (hfirst : part.ReadsBack encode first)
    (hsecond : part.ReadsBack encode second)
    : ReadsNode part (.doWhileLoop span first second) "DoWhile"
        (.object [("body", first.encode), ("cond", second.encode)]) := by
  intro n hdepth
  obtain ⟨m, hrecord, hfirst, hsecond⟩ := exists_record_pair hfirst hsecond (by decide) hdepth
  unfold nodeWith
  simp [hrecord, hfirst, hsecond, Expr.span]

theorem readsNode_synchronized (hfirst : part.ReadsBack encode first)
    (hsecond : part.ReadsBack encode second)
    : ReadsNode part (.synchronized span first second) "Synchronized"
        (.object [("lock", first.encode), ("body", second.encode)]) := by
  intro n hdepth
  obtain ⟨m, hrecord, hfirst, hsecond⟩ := exists_record_pair hfirst hsecond (by decide) hdepth
  unfold nodeWith
  simp [hrecord, hfirst, hsecond, Expr.span]

end Pair

section Optional

variable {first second : Expr} {optional : Option Expr}

theorem encode_call {feature : FeatureSlot}
    : (call span optional feature es).encode =
        .object [("node", .object [("FeatureCall", .object
          [("receiver", .ofOption encode optional), ("feature", feature.encode),
            ("args", .array (es.map encode))])]), ("span", span.encode)] := by
  cases optional <;> simp only [encode, encodeAll_eq_map] <;> rfl

theorem encode_conditional
    : (conditional span first second optional).encode =
        .object [("node", .object [("If", .object
          [("cond", first.encode), ("then_branch", second.encode),
            ("else_branch", .ofOption encode optional)])]), ("span", span.encode)] := by
  cases optional <;> rfl

theorem encode_returnValue
    : (returnValue span optional).encode =
        .object [("node", .object [("Return", .ofOption encode optional)]),
          ("span", span.encode)] := by
  cases optional <;> rfl

theorem encode_tryCatch
    : (tryCatch span first es optional).encode =
        .object [("node", .object [("TryCatch", .object
          [("body", first.encode), ("catches", .array (es.map encode)),
            ("finally", .ofOption encode optional)])]), ("span", span.encode)] := by
  cases optional <;> simp only [encode, encodeAll_eq_map] <;> rfl

theorem encode_block
    : (block span es).encode =
        .object [("node", .object [("Block", .array (es.map encode))]),
          ("span", span.encode)] := by
  simp only [encode, encodeAll_eq_map]
  rfl

end Optional

theorem decoderTo_succ_readsBack (hdata : e.HasStorableData)
    (hpart : ∀ child ∈ e.children, (decoderTo k).ReadsBack encode child)
    : (decoderTo (k + 1)).ReadsBack encode e := by
  have hspan := hdata.span
  cases e with
  | null | breakLoop =>
    apply readsBack_of_nodeDecoder rfl hspan
    intro n _
    rfl
  | intLit span value =>
    apply readsBack_of_readsNode rfl (by decide) hspan
    intro n hn
    exact congrArg (Option.map (intLit span)) (Decoder.int64_readsBack value n hn)
  | floatLit span value =>
    apply readsBack_of_readsNode rfl (by decide) hspan
    intro n hn
    exact congrArg (Option.map (floatLit span))
      (Decoder.binary64_readsBack (hdata.value value rfl) n hn)
  | boolLit | stringLit | var | unmodelled =>
    apply readsBack_of_readsNode rfl (by decide) hspan
    intro n _
    rfl
  | binary span left op right =>
    apply readsBack_of_readsNode rfl (by decide) hspan
    apply readsNode_binary
    . exact hpart left (by simp [children])
    . exact hpart right (by simp [children])
  | negation span operand =>
    apply readsBack_of_readsNode rfl (by decide) hspan
    apply readsNode_negation
    exact hpart operand (by simp [children])
  | cast span operand target =>
    apply readsBack_of_readsNode rfl (by decide) hspan
    apply readsNode_cast
    . exact hpart operand (by simp [children])
    . exact hdata.target target rfl
  | call span receiver feature args =>
    apply readsBack_of_readsNode encode_call (by decide) hspan
    apply readsNode_call
    . intro e he
      exact hpart e (by simp [children, Option.mem_def.mp he])
    . intro e he
      exact hpart e (by simp [children, he])
  | block span statements =>
    apply readsBack_of_readsNode encode_block (by decide) hspan
    intro n hn
    exact congrArg (Option.map (block span)) (Decoder.readsBack_list hpart n hn)
  | conditional span condition thenBranch elseBranch =>
    apply readsBack_of_readsNode encode_conditional (by decide) hspan
    apply readsNode_conditional
    . exact hpart condition (by simp [children])
    . exact hpart thenBranch (by simp [children])
    . intro e he
      exact hpart e (by simp [children, Option.mem_def.mp he])
  | whileLoop span condition body =>
    apply readsBack_of_readsNode rfl (by decide) hspan
    apply readsNode_whileLoop
    . exact hpart condition (by simp [children])
    . exact hpart body (by simp [children])
  | doWhileLoop span body condition =>
    apply readsBack_of_readsNode rfl (by decide) hspan
    apply readsNode_doWhileLoop
    . exact hpart body (by simp [children])
    . exact hpart condition (by simp [children])
  | returnValue span value =>
    apply readsBack_of_readsNode encode_returnValue (by decide) hspan
    intro n hn
    have hvalue : ∀ e ∈ value, (decoderTo k).ReadsBack encode e := by
      intro e he
      exact hpart e (by simp [children, Option.mem_def.mp he])
    have := Decoder.readsBack_option hvalue (fun e _ => e.encode_ne_null) n hn
    exact congrArg (Option.map (returnValue span)) this
  | throwValue span value =>
    apply readsBack_of_readsNode rfl (by decide) hspan
    intro n hn
    have := hpart value (by simp [children]) n hn
    exact congrArg (Option.map (throwValue span)) this
  | tryCatch span body handlers finalizer =>
    apply readsBack_of_readsNode encode_tryCatch (by decide) hspan
    apply readsNode_tryCatch
    . exact hpart body (by simp [children])
    . intro e he
      exact hpart e (by simp [children, he])
    . intro e he
      exact hpart e (by simp [children, Option.mem_def.mp he])
  | synchronized span lock body =>
    apply readsBack_of_readsNode rfl (by decide) hspan
    apply readsNode_synchronized
    . exact hpart lock (by simp [children])
    . exact hpart body (by simp [children])

theorem decoderTo_readsBack (h : e.IsStorable) (hdepth : e.encode.depth ≤ k)
    : (decoderTo k).ReadsBack encode e := by
  induction e using induction_children generalizing k with
  | step e ih =>
    cases k with
    | zero =>
      unfold encode at hdepth
      contradiction
    | succ k =>
      obtain ⟨hdata, hchildren⟩ := isStorable_iff.mp h
      apply decoderTo_succ_readsBack hdata
      intro child hchild
      have := depth_encode_lt hchild
      exact ih child hchild (hchildren child hchild) (by omega)

theorem readsBack (h : e.IsStorable) : decoder.ReadsBack encode e := by
  intro n hdepth
  exact decoderTo_readsBack h hdepth n hdepth

theorem decoder_yields : decoder.Yields IsStorable := by
  intro n
  exact decoderTo_yields n n

end Reading

end Expr

end OperatorLowering
