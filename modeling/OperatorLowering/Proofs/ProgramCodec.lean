import OperatorLowering.Program.Codec
import OperatorLowering.Proofs.ExprCodec

/-!
Compilation units as JSON values. The units that can be read are those whose spans fit into words
and whose type names stand for their types. A unit that was read is read back from what it is
written as, whatever was left out or spelt differently in the value it was read from.
-/

namespace OperatorLowering

theorem Decoder.string_readsBack (s : String) : string.ReadsBack .string s := by
  intro n _
  rfl

namespace Param

structure IsStorable (p : Param) : Prop where
  name : p.name.span.IsStorable
  type : p.type.node.IsNamed ∧ p.type.span.IsStorable

theorem decoder_yields : decoder.Yields IsStorable := by
  intro n j p h
  unfold decoder at h
  split at h
  . simp only [Option.bind_eq_bind, Option.bind_eq_some_iff, Option.pure_def, Option.some.injEq]
      at h
    obtain ⟨name, hname, type, htype, nonNull, -, rfl⟩ := h
    constructor
    . exact Json.Field.required_yields Spanned.span_yields hname
    . exact Json.Field.required_yields (Spanned.decoder_yields TypeName.decoder_yields) htype
  . contradiction

theorem readsBack {p : Param} (h : p.IsStorable) : decoder.ReadsBack encode p := by
  intro n hdepth
  obtain ⟨m, hrecord, hvalues⟩ := Decoder.exists_record hdepth ["name", "ty", "non_null"]
    [p.name.encode .string, p.type.encode TypeName.encode, .bool p.nonNull] rfl (by decide) rfl
  have hname := Spanned.readsBack (Decoder.string_readsBack _) h.name m (hvalues _ (by simp))
  have htype := TypeName.spanned_readsBack h.type m (hvalues _ (by simp))
  have hnonNull : Decoder.bool m (.bool p.nonNull) = some p.nonNull := rfl
  unfold decoder
  rw [hrecord]
  simp [hname, htype, hnonNull]

end Param

namespace FeatureDecl

def IsStorable (d : FeatureDecl) : Prop := d.resultType.IsNamed

theorem decoder_yields : decoder.Yields IsStorable := by
  intro n j d h
  unfold decoder at h
  split at h
  . simp only [Option.bind_eq_bind, Option.bind_eq_some_iff, Option.pure_def, Option.some.injEq]
      at h
    obtain ⟨id, -, resultType, htype, rfl⟩ := h
    exact Json.Field.required_yields TypeName.decoder_yields htype
  . contradiction

theorem readsBack {d : FeatureDecl} (h : d.IsStorable) : decoder.ReadsBack encode d := by
  intro n hdepth
  obtain ⟨m, hrecord, hvalues⟩ := Decoder.exists_record hdepth ["id", "ret_ty"]
    [d.id.encode, d.resultType.encode] rfl (by decide) rfl
  have hid : CallableId.decoder m d.id.encode = some d.id := rfl
  have htype := TypeName.readsBack h m (hvalues _ (by simp))
  unfold decoder
  rw [hrecord]
  simp [hid, htype]

end FeatureDecl

namespace Behavior

structure IsStorable (b : Behavior) : Prop where
  event : b.event.node.IsNamed ∧ b.event.span.IsStorable
  guard : ∀ guard ∈ b.guard, guard.IsStorable
  body : b.body.IsStorable
  span : b.span.IsStorable

theorem decoder_yields : decoder.Yields IsStorable := by
  intro n j b h
  unfold decoder at h
  split at h
  . simp only [Option.bind_eq_bind, Option.bind_eq_some_iff, Option.pure_def, Option.some.injEq]
      at h
    obtain ⟨event, hevent, guard, hguard, body, hbody, span, hspan, rfl⟩ := h
    constructor
    . exact Json.Field.required_yields (Spanned.decoder_yields TypeName.decoder_yields) hevent
    . exact Json.Field.optional_yields Expr.decoder_yields hguard
    . exact Json.Field.required_yields Expr.decoder_yields hbody
    . exact Json.Field.withDefault_yields Span.decoder_yields Span.isStorable_zero hspan
  . contradiction

theorem readsBack {b : Behavior} (h : b.IsStorable) : decoder.ReadsBack encode b := by
  intro n hdepth
  obtain ⟨m, hrecord, hvalues⟩ := Decoder.exists_record hdepth ["event", "guard", "body", "span"]
    [b.event.encode TypeName.encode, .ofOption Expr.encode b.guard, b.body.encode, b.span.encode]
    rfl (by decide) rfl
  have hguard := Decoder.readsBack_option (fun e he => Expr.readsBack (h.guard e he))
    (fun e _ => e.encode_ne_null)
  have hevent := TypeName.spanned_readsBack h.event m (hvalues _ (by simp))
  have hguard := hguard m (hvalues _ (by simp))
  have hbody := Expr.readsBack h.body m (hvalues _ (by simp))
  have hspan := Span.readsBack h.span m (hvalues _ (by simp))
  unfold decoder
  rw [hrecord]
  simp [hevent, hguard, hbody, hspan]

end Behavior

namespace Action

structure IsStorable (a : Action) : Prop where
  name : a.name.span.IsStorable
  params : ∀ param ∈ a.params, param.IsStorable
  resultType : ∀ type ∈ a.resultType, type.node.IsNamed ∧ type.span.IsStorable
  body : a.body.IsStorable
  span : a.span.IsStorable

theorem decoder_yields : decoder.Yields IsStorable := by
  intro n j a h
  unfold decoder at h
  split at h
  . simp only [Option.bind_eq_bind, Option.bind_eq_some_iff, Option.pure_def, Option.some.injEq]
      at h
    obtain ⟨name, hname, params, hparams, resultType, htype, body, hbody, span, hspan, rfl⟩ := h
    constructor
    . exact Json.Field.required_yields Spanned.span_yields hname
    . exact Json.Field.listed_yields Param.decoder_yields hparams
    . exact Json.Field.optional_yields (Spanned.decoder_yields TypeName.decoder_yields) htype
    . exact Json.Field.required_yields Expr.decoder_yields hbody
    . exact Json.Field.withDefault_yields Span.decoder_yields Span.isStorable_zero hspan
  . contradiction

theorem readsBack {a : Action} (h : a.IsStorable) : decoder.ReadsBack encode a := by
  intro n hdepth
  obtain ⟨m, hrecord, hvalues⟩ := Decoder.exists_record hdepth
    ["name", "params", "ret_ty", "body", "span"]
    [a.name.encode .string, .array (a.params.map Param.encode),
      .ofOption (Spanned.encode TypeName.encode) a.resultType, a.body.encode, a.span.encode]
    rfl (by decide) rfl
  have hparams := Decoder.readsBack_list fun param hparam => Param.readsBack (h.params param hparam)
  have htype := Decoder.readsBack_option
    (fun type htype => TypeName.spanned_readsBack (h.resultType type htype)) nofun
  have hname := Spanned.readsBack (Decoder.string_readsBack _) h.name m (hvalues _ (by simp))
  have hparams := hparams m (hvalues _ (by simp))
  have htype := htype m (hvalues _ (by simp))
  have hbody := Expr.readsBack h.body m (hvalues _ (by simp))
  have hspan := Span.readsBack h.span m (hvalues _ (by simp))
  unfold decoder
  rw [hrecord]
  simp [hname, hparams, htype, hbody, hspan]

end Action

namespace Item

def IsStorable : Item → Prop
  | behavior b => b.IsStorable
  | action a => a.IsStorable

theorem decoder_yields : decoder.Yields IsStorable := by
  intro n j item h
  unfold decoder at h
  split at h
  . obtain ⟨b, hb, rfl⟩ := Option.map_eq_some_iff.mp h
    exact Behavior.decoder_yields _ _ b hb
  . obtain ⟨a, ha, rfl⟩ := Option.map_eq_some_iff.mp h
    exact Action.decoder_yields _ _ a ha
  . contradiction

theorem readsBack {item : Item} (h : item.IsStorable) : decoder.ReadsBack encode item := by
  intro n hdepth
  cases item with
  | behavior b =>
    obtain ⟨m, rfl, hmembers⟩ := Json.exists_of_depth_object_le hdepth
    exact congrArg (Option.map behavior) (Behavior.readsBack h m (hmembers _ (by simp)))
  | action a =>
    obtain ⟨m, rfl, hmembers⟩ := Json.exists_of_depth_object_le hdepth
    exact congrArg (Option.map action) (Action.readsBack h m (hmembers _ (by simp)))

end Item

namespace Program

/-- All that the unit holds can be written: its spans, its types and its literals. -/
structure IsStorable (p : Program) : Prop where
  items : ∀ item ∈ p.items, item.IsStorable
  features : ∀ feature ∈ p.features, feature.IsStorable

theorem decoder_yields : decoder.Yields IsStorable := by
  intro n j p h
  unfold decoder at h
  split at h
  . simp only [Option.bind_eq_bind, Option.bind_eq_some_iff, Option.pure_def, Option.some.injEq]
      at h
    obtain ⟨items, hitems, features, hfeatures, rfl⟩ := h
    constructor
    . exact Json.Field.required_yields Item.decoder_yields.list hitems
    . exact Json.Field.listed_yields FeatureDecl.decoder_yields hfeatures
  . contradiction

theorem readsBack {p : Program} (h : p.IsStorable) : decoder.ReadsBack encode p := by
  intro n hdepth
  obtain ⟨m, hrecord, hvalues⟩ := Decoder.exists_record hdepth ["items", "features"]
    [.array (p.items.map Item.encode), .array (p.features.map FeatureDecl.encode)]
    rfl (by decide) rfl
  have hitems := Decoder.readsBack_list fun item hitem => Item.readsBack (h.items item hitem)
  have hfeatures := Decoder.readsBack_list
    fun feature hfeature => FeatureDecl.readsBack (h.features feature hfeature)
  have hitems := hitems m (hvalues _ (by simp))
  have hfeatures := hfeatures m (hvalues _ (by simp))
  unfold decoder
  rw [hrecord]
  simp [hitems, hfeatures]

end Program

/-- A known type is written with the last segment of any name that stands for it. -/
theorem TypeName.text_ofName {name : String} (h : ofName name ≠ .named name)
    : (ofName name).text = Text.lastSegment name := by
  have hnames : ∀ t ∈ NumericType.all, ∀ name ∈ t.names, t.name = Text.lastSegment name := by
    decide +kernel
  unfold ofName at h ⊢
  split at h
  . next t hname =>
    exact hnames t t.mem_all name (NumericType.mem_names_of_ofName? hname)
  . simp only [beq_iff_eq, Bool.or_eq_true] at h ⊢
    split
    . next hname =>
      subst hname
      decide
    . split
      . next hname => rcases hname with rfl | rfl <;> decide
      . split
        . next hname => rcases hname with rfl | rfl <;> decide
        . split
          . next hname =>
            subst hname
            decide
          . simp_all

/--
A tree that was read is read back from what it is written as, by any allowance that covers its
nesting. Only spans that do not fit into words, types without a name and literals that are not
finite keep a tree from being read, and a qualified name of a known type is replaced by its last
segment once.
-/
theorem decoded_trees_are_read_back
    : (∀ n j (p : Program), Program.decoder n j = some p →
        ∀ m, p.encode.depth ≤ m →
          Program.decoder m p.encode = some p ∧
          (Program.decoder m p.encode).map Program.encode = some p.encode) ∧
      (∀ n j (e : Expr), Expr.decoder n j = some e →
        ∀ m, e.encode.depth ≤ m →
          Expr.decoder m e.encode = some e ∧
          (Expr.decoder m e.encode).map Expr.encode = some e.encode) ∧
      (∀ p : Program, (∃ n j, Program.decoder n j = some p) ↔ p.IsStorable) ∧
      (∀ e : Expr, (∃ n j, Expr.decoder n j = some e) ↔ e.IsStorable) ∧
      ∀ name, TypeName.ofName (TypeName.ofName name).text = .ofName name ∧
        (TypeName.ofName name ≠ .named name →
          (TypeName.ofName name).text = Text.lastSegment name) := by
  refine ⟨?_, ?_, ?_, ?_, ?_⟩
  . intro n j p h m hdepth
    have hread := Program.readsBack (Program.decoder_yields n j p h) m hdepth
    rw [hread]
    exact ⟨rfl, rfl⟩
  . intro n j e h m hdepth
    have hread := Expr.readsBack (Expr.decoder_yields n j e h) m hdepth
    rw [hread]
    exact ⟨rfl, rfl⟩
  . intro p
    constructor
    . rintro ⟨n, j, h⟩
      exact Program.decoder_yields n j p h
    . intro h
      exact ⟨_, _, Program.readsBack h _ (Nat.le_refl _)⟩
  . intro e
    constructor
    . rintro ⟨n, j, h⟩
      exact Expr.decoder_yields n j e h
    . intro h
      exact ⟨_, _, Expr.readsBack h _ (Nat.le_refl _)⟩
  . intro name
    exact ⟨TypeName.ofName_text ⟨name, rfl⟩, TypeName.text_ofName⟩

/-- A parameter as an array, a qualified type, and all that may be left out of the rest. -/
theorem action_with_omitted_fields_is_read_back
    : let j : Json := .object [("items", .array [.object [("Action", .object [
        ("name", .object [("node", .string "twice")]),
        ("params", .array [.array [.object [("node", .string "x")],
          .object [("node", .string "java.lang.Integer")]]]),
        ("body", .object [("node", .object [("FeatureCall", .object [
          ("feature", .object [("Proxy", .string "log")])])])])])]])]
      let p : Program := ⟨[.action ⟨⟨"twice", .zero⟩,
        [⟨⟨"x", .zero⟩, ⟨.numeric (.boxed .int), .zero⟩, false⟩], none,
        .call .zero none (.proxy "log") [], .zero⟩], []⟩
      Program.decoder 8 j = some p ∧ p.encode.depth = 8 ∧
        Program.decoder 8 p.encode = some p := by
  intro j p
  have hread : Program.decoder 8 j = some p := by rfl
  have hdepth : p.encode.depth = 8 := by rfl
  refine ⟨hread, hdepth, ?_⟩
  exact (decoded_trees_are_read_back.1 8 j p hread 8 (Nat.le_of_eq hdepth)).1

end OperatorLowering
