import OperatorLowering.Proofs.Promotion
import OperatorLowering.Proofs.Resolution

/-!
Templates of lowered expressions. What is written for a lowering is a fixed sequence of texts with
places for the sources of the operands: one place for each operand, and one more for each test of it
against null.
-/

namespace OperatorLowering

/-- A part of a template: a text as it stands, or the place of the source of an operand. -/
inductive Piece where
  | text (s : String)
  | hole (side : Side)
  deriving Repr, DecidableEq, Inhabited

def Piece.fill (left right : String) : Piece → String
  | text s => s
  | hole .left => left
  | hole .right => right

abbrev Template := List Piece

namespace Template

/-- The template with the sources of the operands in their places. -/
def fill (left right : String) (t : Template) : String :=
  String.join (t.map (Piece.fill left right))

def holes (side : Side) (t : Template) : Nat := t.count (.hole side)

variable {left right : String} {side : Side} {t u : Template}

@[simp]
theorem fill_nil : fill left right [] = "" := rfl

@[simp]
theorem fill_cons (piece : Piece)
    : fill left right (piece :: t) = piece.fill left right ++ fill left right t :=
  String.join_cons

@[simp]
theorem fill_append : fill left right (t ++ u) = fill left right t ++ fill left right u := by
  unfold fill
  rw [List.map_append, String.join_append]

@[simp]
theorem holes_nil : holes side [] = 0 := rfl

@[simp]
theorem holes_text (s : String) : holes side (.text s :: t) = holes side t := by
  simp [holes]

@[simp]
theorem holes_append : holes side (t ++ u) = holes side t + holes side u := List.count_append

end Template

namespace Step

/-- The texts that a step writes before and after what it is applied to. -/
def around : Step → String × String
  | value p => ("", s!".{p.accessor}()")
  | narrow p => (s!"(({p.name}) ", ")")
  | valueOf t => (s!"{t.name}.valueOf(", ")")
  | newInstance t => (s!"new {t.name}(", ")")
  | toBigInteger => ("", ".toBigInteger()")
  | objectToString => ("", ".toString()")
  | staticToString p => (s!"{(NumericType.boxed p).name}.toString(", ")")

theorem apply_eq (step : Step) (source : String)
    : step.apply source = step.around.1 ++ source ++ step.around.2 := by
  cases step <;> simp [apply, around, toString, String.append_assoc]

def template (step : Step) (source : Template) : Template :=
  .text step.around.1 :: source ++ [.text step.around.2]

end Step

namespace Chain

def template (chain : Chain) (side : Side) : Template :=
  chain.foldl (fun t step => step.template t) [.hole side]

variable {left right : String}

theorem fill_foldl_template (chain : Chain) (t : Template)
    : Template.fill left right (chain.foldl (fun t step => step.template t) t) =
        apply chain (t.fill left right) := by
  unfold apply
  induction chain generalizing t with
  | nil => rfl
  | cons step chain ih =>
    rw [List.foldl_cons, ih, List.foldl_cons, Step.apply_eq]
    simp [Step.template, Piece.fill, String.append_assoc]

theorem holes_foldl_template (chain : Chain) (t : Template) (side : Side)
    : Template.holes side (chain.foldl (fun t step => step.template t) t) = t.holes side := by
  induction chain generalizing t with
  | nil => rfl
  | cons step chain ih =>
    rw [List.foldl_cons, ih]
    simp [Step.template]

theorem fill_template (chain : Chain) (side : Side)
    : (template chain side).fill left right = apply chain ((Piece.hole side).fill left right) := by
  unfold template
  rw [fill_foldl_template]
  simp

theorem holes_template (chain : Chain) (side side' : Side)
    : (template chain side').holes side = if side = side' then 1 else 0 := by
  unfold template
  rw [holes_foldl_template]
  cases side <;> cases side' <;> rfl

end Chain

namespace Shape

def isBinary : Shape → Bool
  | arithmetic _ | power | bigMethod _ _ => true
  | negate | conversion | nothing => false

/-- The template of the construct over those of its operands. -/
def template? (shape : Shape) (left : Template) (right : Option Template) : Option Template :=
  match shape, right with
  | arithmetic op, some right => some (left ++ .text s!" {op.text} " :: right)
  | negate, _ => some (.text "-(" :: left ++ [.text ")"])
  | power, some right => some (.text "Math.pow(" :: left ++ .text ", " :: right ++ [.text ")"])
  | bigMethod op t, some right =>
    (op.bigMethod? t).map fun (method, extra) =>
      left ++ .text s!".{method}(" :: right ++ [.text s!"{extra})"]
  | conversion, _ => some left
  | _, _ => none

theorem core?_fill (shape : Shape) (t : Template) (u : Option Template) (left right : String)
    : shape.core? (t.fill left right) (u.map (Template.fill left right)) =
        (shape.template? t u).map (Template.fill left right) := by
  cases shape with
  | bigMethod op type =>
    cases u with
    | none => rfl
    | some u =>
      simp only [core?, template?, Option.map_some, Option.map_map]
      apply congrArg (Option.map · _)
      funext method
      simp [Piece.fill, toString, String.append_assoc]
  | _ => cases u <;> simp [core?, template?, Piece.fill, toString, String.append_assoc]

theorem isSome_of_template? {shape : Shape} {t core : Template} {u : Option Template}
    (h : shape.template? t u = some core) (hbinary : shape.isBinary = true)
    : u.isSome = true := by
  cases u with
  | some u => rfl
  | none => cases shape <;> contradiction

theorem isSome_template? {shape : Shape} (t : Template) {u : Option Template}
    (hu : shape.isBinary = true → u.isSome = true)
    (hmethod : ∀ op type, shape = .bigMethod op type → op ≠ .pow) (h : shape ≠ .nothing)
    : (shape.template? t u).isSome = true := by
  cases shape with
  | arithmetic op | power =>
    obtain ⟨u, rfl⟩ := Option.isSome_iff_exists.mp (hu rfl)
    rfl
  | bigMethod op type =>
    obtain ⟨u, rfl⟩ := Option.isSome_iff_exists.mp (hu rfl)
    cases op with
    | pow => exact absurd rfl (hmethod .pow type rfl)
    | _ => rfl
  | negate | conversion => rfl
  | nothing => contradiction

theorem holes_template? {shape : Shape} {t core : Template} {u : Option Template}
    (h : shape.template? t u = some core) (side : Side)
    : core.holes side =
        t.holes side + if shape.isBinary then (u.map (Template.holes side)).getD 0 else 0 := by
  cases shape with
  | bigMethod op type =>
    cases u with
    | none => contradiction
    | some u =>
      obtain ⟨method, -, rfl⟩ := Option.map_eq_some_iff.mp h
      simp [isBinary]
  | nothing => cases u <;> contradiction
  | _ => cases u <;> cases h <;> simp [isBinary]

end Shape

namespace Lowering

/-- The tests of the guarded operands against null. -/
def guardTemplate (guards : List Side) : Template :=
  [.text " || "].intercalate (guards.map fun side => [.hole side, .text " == null"])

/-- The template of the whole expression around that of its construct. -/
def enclose (l : Lowering) (core : Template) : Template :=
  if l.guards.isEmpty then
    if l.shape.needsParentheses then .text "(" :: core ++ [.text ")"] else core
  else
    .text "(" :: guardTemplate l.guards ++ .text s!" ? {l.defaultValue} : " :: core ++ [.text ")"]

/-- The template of a lowering, if there is anything to write. -/
def template? (l : Lowering) : Option Template :=
  (l.shape.template? (Chain.template l.left .left) (l.right.map (Chain.template · .right))).map
    l.enclose

theorem guardTemplate_cons_cons (guard next : Side) (guards : List Side)
    : guardTemplate (guard :: next :: guards) =
        [.hole guard, .text " == null"] ++ [.text " || "] ++ guardTemplate (next :: guards) :=
  List.intercalate_cons_cons

theorem fill_guardTemplate (guards : List Side) (left : String) (right : Option String)
    : (guardTemplate guards).fill left (right.getD "") =
        " || ".intercalate (guards.map (guardText left right)) := by
  induction guards with
  | nil => rfl
  | cons guard guards ih =>
    have hguard : Template.fill left (right.getD "") [.hole guard, .text " == null"] =
        guardText left right guard := by
      cases guard <;> simp [Piece.fill, guardText]
    cases guards with
    | nil => simpa [guardTemplate] using hguard
    | cons next guards =>
      rw [guardTemplate_cons_cons, Template.fill_append, Template.fill_append, ih, hguard]
      simp [Piece.fill, String.intercalate_cons_cons]

theorem holes_guardTemplate (guards : List Side) (side : Side)
    : (guardTemplate guards).holes side = guards.count side := by
  induction guards with
  | nil => rfl
  | cons guard guards ih =>
    have hguard : Template.holes side [.hole guard, .text " == null"] = [guard].count side := by
      cases guard <;> cases side <;> rfl
    cases guards with
    | nil => simpa [guardTemplate] using hguard
    | cons next guards =>
      rw [guardTemplate_cons_cons, Template.holes_append, Template.holes_append, ih, hguard]
      exact List.count_append.symm

/-- The text of the whole expression around that of its construct. -/
def encloseText (l : Lowering) (left : String) (right : Option String) (core : String) : String :=
  if l.guards.isEmpty then
    if l.shape.needsParentheses then s!"({core})" else core
  else
    let test := " || ".intercalate (l.guards.map (guardText left right))
    s!"({test} ? {l.defaultValue} : {core})"

theorem fill_enclose (l : Lowering) (core : Template) (left : String) (right : Option String)
    : (l.enclose core).fill left (right.getD "") =
        l.encloseText left right (core.fill left (right.getD "")) := by
  unfold enclose encloseText
  split
  . split <;> simp [Piece.fill, toString, String.append_assoc]
  . simp [Piece.fill, toString, String.append_assoc, fill_guardTemplate]

theorem holes_enclose (l : Lowering) (core : Template) (side : Side)
    : (l.enclose core).holes side = core.holes side + l.guards.count side := by
  unfold enclose
  split
  . next h =>
    rw [List.isEmpty_iff.mp h]
    split <;> simp
  . simp [holes_guardTemplate, Nat.add_comm]

theorem render?_eq_core? (l : Lowering) (left : String) (right : Option String)
    (h : right.isSome = l.right.isSome)
    : l.render? left right =
        (l.shape.core? (Chain.apply l.left left)
          (l.right.map fun chain => Chain.apply chain (right.getD ""))).map
            (l.encloseText left right) := by
  unfold render?
  cases hright : l.right with
  | none =>
    cases hcore : l.shape.core? (Chain.apply l.left left) none with
    | none => simp [hcore]
    | some core =>
      simp only [hcore, Option.map_none, Option.map_some, encloseText]
      split <;> rfl
  | some chain =>
    cases right with
    | none =>
      rw [hright] at h
      contradiction
    | some source =>
      cases hcore : l.shape.core? (Chain.apply l.left left) (some (Chain.apply chain source)) with
      | none => simp [hcore]
      | some core =>
        simp only [hcore, Option.getD_some, Option.map_some, encloseText]
        split <;> rfl

/-- Whatever the sources of the operands are, they are written into one template. -/
theorem render?_eq_template? (l : Lowering) (left : String) (right : Option String)
    (h : right.isSome = l.right.isSome)
    : l.render? left right = l.template?.map (Template.fill left (right.getD "")) := by
  have hleft : (Chain.template l.left .left).fill left (right.getD "") =
      Chain.apply l.left left :=
    Chain.fill_template l.left .left
  have hright : (Template.fill left (right.getD "") ∘ (Chain.template · .right)) =
      fun chain => Chain.apply chain (right.getD "") :=
    funext fun chain => Chain.fill_template chain .right
  have hcore := l.shape.core?_fill (Chain.template l.left .left)
    (l.right.map (Chain.template · .right)) left (right.getD "")
  rw [hleft, Option.map_map, hright] at hcore
  rw [render?_eq_core? l left right h, hcore, template?, Option.map_map, Option.map_map]
  apply congrArg (Option.map · _)
  funext core
  exact (l.fill_enclose core left right).symm

variable {l : Lowering} {t : Template}

theorem holes_left_template? (h : l.template? = some t)
    : t.holes .left = 1 + l.guards.count .left := by
  obtain ⟨core, hcore, rfl⟩ := Option.map_eq_some_iff.mp h
  rw [holes_enclose, Shape.holes_template? hcore, Chain.holes_template]
  cases l.right <;> simp [Chain.holes_template]

theorem holes_right_template? (h : l.template? = some t)
    : t.holes .right = (if l.shape.isBinary then 1 else 0) + l.guards.count .right := by
  obtain ⟨core, hcore, rfl⟩ := Option.map_eq_some_iff.mp h
  rw [holes_enclose, Shape.holes_template? hcore, Chain.holes_template]
  cases hbinary : l.shape.isBinary with
  | false => simp
  | true =>
    have hright := Shape.isSome_of_template? hcore hbinary
    rw [Option.isSome_map] at hright
    obtain ⟨chain, hchain⟩ := Option.isSome_iff_exists.mp hright
    simp [hchain, Chain.holes_template]

/-- The lowering takes the operands of the operator and guards each of them at most once. -/
structure Writes (l : Lowering) (operator : Operator) : Prop where
  right : l.right.isSome = (operator.arity == 2)
  binary : l.shape.isBinary = (operator.arity == 2)
  count_le : ∀ side, l.guards.count side ≤ 1
  count_right : operator.arity ≠ 2 → l.guards.count .right = 0
  template : l.shape ≠ .nothing → l.template?.isSome = true

theorem isSome_template? (hright : l.right.isSome = l.shape.isBinary)
    (hmethod : ∀ op type, l.shape = .bigMethod op type → op ≠ .pow) (h : l.shape ≠ .nothing)
    : l.template?.isSome = true := by
  unfold template?
  rw [Option.isSome_map]
  apply Shape.isSome_template? _ _ hmethod h
  intro hbinary
  rw [Option.isSome_map, hright]
  exact hbinary

theorem writes_ofPromotion {op : BinaryOp} {left right : OperandType} {promotion : Promotion}
    (h : Promotion.binary? op left.type right.type = some promotion)
    : (ofPromotion op left right promotion).Writes (.binary op) := by
  have hright := ofPromotion_right op left right promotion
  have hbinary : (ofPromotion op left right promotion).shape.isBinary = true := by
    rw [ofPromotion_shape]
    cases promotion <;> rfl
  refine ⟨hright, hbinary, ?_, fun harity => absurd rfl harity, ?_⟩
  . intro side
    rw [ofPromotion_guards]
    cases left.isGuarded <;> cases right.isGuarded <;> cases side <;> decide
  . apply isSome_template?
    . rw [hright, hbinary]
    . intro op' type hshape
      rw [ofPromotion_shape] at hshape
      -- Only the methods of big numbers have no power, and powers of big numbers are not defined.
      rcases Promotion.binary?_cases h with ⟨-, hop, rfl⟩ | ⟨-, -, -, rfl⟩ | ⟨-, -, -, w, rfl, -⟩
      . cases hshape
        exact hop
      . contradiction
      . contradiction

theorem writes_unary {operator : Operator} {b : Bool} (harity : operator.arity = 1)
    (hright : l.right = none) (hguards : l.guards = if b then [.left] else [])
    (hbinary : l.shape.isBinary = false) : l.Writes operator := by
  have hmethod (op : BinaryOp) (type : NumericType) (h : l.shape = .bigMethod op type)
      : op ≠ .pow := by
    rw [h] at hbinary
    contradiction
  refine ⟨?_, ?_, ?_, ?_, ?_⟩
  . rw [hright, harity]
    rfl
  . rw [hbinary, harity]
    rfl
  . intro side
    rw [hguards]
    cases b <;> cases side <;> decide
  . intro _
    rw [hguards]
    cases b <;> rfl
  . apply isSome_template? _ hmethod
    rw [hright, hbinary]
    rfl

theorem writes_resolve {operator : Operator} {left : OperandType} {right : Option OperandType}
    (hl : resolve operator left right = .ok l) : l.Writes operator := by
  obtain ⟨op, r, promotion, rfl, -, hpromotion, rfl⟩ | ⟨rfl, -, hnegate⟩ | ⟨target, rfl, -, rfl⟩ :=
    resolve_cases hl
  . exact writes_ofPromotion hpromotion
  . obtain ⟨promotion, -, rfl⟩ := exists_of_negate_eq_ok hnegate
    exact writes_unary rfl rfl rfl rfl
  . apply writes_unary rfl rfl rfl
    rcases CastPlan.plan_cases left.type target with ⟨-, h⟩ | ⟨-, h⟩
    . simp only [cast, h.shape_eq, Shape.isBinary]
    . simp only [cast, h, CastPlan.invalid, Shape.isBinary]

/-- There is nothing to write for an invalid cast, and only then is there an error to report. -/
theorem invalid_or_written {operator : Operator} {left : OperandType} {right : Option OperandType}
    (hl : resolve operator left right = .ok l)
    : (l.shape = .nothing ∧ ∃ target, operator = .cast target ∧ ¬target.IsCastTarget ∧
          l.diagnostic = some (.invalidCast left.type.name target.simpleName)) ∨
        (l.shape ≠ .nothing ∧ (∀ target, operator = .cast target → target.IsCastTarget) ∧
          ∀ d, l.diagnostic = some d → d.isError = false) := by
  obtain ⟨op, r, promotion, rfl, -, -, rfl⟩ | ⟨rfl, -, hnegate⟩ | ⟨target, rfl, -, rfl⟩ :=
    resolve_cases hl
  . right
    refine ⟨?_, nofun, ?_⟩
    . rw [ofPromotion_shape]
      cases promotion <;> exact nofun
    . rw [ofPromotion_diagnostic]
      exact nofun
  . right
    obtain ⟨promotion, -, rfl⟩ := exists_of_negate_eq_ok hnegate
    exact ⟨nofun, nofun, nofun⟩
  . rcases CastPlan.plan_cases left.type target with ⟨htarget, h⟩ | ⟨htarget, h⟩
    . right
      refine ⟨?_, ?_, fun d hd => h.isError_eq_false hd⟩
      . simp [cast, h.shape_eq]
      . rintro _ ⟨⟩
        exact htarget
    . left
      refine ⟨?_, target, rfl, htarget, ?_⟩
      . simp [cast, h, CastPlan.invalid]
      . simp [cast, h, CastPlan.invalid]

theorem render?_of_nothing (h : l.shape = .nothing) (left : String) (right : Option String)
    : l.render? left right = none := by
  unfold render?
  rw [h]
  cases l.right <;> cases right <;> rfl

end Lowering

/--
What is written for an operator is a template filled with the sources of its operands. Each operand
has one place in it and one more if it is guarded, which it is at most once. There is nothing to
write exactly for the casts that are reported as errors, those to types that have no conversion.
-/
theorem rendering_fills_template (operator : Operator) (left : OperandType)
    (right : Option OperandType) (l : Lowering)
    (hl : Lowering.resolve operator left right = .ok l)
    : (l.shape ≠ .nothing →
          ∃ t, l.template? = some t ∧
            (∀ (source : String) (other : Option String), other.isSome = (operator.arity == 2) →
              l.render? source other = some (t.fill source (other.getD ""))) ∧
            t.holes .left = 1 + l.guards.count .left ∧
            t.holes .right = if operator.arity = 2 then 1 + l.guards.count .right else 0) ∧
        (∀ side, l.guards.count side ≤ 1) ∧
        (l.shape = .nothing ↔ ∃ target, operator = .cast target ∧ ¬target.IsCastTarget) ∧
        (l.shape = .nothing ↔ ∃ d, l.diagnostic = some d ∧ d.isError = true) ∧
        (l.shape = .nothing →
          (∃ d, l.diagnostic = some d ∧ d.code = .invalidCast) ∧
            ∀ source other, l.render? source other = none) := by
  have hwrites := Lowering.writes_resolve hl
  refine ⟨?_, hwrites.count_le, ?_⟩
  . intro hshape
    obtain ⟨t, ht⟩ := Option.isSome_iff_exists.mp (hwrites.template hshape)
    refine ⟨t, ht, ?_, Lowering.holes_left_template? ht, ?_⟩
    . intro source other hother
      rw [Lowering.render?_eq_template? l source other (hother.trans hwrites.right.symm), ht]
      rfl
    . rw [Lowering.holes_right_template? ht, hwrites.binary]
      by_cases harity : operator.arity = 2
      . simp [harity]
      . simp [harity, hwrites.count_right harity]
  . obtain ⟨hshape, target, rfl, htarget, hd⟩ | ⟨hshape, htarget, hd⟩ :=
      Lowering.invalid_or_written hl
    . refine ⟨?_, ?_, ?_⟩
      . exact iff_of_true hshape ⟨target, rfl, htarget⟩
      . exact iff_of_true hshape ⟨_, hd, rfl⟩
      . intro _
        exact ⟨⟨_, hd, rfl⟩, Lowering.render?_of_nothing hshape⟩
    . refine ⟨?_, ?_, fun h => absurd h hshape⟩
      . apply iff_of_false hshape
        rintro ⟨target, rfl, hno⟩
        exact hno (htarget target rfl)
      . apply iff_of_false hshape
        rintro ⟨d, hsome, herror⟩
        rw [hd d hsome] at herror
        contradiction

/-- A quotient of two guarded operands, and a cast to a type that there is no cast to. -/
theorem guarded_quotient_and_invalid_cast
    : let left : OperandType := ⟨.atomic .long, true⟩
      let right : OperandType := ⟨.bigDecimal, true⟩
      let quotient := Lowering.ofPromotion .div left right (.big .bigDecimal)
      let invalid := Lowering.cast left .boolean
      Lowering.resolve (.binary .div) left (some right) = .ok quotient ∧
        quotient.shape ≠ .nothing ∧
        (∃ t, quotient.template? = some t ∧ t.holes .left = 2 ∧ t.holes .right = 2 ∧
          t.fill "a" "b" =
            "(a == null || b == null ? null : " ++
              "BigDecimal.valueOf(a.longValue()).divide(b, MathContext.DECIMAL128))") ∧
        Lowering.resolve (.cast .boolean) left none = .ok invalid ∧
        invalid.shape = .nothing ∧ ∀ source other, invalid.render? source other = none := by
  intro left right quotient invalid
  have hquotient : Lowering.resolve (.binary .div) left (some right) = .ok quotient := rfl
  have hinvalid : Lowering.resolve (.cast .boolean) left none = .ok invalid := rfl
  have hshape : quotient.shape ≠ .nothing := nofun
  refine ⟨hquotient, hshape, ?_, hinvalid, rfl, ?_⟩
  . obtain ⟨t, ht, hrender, hleft, hright⟩ :=
      (rendering_fills_template _ _ _ _ hquotient).1 hshape
    refine ⟨t, ht, hleft, hright, ?_⟩
    have htext : quotient.render? "a" (some "b") =
        some ("(a == null || b == null ? null : " ++
          "BigDecimal.valueOf(a.longValue()).divide(b, MathContext.DECIMAL128))") := by
      decide +kernel
    exact Option.some.inj ((hrender "a" (some "b") rfl).symm.trans htext)
  . exact ((rendering_fills_template _ _ _ _ hinvalid).2.2.2.2 rfl).2

end OperatorLowering
