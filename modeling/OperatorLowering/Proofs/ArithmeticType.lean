import OperatorLowering.Proofs.Arithmetic
import OperatorLowering.Proofs.Promotion

/-!
The static type of an arithmetic tree. Promotion is a join: the type of the whole tree depends on
the types at its leaves, and neither on their order nor on how the operators are nested.
-/

namespace OperatorLowering

namespace Rank

theorem max_assoc (a b c : Rank) : (a.max b).max c = a.max (b.max c) := by
  apply eq_of_order_eq
  simp only [order_max]
  omega

theorem max_comm (a b : Rank) : a.max b = b.max a := by
  apply eq_of_order_eq
  simp only [order_max]
  omega

theorem max_left_comm (a b c : Rank) : a.max (b.max c) = b.max (a.max c) := by
  apply eq_of_order_eq
  simp only [order_max]
  omega

end Rank

namespace NumericType

/-- The widest of some types, `int` if none of them is wider. -/
def maxRank (types : List NumericType) : Rank := types.foldr (fun t rank => t.rank.max rank) .int

/-- The type in which arithmetic on operands of some types ends. -/
def IsPromotionOf (t : NumericType) (types : List NumericType) : Prop :=
  if types.any isBig then
    t = if types.any isFloating then .bigDecimal else .bigInteger
  else
    ∃ p, t = .primitive p ∧ p.rank = maxRank types

theorem int_max_maxRank (types : List NumericType)
    : Rank.int.max (maxRank types) = maxRank types := by
  induction types with
  | nil => rfl
  | cons t types ih =>
    calc Rank.int.max (t.rank.max (maxRank types))
      _ = t.rank.max (Rank.int.max (maxRank types)) := Rank.max_left_comm ..
      _ = t.rank.max (maxRank types) := by rw [ih]

theorem maxRank_append (types others : List NumericType)
    : maxRank (types ++ others) = (maxRank types).max (maxRank others) := by
  induction types with
  | nil => exact (int_max_maxRank others).symm
  | cons t types ih =>
    calc t.rank.max (maxRank (types ++ others))
      _ = t.rank.max ((maxRank types).max (maxRank others)) := by rw [ih]
      _ = (t.rank.max (maxRank types)).max (maxRank others) := (Rank.max_assoc ..).symm

theorem maxRank_perm {types others : List NumericType} (h : types.Perm others)
    : maxRank types = maxRank others := by
  apply h.foldr_eq'
  intro t _ u _ rank
  apply Rank.max_left_comm

theorem IsPromotionOf.eq_of_perm {t u : NumericType} {types others : List NumericType}
    (ht : t.IsPromotionOf types) (hu : u.IsPromotionOf others) (h : types.Perm others)
    : t = u := by
  unfold IsPromotionOf at ht hu
  rw [← h.any_eq, ← h.any_eq, ← maxRank_perm h] at hu
  split at ht
  . next hbig =>
    rw [if_pos hbig] at hu
    rw [ht, hu]
  . next hbig =>
    rw [if_neg hbig] at hu
    obtain ⟨p, rfl, hp⟩ := ht
    obtain ⟨q, rfl, hq⟩ := hu
    have : some p = some q := by
      rw [← Primitive.ofRank?_rank p, ← Primitive.ofRank?_rank q, hp, hq]
    cases this
    rfl

theorem isFloating_eq {t : NumericType} (h : t.isBig = false)
    : t.isFloating = decide (4 ≤ t.rank.order) := by
  cases t with
  | primitive p | boxed p => cases p <;> rfl
  | atomic a => cases a <;> rfl
  | number => rfl
  | bigInteger | bigDecimal => contradiction

theorem any_isFloating_eq {types : List NumericType} (h : types.any isBig = false)
    : types.any isFloating = decide (4 ≤ (maxRank types).order) := by
  induction types with
  | nil => rfl
  | cons t types ih =>
    simp only [List.any_cons, Bool.or_eq_false_iff] at h
    have hmax : (maxRank (t :: types)).order = max t.rank.order (maxRank types).order :=
      Rank.order_max ..
    rw [List.any_cons, isFloating_eq h.1, ih h.2, hmax, ← Bool.decide_or, decide_eq_decide]
    omega

/-- As an operand, `t` does the same to an arithmetic result as all of `types` together. -/
structure Summarizes (t : NumericType) (types : List NumericType) : Prop where
  isBig : t.isBig = types.any NumericType.isBig
  isFloating : t.isFloating = types.any NumericType.isFloating
  rank : t.isBig = false → t.rank.max .int = maxRank types

/-- The types that arithmetic results have. -/
def IsResult (t : NumericType) : Prop := t.isBig = true ∨ ∃ p, t = .primitive p ∧ 2 ≤ p.rank.order

variable {t u : NumericType} {types others : List NumericType}

theorem summarizes_self (t : NumericType) : t.Summarizes [t] where
  isBig := by simp
  isFloating := by simp
  rank _ := rfl

theorem Summarizes.ofBig (ht : t.Summarizes types) (hu : u.Summarizes others)
    (hbig : (t.isBig || u.isBig) = true)
    : (if t.isFloating || u.isFloating then bigDecimal else bigInteger).Summarizes
        (types ++ others) := by
  rw [ht.isBig, hu.isBig, ← List.any_append] at hbig
  rw [ht.isFloating, hu.isFloating, ← List.any_append]
  constructor
  . rw [hbig]
    split <;> rfl
  . split
    . next h => exact h.symm
    . next h => exact (Bool.eq_false_iff.mpr h).symm
  . intro h
    split at h <;> contradiction

theorem summarizes_of_rank_eq {p : Primitive} (hbig : types.any NumericType.isBig = false)
    (hp : p.rank = maxRank types) : (primitive p).Summarizes types where
  isBig := hbig.symm
  isFloating := by
    rw [isFloating_eq rfl, any_isFloating_eq hbig, ← hp]
    rfl
  rank _ := by
    calc p.rank.max .int
      _ = Rank.int.max p.rank := Rank.max_comm ..
      _ = maxRank types := by rw [hp, int_max_maxRank]

theorem Summarizes.ofPrimitive {p : Primitive} (ht : t.Summarizes types) (hu : u.Summarizes others)
    (htbig : t.isBig = false) (hubig : u.isBig = false)
    (hp : p.rank = (t.rank.max u.rank).max .int)
    : (primitive p).Summarizes (types ++ others) := by
  apply summarizes_of_rank_eq
  . rw [List.any_append, ← ht.isBig, ← hu.isBig, htbig, hubig]
    rfl
  . rw [hp, maxRank_append, ← ht.rank htbig, ← hu.rank hubig]
    apply Rank.eq_of_order_eq
    simp only [Rank.order_max]
    omega

theorem Summarizes.ofNegation {p : Primitive} (ht : t.Summarizes types) (htbig : t.isBig = false)
    (hp : p.rank = t.rank.max .int) : (primitive p).Summarizes types := by
  apply summarizes_of_rank_eq
  . rw [← ht.isBig, htbig]
  . rw [hp, ht.rank htbig]

theorem Summarizes.isPromotionOf (h : t.Summarizes types) (hresult : t.IsResult)
    : t.IsPromotionOf types := by
  unfold IsPromotionOf
  rw [← h.isBig, ← h.isFloating]
  cases hresult with
  | inl hbig =>
    rw [if_pos hbig]
    cases t with
    | bigInteger | bigDecimal => rfl
    | _ => contradiction
  | inr hprimitive =>
    obtain ⟨p, rfl, hp⟩ := hprimitive
    refine ⟨p, rfl, ?_⟩
    rw [← h.rank rfl]
    apply Rank.eq_of_order_eq
    have : Rank.int.order = 2 := rfl
    have : (primitive p).rank = p.rank := rfl
    simp only [Rank.order_max, this]
    omega

end NumericType

namespace Promotion

variable {op : BinaryOp} {t u : NumericType} {p : Promotion}

theorem isResult_primitive {w : Primitive} {r : Rank} (h : w.rank = r.max .int)
    : (NumericType.primitive w).IsResult := by
  have : Rank.int.order = 2 := rfl
  refine .inr ⟨w, rfl, ?_⟩
  rw [h, Rank.order_max]
  omega

theorem isResult_of_binary? (h : binary? op t u = some p) : p.result.IsResult := by
  rcases binary?_cases h with ⟨-, -, rfl⟩ | ⟨-, -, -, rfl⟩ | ⟨-, -, -, w, rfl, hrank⟩
  . apply Or.inl
    simp only [result]
    split <;> rfl
  . exact .inr ⟨.double, rfl, by decide⟩
  . exact isResult_primitive hrank

theorem isResult_of_negation? (h : negation? t = some p) : p.result.IsResult := by
  obtain ⟨-, w, rfl, hrank⟩ := negation?_cases h
  exact isResult_primitive hrank

end Promotion

def Scope.numericType? (s : Scope) (e : Expr) : Option NumericType :=
  (s.typeOf? e).bind TypeName.numeric?

namespace Expr

/-- The types that decide on the type of a tree: a power counts as a double, whatever is below. -/
def exposedTypes (s : Scope) : Expr → List NumericType
  | binary _ left op right =>
    if op = .pow then [.primitive .double] else left.exposedTypes s ++ right.exposedTypes s
  | negation _ operand => operand.exposedTypes s
  | e => (s.numericType? e).toList
termination_by structural e => e

variable {s : Scope} {e : Expr} {t : NumericType}

theorem exposedTypes_of_leaf (he : e.isArithmetic = false)
    : e.exposedTypes s = (s.numericType? e).toList := by
  cases e with
  | binary | negation => contradiction
  | _ => rfl

theorem exposedTypes_of_numeric_leaf (he : e.isArithmetic = false)
    (ht : s.typeOf? e = some (.numeric t)) : e.exposedTypes s = [t] := by
  simp [exposedTypes_of_leaf he, Scope.numericType?, ht, TypeName.numeric?]

theorem any_isBig_exposedTypes (hleaves : e.HasNumericLeaves s) (h : ¬e.HasRefusedOperator s)
    : (e.exposedTypes s).any NumericType.isBig = true ↔ e.HasBigLeaf s := by
  induction e using arithmetic_induction with
  | binary span left op right ihleft ihright =>
    simp only [hasRefusedOperator_binary, not_or, not_and] at h
    obtain ⟨hpow, hl, hr⟩ := h
    specialize ihleft hleaves.of_binary_left hl
    specialize ihright hleaves.of_binary_right hr
    rw [hasBigLeaf_binary, exposedTypes]
    split
    . next hop =>
      simp [hpow hop, NumericType.isBig]
    . rw [List.any_append, Bool.or_eq_true, ihleft, ihright]
  | negation span operand ih =>
    rw [hasRefusedOperator_negation, not_or] at h
    exact ih hleaves.of_negation h.2
  | leaf e he =>
    obtain ⟨t, ht⟩ := hleaves.of_leaf he
    simp [exposedTypes_of_numeric_leaf he ht, hasBigLeaf_of_leaf he ht]

theorem isBig_eq_false_of_summarizes (hleaves : e.HasNumericLeaves s)
    (h : ¬e.HasRefusedOperator s) (hbig : ¬e.HasBigLeaf s) (ht : t.Summarizes (e.exposedTypes s))
    : t.isBig = false := by
  rw [← any_isBig_exposedTypes hleaves h, ← ht.isBig] at hbig
  exact Bool.eq_false_iff.mpr hbig

theorem exists_typeOf?_of_not_hasRefusedOperator (hleaves : e.HasNumericLeaves s)
    (h : ¬e.HasRefusedOperator s)
    : ∃ t, s.typeOf? e = some (.numeric t) ∧ t.Summarizes (e.exposedTypes s) := by
  induction e using arithmetic_induction with
  | binary span left op right ihleft ihright =>
    simp only [hasRefusedOperator_binary, not_or, not_and] at h
    obtain ⟨hpow, hl, hr⟩ := h
    obtain ⟨t, ht, hts⟩ := ihleft hleaves.of_binary_left hl
    obtain ⟨u, hu, hus⟩ := ihright hleaves.of_binary_right hr
    have hdefined : Promotion.binary? op t u ≠ none := by
      rw [ne_eq, Promotion.binary?_eq_none_iff]
      rintro ⟨hop, hbig⟩
      rw [isBig_eq_false_of_summarizes hleaves.of_binary_left hl (hpow hop).1 hts,
        isBig_eq_false_of_summarizes hleaves.of_binary_right hr (hpow hop).2 hus] at hbig
      simp at hbig
    obtain ⟨p, hp⟩ := Option.ne_none_iff_exists'.mp hdefined
    rw [Scope.typeOf?_binary ht hu, hp, exposedTypes]
    rcases Promotion.binary?_cases hp with
      ⟨hbig, hop, rfl⟩ | ⟨-, -, hop, rfl⟩ | ⟨htbig, hubig, hop, w, rfl, hrank⟩
    . rw [if_neg hop]
      exact ⟨_, rfl, hts.ofBig hus hbig⟩
    . rw [if_pos hop]
      exact ⟨_, rfl, NumericType.summarizes_self _⟩
    . rw [if_neg hop]
      exact ⟨_, rfl, hts.ofPrimitive hus htbig hubig hrank⟩
  | negation span operand ih =>
    rw [hasRefusedOperator_negation, not_or] at h
    obtain ⟨t, ht, hts⟩ := ih hleaves.of_negation h.2
    have hbig := isBig_eq_false_of_summarizes hleaves.of_negation h.2 h.1 hts
    obtain ⟨p, hp, hrank⟩ := Promotion.negation?_of_not_big hbig
    rw [Scope.typeOf?_negation ht, hp]
    exact ⟨_, rfl, hts.ofNegation hbig hrank⟩
  | leaf e he =>
    obtain ⟨t, ht⟩ := hleaves.of_leaf he
    rw [exposedTypes_of_numeric_leaf he ht]
    exact ⟨t, ht, NumericType.summarizes_self t⟩

theorem isBig_iff_hasBigLeaf (hleaves : e.HasNumericLeaves s) (h : ¬e.HasRefusedOperator s)
    (ht : s.typeOf? e = some (.numeric t)) : t.isBig = true ↔ e.HasBigLeaf s := by
  obtain ⟨u, hu, hus⟩ := exists_typeOf?_of_not_hasRefusedOperator hleaves h
  rw [ht] at hu
  cases hu
  rw [hus.isBig, any_isBig_exposedTypes hleaves h]

theorem not_hasRefusedOperator_of_typeOf? {type : TypeName} (hleaves : e.HasNumericLeaves s)
    (h : s.typeOf? e = some type) : ¬e.HasRefusedOperator s := by
  induction e using arithmetic_induction generalizing type with
  | binary span left op right ihleft ihright =>
    obtain ⟨t, u, p, ht, hu, hp, -⟩ := Scope.exists_operands_of_typeOf?_binary h
    have hl := ihleft hleaves.of_binary_left ht
    have hr := ihright hleaves.of_binary_right hu
    have hdefined : Promotion.binary? op t u ≠ none := by simp [hp]
    rw [ne_eq, Promotion.binary?_eq_none_iff, isBig_iff_hasBigLeaf hleaves.of_binary_left hl ht,
      isBig_iff_hasBigLeaf hleaves.of_binary_right hr hu] at hdefined
    rw [hasRefusedOperator_binary, not_or, not_or]
    exact ⟨hdefined, hl, hr⟩
  | negation span operand ih =>
    obtain ⟨t, p, ht, hp, -⟩ := Scope.exists_operand_of_typeOf?_negation h
    have ho := ih hleaves.of_negation ht
    have hdefined : Promotion.negation? t ≠ none := by simp [hp]
    rw [ne_eq, Promotion.negation?_eq_none_iff,
      isBig_iff_hasBigLeaf hleaves.of_negation ho ht] at hdefined
    rw [hasRefusedOperator_negation, not_or]
    exact ⟨hdefined, ho⟩
  | leaf e he => exact not_hasRefusedOperator_of_leaf he

theorem typeOf?_eq_none_iff_hasRefusedOperator (hleaves : e.HasNumericLeaves s)
    : s.typeOf? e = none ↔ e.HasRefusedOperator s := by
  constructor
  . intro hnone
    apply Classical.byContradiction
    intro h
    obtain ⟨t, ht, -⟩ := exists_typeOf?_of_not_hasRefusedOperator hleaves h
    rw [ht] at hnone
    contradiction
  . intro h
    cases htype : s.typeOf? e with
    | none => rfl
    | some type => exact absurd h (not_hasRefusedOperator_of_typeOf? hleaves htype)

theorem isResult_of_typeOf? (he : e.isArithmetic = true) (h : s.typeOf? e = some (.numeric t))
    : t.IsResult := by
  cases e with
  | binary span left op right =>
    obtain ⟨_, _, p, -, -, hp, htype⟩ := Scope.exists_operands_of_typeOf?_binary h
    cases htype
    exact Promotion.isResult_of_binary? hp
  | negation span operand =>
    obtain ⟨_, p, -, hp, htype⟩ := Scope.exists_operand_of_typeOf?_negation h
    cases htype
    exact Promotion.isResult_of_negation? hp
  | _ => contradiction

theorem exists_typeOf?_isPromotionOf (he : e.isArithmetic = true) (hleaves : e.HasNumericLeaves s)
    (h : ¬e.HasRefusedOperator s)
    : ∃ t, s.typeOf? e = some (.numeric t) ∧ t.IsPromotionOf (e.exposedTypes s) := by
  obtain ⟨t, ht, hts⟩ := exists_typeOf?_of_not_hasRefusedOperator hleaves h
  exact ⟨t, ht, hts.isPromotionOf (isResult_of_typeOf? he ht)⟩

def leafTypes (s : Scope) (e : Expr) : List NumericType :=
  e.arithmeticLeaves.filterMap s.numericType?

/-- All operators of the tree are among `+`, `-`, `*`, `/` and `%`. -/
def IsTotalArithmetic (e : Expr) : Prop := ∀ n ∈ e.arithmeticNodes, n.refusesBig = false

instance (e : Expr) : Decidable e.IsTotalArithmetic :=
  inferInstanceAs (Decidable (∀ n ∈ e.arithmeticNodes, n.refusesBig = false))

theorem IsTotalArithmetic.not_hasRefusedOperator (h : e.IsTotalArithmetic)
    : ¬e.HasRefusedOperator s := by
  rintro ⟨n, hn, hrefuses, -⟩
  rw [h n hn] at hrefuses
  contradiction

theorem IsTotalArithmetic.exposedTypes_eq (h : e.IsTotalArithmetic)
    : e.exposedTypes s = e.leafTypes s := by
  induction e using arithmetic_induction with
  | binary span left op right ihleft ihright =>
    simp only [IsTotalArithmetic, arithmeticNodes, List.forall_mem_cons,
      List.forall_mem_append] at h
    obtain ⟨hop, hl, hr⟩ := h
    rw [exposedTypes, if_neg (by simpa [refusesBig] using hop), ihleft hl, ihright hr]
    simp only [leafTypes, arithmeticLeaves, List.filterMap_append]
  | negation span operand ih =>
    have := h (negation span operand) List.mem_cons_self
    contradiction
  | leaf e he =>
    rw [exposedTypes_of_leaf he, leafTypes, arithmeticLeaves_of_leaf he]
    cases h : s.numericType? e <;> simp [h]

end Expr

theorem arithmetic_type_is_promotion_of_leaf_types (r : Resolver) (e : Expr)
    (harith : e.isArithmetic = true) (hleaves : e.HasNumericLeaves r.scope)
    : ((r.resolveType e).1 = none ↔
          ∃ n ∈ e.arithmeticNodes, n.refusesBig = true ∧ n.HasBigLeaf r.scope) ∧
        ((r.resolveType e).1 ≠ none →
          ∃ t, (r.resolveType e).1 = some (.numeric t) ∧
            t.IsPromotionOf (e.exposedTypes r.scope)) ∧
        ∀ (r' : Resolver) (e' : Expr), e'.isArithmetic = true → e'.HasNumericLeaves r'.scope →
          e.IsTotalArithmetic → e'.IsTotalArithmetic →
          (e.leafTypes r.scope).Perm (e'.leafTypes r'.scope) →
          (r.resolveType e).1 = (r'.resolveType e').1 := by
  refine ⟨Expr.typeOf?_eq_none_iff_hasRefusedOperator hleaves, ?_, ?_⟩
  . intro htyped
    apply Expr.exists_typeOf?_isPromotionOf harith hleaves
    rwa [← Expr.typeOf?_eq_none_iff_hasRefusedOperator hleaves]
  . intro r' e' harith' hleaves' htotal htotal' hperm
    obtain ⟨t, ht, htp⟩ :=
      Expr.exists_typeOf?_isPromotionOf harith hleaves htotal.not_hasRefusedOperator
    obtain ⟨u, hu, hup⟩ :=
      Expr.exists_typeOf?_isPromotionOf harith' hleaves' htotal'.not_hasRefusedOperator
    rw [htotal.exposedTypes_eq] at htp
    rw [htotal'.exposedTypes_eq] at hup
    calc (r.resolveType e).1
      _ = some (.numeric t) := ht
      _ = some (.numeric u) := by rw [htp.eq_of_perm hup hperm]
      _ = (r'.resolveType e').1 := hu.symm

def Resolver.prices : Resolver :=
  .ofScope (((Scope.empty.declare "total" (.numeric .bigInteger)).declare "share"
    (.numeric (.boxed .byte))).declareNonNull "price" (.numeric (.boxed .float)))

/-- `(total + price) * share` -/
def Expr.increase : Expr :=
  .binary .zero (.binary .zero (.var .zero "total") .add (.var .zero "price")) .mul
    (.var .zero "share")

/-- `share % (price - total)` -/
def Expr.rest : Expr :=
  .binary .zero (.var .zero "share") .mod
    (.binary .zero (.var .zero "price") .sub (.var .zero "total"))

/-- `-(share * total) + price` -/
def Expr.debit : Expr :=
  .binary .zero
    (.negation .zero (.binary .zero (.var .zero "share") .mul (.var .zero "total")))
    .add (.var .zero "price")

theorem increase_and_rest_are_bigDecimal
    : (Resolver.prices.resolveType .increase).1 = some (.numeric .bigDecimal) ∧
        (Resolver.prices.resolveType .rest).1 = some (.numeric .bigDecimal) ∧
        (Resolver.prices.resolveType .debit).1 = none := by
  have hincrease : Expr.increase.HasNumericLeaves Resolver.prices.scope := by
    rintro leaf (_ | ⟨_, _ | ⟨_, _ | ⟨_, ⟨⟩⟩⟩⟩) <;> exact ⟨_, rfl⟩
  have hrest : Expr.rest.HasNumericLeaves Resolver.prices.scope := by
    rintro leaf (_ | ⟨_, _ | ⟨_, _ | ⟨_, ⟨⟩⟩⟩⟩) <;> exact ⟨_, rfl⟩
  have hdebit : Expr.debit.HasNumericLeaves Resolver.prices.scope := by
    rintro leaf (_ | ⟨_, _ | ⟨_, _ | ⟨_, ⟨⟩⟩⟩⟩) <;> exact ⟨_, rfl⟩
  have htyped : (Resolver.prices.resolveType .increase).1 = some (.numeric .bigDecimal) := by
    obtain ⟨-, htype, -⟩ :=
      arithmetic_type_is_promotion_of_leaf_types Resolver.prices .increase rfl hincrease
    obtain ⟨t, ht, hpromotion⟩ := htype (by decide)
    rw [ht, show t = .bigDecimal from hpromotion]
  refine ⟨htyped, ?_, ?_⟩
  . rw [← htyped]
    symm
    apply (arithmetic_type_is_promotion_of_leaf_types Resolver.prices .increase rfl hincrease).2.2
      Resolver.prices .rest rfl hrest
    . decide
    . decide
    . decide
  . apply (arithmetic_type_is_promotion_of_leaf_types Resolver.prices .debit rfl hdebit).1.mpr
    refine ⟨_, List.mem_cons_of_mem _ List.mem_cons_self, rfl, .var .zero "total", ?_, .bigInteger,
      rfl, rfl⟩
    exact .tail _ (.head _)

end OperatorLowering
