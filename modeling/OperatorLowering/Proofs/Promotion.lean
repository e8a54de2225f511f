import OperatorLowering.Promotion

/-!
Which promotions the arithmetic operators have, with ranks compared by their order.
-/

namespace OperatorLowering

namespace Rank

theorem order_max (a b : Rank) : (a.max b).order = Max.max a.order b.order := by
  unfold max
  split <;> omega

theorem eq_of_order_eq {a b : Rank} (h : a.order = b.order) : a = b := by
  revert h
  cases a <;> cases b <;> decide

end Rank

namespace Primitive

theorem exists_of_order_le {r : Rank} (h : r.order ≤ 5) : ∃ p : Primitive, p.rank = r := by
  cases r with
  | byte => exact ⟨.byte, rfl⟩
  | short => exact ⟨.short, rfl⟩
  | int => exact ⟨.int, rfl⟩
  | long => exact ⟨.long, rfl⟩
  | float => exact ⟨.float, rfl⟩
  | double => exact ⟨.double, rfl⟩
  | bigInteger | bigDecimal => contradiction

theorem order_rank_le (p : Primitive) : p.rank.order ≤ 5 := by
  cases p <;> decide

end Primitive

namespace NumericType

theorem mem_all (t : NumericType) : t ∈ all := by
  cases t with
  | primitive p | boxed p => cases p <;> decide
  | atomic a => cases a <;> decide
  | _ => decide

theorem exists_width_of_not_big {t : NumericType} (h : t.isBig = false)
    : ∃ p, t.width? = some p ∧ p.rank = t.rank := by
  cases t with
  | primitive p | boxed p => exact ⟨p, rfl, rfl⟩
  | atomic a => exact ⟨a.width, rfl, rfl⟩
  | number => exact ⟨.double, rfl, rfl⟩
  | bigInteger | bigDecimal => contradiction

end NumericType

namespace Promotion

theorem exists_ofRank? {r : Rank} (h : r.order ≤ 5)
    : ∃ p : Primitive, ofRank? r = some (.primitive p) ∧ p.rank = r.max .int := by
  have hmax : (r.max .int).order ≤ 5 := by
    rw [Rank.order_max]
    exact Nat.max_le.mpr ⟨h, by decide⟩
  obtain ⟨p, hp⟩ := Primitive.exists_of_order_le hmax
  refine ⟨p, ?_, hp⟩
  rw [ofRank?, ← hp, Primitive.ofRank?_rank]
  rfl

variable {op : BinaryOp} {t u : NumericType}

theorem binary?_of_big (hbig : (t.isBig || u.isBig) = true) (hop : op ≠ .pow)
    : binary? op t u =
        some (.big (if t.isFloating || u.isFloating then .bigDecimal else .bigInteger)) := by
  simp only [binary?, hbig, if_true, hop, if_false]
  split <;> rfl

theorem binary?_pow_of_big (hbig : (t.isBig || u.isBig) = true) : binary? .pow t u = none := by
  simp [binary?, hbig]

theorem binary?_pow_of_not_big (ht : t.isBig = false) (hu : u.isBig = false)
    : binary? .pow t u = some .power := by
  simp [binary?, ht, hu]

theorem binary?_of_not_big (ht : t.isBig = false) (hu : u.isBig = false) (hop : op ≠ .pow)
    : ∃ p : Primitive, binary? op t u = some (.primitive p) ∧
        p.rank = (t.rank.max u.rank).max .int := by
  obtain ⟨p, -, hp⟩ := NumericType.exists_width_of_not_big ht
  obtain ⟨q, -, hq⟩ := NumericType.exists_width_of_not_big hu
  have hle : (t.rank.max u.rank).order ≤ 5 := by
    rw [Rank.order_max, ← hp, ← hq]
    exact Nat.max_le.mpr ⟨p.order_rank_le, q.order_rank_le⟩
  obtain ⟨w, hw, hrank⟩ := exists_ofRank? hle
  refine ⟨w, ?_, hrank⟩
  simp [binary?, ht, hu, hop, hw]

theorem negation?_of_big (ht : t.isBig = true) : negation? t = none := by
  simp [negation?, ht]

theorem negation?_of_not_big (ht : t.isBig = false)
    : ∃ p : Primitive, negation? t = some (.primitive p) ∧ p.rank = t.rank.max .int := by
  obtain ⟨p, -, hp⟩ := NumericType.exists_width_of_not_big ht
  have hle : t.rank.order ≤ 5 := by
    rw [← hp]
    exact p.order_rank_le
  obtain ⟨w, hw, hrank⟩ := exists_ofRank? hle
  refine ⟨w, ?_, hrank⟩
  simp [negation?, ht, hw]

theorem binary?_cases {p : Promotion} (h : binary? op t u = some p)
    : ((t.isBig || u.isBig) = true ∧ op ≠ .pow ∧
          p = .big (if t.isFloating || u.isFloating then .bigDecimal else .bigInteger)) ∨
        (t.isBig = false ∧ u.isBig = false ∧ op = .pow ∧ p = .power) ∨
        (t.isBig = false ∧ u.isBig = false ∧ op ≠ .pow ∧
          ∃ w : Primitive, p = .primitive w ∧ w.rank = (t.rank.max u.rank).max .int) := by
  cases hbig : t.isBig || u.isBig with
  | true =>
    by_cases hop : op = .pow
    . rw [hop, binary?_pow_of_big hbig] at h
      contradiction
    . rw [binary?_of_big hbig hop] at h
      cases h
      exact .inl ⟨rfl, hop, rfl⟩
  | false =>
    obtain ⟨ht, hu⟩ := Bool.or_eq_false_iff.mp hbig
    by_cases hop : op = .pow
    . rw [hop, binary?_pow_of_not_big ht hu] at h
      cases h
      exact .inr (.inl ⟨ht, hu, hop, rfl⟩)
    . obtain ⟨w, hw, hrank⟩ := binary?_of_not_big ht hu hop
      rw [hw] at h
      cases h
      exact .inr (.inr ⟨ht, hu, hop, w, rfl, hrank⟩)

theorem binary?_eq_none_iff
    : binary? op t u = none ↔ op = .pow ∧ (t.isBig = true ∨ u.isBig = true) := by
  rw [← Bool.or_eq_true]
  constructor
  . intro h
    cases hbig : t.isBig || u.isBig with
    | true =>
      refine ⟨?_, rfl⟩
      apply Classical.byContradiction
      intro hop
      rw [binary?_of_big hbig hop] at h
      contradiction
    | false =>
      obtain ⟨ht, hu⟩ := Bool.or_eq_false_iff.mp hbig
      by_cases hop : op = .pow
      . rw [hop, binary?_pow_of_not_big ht hu] at h
        contradiction
      . obtain ⟨w, hw, -⟩ := binary?_of_not_big ht hu hop
        rw [hw] at h
        contradiction
  . rintro ⟨rfl, hbig⟩
    exact binary?_pow_of_big hbig

theorem negation?_cases {p : Promotion} (h : negation? t = some p)
    : t.isBig = false ∧ ∃ w : Primitive, p = .primitive w ∧ w.rank = t.rank.max .int := by
  cases hbig : t.isBig with
  | true =>
    rw [negation?_of_big hbig] at h
    contradiction
  | false =>
    obtain ⟨w, hw, hrank⟩ := negation?_of_not_big hbig
    rw [hw] at h
    cases h
    exact ⟨rfl, w, rfl, hrank⟩

theorem negation?_eq_none_iff : negation? t = none ↔ t.isBig = true := by
  cases hbig : t.isBig with
  | true => simp [negation?_of_big hbig]
  | false =>
    obtain ⟨p, hp, -⟩ := negation?_of_not_big hbig
    simp [hp]

end Promotion

namespace OperatorSpec

variable {spec : OperatorSpec} {promotion : Promotion}

theorem mem_all_of_promotion? (h : spec.promotion? = some promotion) : spec ∈ all := by
  obtain ⟨symbol, left, right⟩ := spec
  cases symbol with
  | binary op =>
    cases right with
    | none => contradiction
    | some right =>
      have hop : op ∈ BinaryOp.all := by cases op <;> decide
      simp [all, hop, NumericType.mem_all]
  | negation =>
    cases right with
    | none => simp [all, NumericType.mem_all]
    | some right => contradiction
  | cast => contradiction

end OperatorSpec

namespace Promotion

theorem lookup_filterMap (f : OperatorSpec → Option Promotion) (spec : OperatorSpec)
    (specs : List OperatorSpec)
    : (specs.filterMap fun s => (f s).map fun promotion => (s, promotion)).lookup spec =
        if spec ∈ specs then f spec else none := by
  induction specs with
  | nil => rfl
  | cons s specs ih =>
    by_cases hs : spec = s
    . subst hs
      cases hf : f spec with
      | none => simp [hf, ih]
      | some promotion => simp [hf]
    . have hne : (spec == s) = false := beq_eq_false_iff_ne.mpr hs
      cases hf : f s with
      | none => simp [hf, ih, hs]
      | some promotion => simp [hf, ih, hs, List.lookup_cons, hne]

/-- Looking an operator up in the table gives the promotion that it is resolved with. -/
theorem lookup_table (spec : OperatorSpec) : table.lookup spec = spec.promotion? := by
  unfold table
  rw [lookup_filterMap]
  split
  . rfl
  . next hmem =>
    cases h : spec.promotion? with
    | none => rfl
    | some promotion => exact absurd (OperatorSpec.mem_all_of_promotion? h) hmem

end Promotion

end OperatorLowering
