import OperatorLowering.Json.Decoder

/-!
What decoders promise: which values they can give at all, and that a value is read back from the
JSON value it is written as where enough nesting is allowed.
-/

namespace OperatorLowering

namespace Json

variable {n : Nat}

theorem depth_le_depthOfAll {items : List Json} {j : Json} (h : j ∈ items)
    : j.depth ≤ depthOfAll items := by
  induction items with
  | nil => contradiction
  | cons item items ih =>
    rw [depthOfAll]
    rcases List.mem_cons.mp h with rfl | h
    . apply Nat.le_max_left
    . apply Nat.le_trans (ih h)
      apply Nat.le_max_right

theorem depth_le_depthOfMembers {members : List (String × Json)} {member : String × Json}
    (h : member ∈ members) : member.2.depth ≤ depthOfMembers members := by
  induction members with
  | nil => contradiction
  | cons first members ih =>
    rw [depthOfMembers]
    rcases List.mem_cons.mp h with rfl | h
    . apply Nat.le_max_left
    . apply Nat.le_trans (ih h)
      apply Nat.le_max_right

theorem exists_of_depth_array_le {items : List Json} (h : (array items).depth ≤ n)
    : ∃ m, n = m + 1 ∧ ∀ j ∈ items, j.depth ≤ m := by
  cases n with
  | zero =>
    rw [depth] at h
    contradiction
  | succ m =>
    refine ⟨m, rfl, ?_⟩
    intro j hj
    have := depth_le_depthOfAll hj
    rw [depth] at h
    omega

theorem exists_of_depth_object_le {members : List (String × Json)}
    (h : (object members).depth ≤ n) : ∃ m, n = m + 1 ∧ ∀ j ∈ members.map (·.2), j.depth ≤ m := by
  cases n with
  | zero =>
    rw [depth] at h
    contradiction
  | succ m =>
    refine ⟨m, rfl, ?_⟩
    intro j hj
    obtain ⟨member, hmember, rfl⟩ := List.mem_map.mp hj
    have := depth_le_depthOfMembers hmember
    rw [depth] at h
    omega

end Json

namespace Decoder

variable {α : Type} {d : Decoder α} {P : α → Prop} {encode : α → Json}

/-- Everything that can be read has the property. -/
def Yields (d : Decoder α) (P : α → Prop) : Prop := ∀ n j a, d n j = some a → P a

/-- The value is read from the JSON value it is written as. -/
def ReadsBack (d : Decoder α) (encode : α → Json) (a : α) : Prop :=
  ∀ n, (encode a).depth ≤ n → d n (encode a) = some a

theorem yields_true (d : Decoder α) : d.Yields fun _ => True := by
  intro n j a h
  trivial

theorem Yields.option (h : d.Yields P) : d.option.Yields fun o => ∀ a ∈ o, P a := by
  intro n j o ho a ha
  cases j with
  | null =>
    cases ho
    contradiction
  | _ =>
    obtain ⟨b, hb, rfl⟩ := Option.map_eq_some_iff.mp ho
    cases ha
    exact h n _ a hb

theorem mapM_eq_some_iff {β : Type} {f : α → Option β} {as : List α} {bs : List β}
    : as.mapM f = some bs ↔ as.map f = bs.map some := by
  induction as generalizing bs with
  | nil => cases bs <;> simp
  | cons a as ih =>
    cases bs with
    | nil => simp [Option.bind_eq_some_iff]
    | cons b bs =>
      simp only [List.mapM_cons, Option.bind_eq_bind, Option.bind_eq_some_iff, Option.pure_def,
        Option.some.injEq, List.cons.injEq, List.map_cons, ← ih]
      constructor
      . rintro ⟨b, hb, bs, hbs, rfl, rfl⟩
        exact ⟨hb, hbs⟩
      . rintro ⟨hb, hbs⟩
        exact ⟨b, hb, bs, hbs, rfl, rfl⟩

theorem Yields.list (h : d.Yields P) : d.list.Yields fun as => ∀ a ∈ as, P a := by
  intro n j as has a ha
  unfold Decoder.list at has
  split at has
  . next n items =>
    rw [mapM_eq_some_iff] at has
    have hmem : some a ∈ items.map (d n) := by
      rw [has]
      exact List.mem_map_of_mem ha
    obtain ⟨item, -, hitem⟩ := List.mem_map.mp hmem
    exact h n item a hitem
  . contradiction

theorem readsBack_list {as : List α} (h : ∀ a ∈ as, d.ReadsBack encode a)
    : d.list.ReadsBack (fun as => .array (as.map encode)) as := by
  intro n hdepth
  obtain ⟨m, rfl, hitems⟩ := Json.exists_of_depth_array_le hdepth
  rw [Decoder.list, mapM_eq_some_iff, List.map_map]
  apply List.map_congr_left
  intro a ha
  exact h a ha m (hitems _ (List.mem_map_of_mem ha))

theorem readsBack_option {o : Option α} (h : ∀ a ∈ o, d.ReadsBack encode a)
    (hnull : ∀ a ∈ o, encode a ≠ .null) : d.option.ReadsBack (Json.ofOption encode) o := by
  intro n hdepth
  cases o with
  | none => rfl
  | some a =>
    have hread := h a rfl n hdepth
    have hne := hnull a rfl
    unfold Json.ofOption Decoder.option
    split
    . contradiction
    . rw [hread]
      rfl

variable {keys : List String} {values : List Json}

theorem field?_cons_self {key : String} {j : Json} (h : key ∉ keys)
    : field? ((key, j) :: keys.zip values) key = some (.given j) := by
  have hnil : (keys.zip values).filter (fun member => member.1 == key) = [] := by
    rw [List.filter_eq_nil_iff]
    intro member hmember heq
    rw [← beq_iff_eq.mp heq] at h
    exact h (List.of_mem_zip hmember).1
  simp [field?, valuesOf, hnil]

theorem field?_cons_of_ne {key other : String} {j : Json} {members : List (String × Json)}
    (h : other ≠ key) : field? ((other, j) :: members) key = field? members key := by
  simp [field?, valuesOf, h]

theorem map_field?_zip (hkeys : keys.Nodup) (hlength : values.length = keys.length)
    : keys.map (field? (keys.zip values)) = (values.map Json.Field.given).map some := by
  induction keys generalizing values with
  | nil =>
    rw [List.length_eq_zero_iff.mp hlength]
    rfl
  | cons key keys ih =>
    cases values with
    | nil => contradiction
    | cons j values =>
      rw [List.nodup_cons] at hkeys
      rw [List.zip_cons_cons, List.map_cons, field?_cons_self hkeys.1]
      apply congrArg (_ :: ·)
      rw [← ih hkeys.2 (Nat.succ.inj hlength)]
      apply List.map_congr_left
      intro other hother
      apply field?_cons_of_ne
      rintro rfl
      exact hkeys.1 hother

theorem exists_record {j : Json} {n : Nat} (hdepth : j.depth ≤ n) (keys : List String)
    (values : List Json) (hj : j = .object (keys.zip values)) (hkeys : keys.Nodup)
    (hlength : values.length = keys.length)
    : ∃ m, record keys n j = some (m, values.map .given) ∧ ∀ v ∈ values, v.depth ≤ m := by
  subst hj
  obtain ⟨m, rfl, hvalues⟩ := Json.exists_of_depth_object_le hdepth
  refine ⟨m, ?_, ?_⟩
  . rw [record, mapM_eq_some_iff.mpr (map_field?_zip hkeys hlength)]
    rfl
  . intro v hv
    apply hvalues
    rw [List.map_snd_zip (Nat.le_of_eq hlength)]
    exact hv

end Decoder

namespace Json.Field

variable {α : Type} {d : Decoder α} {P : α → Prop} {field : Field} {n : Nat}

@[simp]
theorem required_given (d : Decoder α) (n : Nat) (j : Json) : (given j).required d n = d n j := rfl

@[simp]
theorem withDefault_given (default : α) (d : Decoder α) (n : Nat) (j : Json)
    : (given j).withDefault default d n = d n j := rfl

@[simp]
theorem nullable_given (d : Decoder α) (n : Nat) (j : Json)
    : (given j).nullable d n = d.option n j := rfl

theorem required_yields (hd : d.Yields P) {a : α} (h : field.required d n = some a) : P a := by
  cases field with
  | given j => exact hd n j a h
  | _ => contradiction

theorem withDefault_yields (hd : d.Yields P) {default a : α} (hdefault : P default)
    (h : field.withDefault default d n = some a) : P a := by
  cases field with
  | given j => exact hd n j a h
  | _ =>
    cases h
    exact hdefault

theorem optional_yields (hd : d.Yields P) {o : Option α}
    (h : field.withDefault none d.option n = some o) : ∀ a ∈ o, P a := by
  have hnone : ∀ a ∈ (none : Option α), P a := nofun
  exact withDefault_yields hd.option hnone h

theorem listed_yields (hd : d.Yields P) {as : List α} (h : field.withDefault [] d.list n = some as)
    : ∀ a ∈ as, P a := by
  have hnil : ∀ a ∈ ([] : List α), P a := nofun
  exact withDefault_yields hd.list hnil h

theorem nullable_yields (hd : d.Yields P) {o : Option α} (h : field.nullable d n = some o)
    : ∀ a ∈ o, P a := by
  cases field with
  | given j => exact hd.option n j o h
  | noKey =>
    cases h
    nofun
  | noItem => contradiction

end Json.Field

end OperatorLowering
