import OperatorLowering.Token.Lexer

/-!
Names and tokens as the lexer sees them: the text of a token is read as that token where something
follows that cannot belong to it.
-/

namespace OperatorLowering

namespace Token

def IsSegment (cs : List Char) : Prop :=
  ∃ c rest, cs = c :: rest ∧ isNameStart c = true ∧ ∀ d ∈ rest, isNamePart d = true

/-- A simple or qualified name: segments with dots between them. -/
inductive IsName : List Char → Prop where
  | segment {cs : List Char} (h : IsSegment cs) : IsName cs
  | dotted {cs rest : List Char} (h : IsSegment cs) (hrest : IsName rest)
    : IsName (cs ++ '.' :: rest)

variable {c d : Char} {cs rest lexeme : List Char}

theorem splitName_cons (h : isNamePart d = true)
    : splitName (d :: cs) = (d :: (splitName cs).1, (splitName cs).2) := by
  have hdot : d ≠ '.' := by
    rintro rfl
    contradiction
  rw [splitName]
  . simp [h]
  . intro e es hd
    exact absurd hd hdot

theorem splitName_segment (h : ∀ d ∈ cs, isNamePart d = true)
    : splitName (cs ++ rest) = (cs ++ (splitName rest).1, (splitName rest).2) := by
  induction cs with
  | nil => rfl
  | cons d cs ih =>
    rw [List.cons_append, splitName_cons (h d List.mem_cons_self), ih fun x hx => h x (.tail _ hx)]
    rfl

theorem splitName_dot (h : isNameStart c = true)
    : splitName ('.' :: c :: cs) = ('.' :: c :: (splitName cs).1, (splitName cs).2) := by
  rw [splitName]
  simp [h]

/-- The text cannot go on with a name that stands before it. -/
def EndsName (cs : List Char) : Prop := ∀ c ∈ cs.head?, isNamePart c = false ∧ c ≠ '.'

theorem splitName_of_endsName (h : EndsName rest) : splitName rest = ([], rest) := by
  cases rest with
  | nil => rfl
  | cons c cs =>
    obtain ⟨hpart, hdot⟩ := h c rfl
    rw [splitName]
    . simp [hpart]
    . intro e es hc
      exact absurd hc hdot

-- The name of the induction hypothesis is a whole name, so its start is split off again.
theorem IsName.exists_splitName (h : IsName cs)
    : ∃ c tail, cs = c :: tail ∧ isNameStart c = true ∧
        ∀ rest, EndsName rest → splitName (tail ++ rest) = (tail, rest) := by
  induction h with
  | segment h =>
    obtain ⟨c, tail, rfl, hc, htail⟩ := h
    refine ⟨c, tail, rfl, hc, ?_⟩
    intro rest hrest
    rw [splitName_segment htail, splitName_of_endsName hrest, List.append_nil]
  | dotted h _ ih =>
    obtain ⟨c, tail, rfl, hc, htail⟩ := h
    obtain ⟨d, more, rfl, hd, hmore⟩ := ih
    refine ⟨c, tail ++ '.' :: d :: more, rfl, hc, ?_⟩
    intro rest hrest
    rw [List.append_assoc, splitName_segment htail, List.cons_append, List.cons_append,
      splitName_dot hd, hmore rest hrest]

theorem IsName.insert (h : IsName (c :: cs)) (hd : isNamePart d = true)
    : IsName (c :: d :: cs) := by
  generalize hname : c :: cs = name at h
  cases h with
  | segment h =>
    obtain ⟨_, tail, rfl, hc, htail⟩ := h
    cases hname
    refine .segment ⟨c, d :: cs, rfl, hc, ?_⟩
    simpa [hd] using htail
  | @dotted segment rest h hrest =>
    obtain ⟨_, tail, rfl, hc, htail⟩ := h
    cases hname
    have hsegment : IsSegment (c :: d :: tail) := by
      refine ⟨c, d :: tail, rfl, hc, ?_⟩
      simpa [hd] using htail
    exact .dotted hsegment hrest

theorem isName_of_splitName (hc : isNameStart c = true) (h : (splitName cs).2 = [])
    : IsName (c :: cs) := by
  induction cs using splitName.induct generalizing c with
  | case1 => exact .segment ⟨c, [], rfl, hc, nofun⟩
  | case2 d cs hd _ _ _ ih =>
    rw [splitName_dot hd] at h
    exact .dotted ⟨c, [], rfl, hc, nofun⟩ (ih hd h)
  | case3 d cs hd =>
    rw [splitName] at h
    simp [hd] at h
  | case4 d cs _ hd _ _ _ ih =>
    rw [splitName_cons hd] at h
    exact (ih hc h).insert hd
  | case5 d cs hdot hd =>
    rw [splitName] at h
    . simp [hd] at h
    . exact hdot

theorem isName_cons_iff : IsName (c :: cs) ↔ isNameStart c = true ∧ (splitName cs).2 = [] := by
  constructor
  . intro h
    obtain ⟨_, _, heq, hc, htail⟩ := h.exists_splitName
    cases heq
    have := htail [] nofun
    rw [List.append_nil] at this
    exact ⟨hc, by rw [this]⟩
  . rintro ⟨hc, h⟩
    exact isName_of_splitName hc h

theorem not_isName_nil : ¬IsName [] := by
  intro h
  obtain ⟨_, _, heq, -⟩ := h.exists_splitName
  contradiction

instance : DecidablePred IsName
  | [] => .isFalse not_isName_nil
  | _ :: _ => decidable_of_iff _ isName_cons_iff.symm

/-- The token can be written: an identifier is a name, and not the keyword. -/
def IsSpelled : Token → Prop
  | ident name => IsName name.toList ∧ name ≠ "as"
  | _ => True

def IsSeparated (cs : List Char) : Prop := ∀ c ∈ cs.head?, isSpace c = true

theorem isSeparated_nil : IsSeparated [] := by
  intro c hc
  contradiction

theorem isSeparated_cons (h : isSpace c = true) : IsSeparated (c :: cs) := by
  rintro _ ⟨⟩
  exact h

theorem isNamePart_eq_false_of_isSpace (h : isSpace c = true) : isNamePart c = false ∧ c ≠ '.' := by
  simp only [isSpace, Bool.or_eq_true, beq_iff_eq] at h
  rcases h with ((rfl | rfl) | rfl) | rfl <;> decide

theorem IsSeparated.endsName (h : IsSeparated rest) : EndsName rest := by
  intro c hc
  exact isNamePart_eq_false_of_isSpace (h c hc)

theorem isSpace_eq_false_of_isNameStart (h : isNameStart c = true) : isSpace c = false := by
  rw [← Bool.not_eq_true]
  intro hspace
  have := (isNamePart_eq_false_of_isSpace hspace).1
  simp [isNamePart, h] at this

theorem scan_of_isNameStart (hc : isNameStart c = true)
    : scan c cs =
        some (.token (ofName (String.ofList (c :: (splitName cs).1))), (splitName cs).1,
          (splitName cs).2) := by
  simp [scan, isSpace_eq_false_of_isNameStart hc, hc]

theorem IsName.exists_scan {name : String} (h : IsName name.toList)
    : ∃ c tail, name.toList = c :: tail ∧
        ∀ rest, IsSeparated rest →
          scan c (tail ++ rest) = some (.token (ofName name), tail, rest) := by
  obtain ⟨c, tail, hname, hc, htail⟩ := h.exists_splitName
  refine ⟨c, tail, hname, ?_⟩
  intro rest hrest
  rw [scan_of_isNameStart hc, htail rest hrest.endsName, ← hname, String.ofList_toList]

-- Of all symbols only these two could be the beginning of something longer.
theorem scan_star (h : rest.head? ≠ some '*') : scan '*' rest = some (.token .star, [], rest) := by
  unfold scan
  split
  . contradiction
  . split
    . contradiction
    . split <;> simp_all

theorem scan_slash (h : rest.head? ≠ some '/')
    : scan '/' rest = some (.token .slash, [], rest) := by
  unfold scan
  split
  . contradiction
  . split
    . contradiction
    . split <;> simp_all

theorem IsSeparated.head?_ne (h : IsSeparated rest) (hc : isSpace c = false)
    : rest.head? ≠ some c := by
  intro hhead
  have := h c hhead
  rw [hc] at this
  contradiction

theorem exists_scan_text {t : Token} (h : t.IsSpelled)
    : ∃ c tail, t.text.toList = c :: tail ∧
        ∀ rest, IsSeparated rest → scan c (tail ++ rest) = some (.token t, tail, rest) := by
  cases t with
  | asKeyword =>
    have hname : IsName "as".toList := by decide
    exact hname.exists_scan
  | ident name =>
    have hscan := h.1.exists_scan
    have htoken : ofName name = ident name := if_neg (by simpa using h.2)
    rw [htoken] at hscan
    exact hscan
  | starStar => exact ⟨'*', ['*'], rfl, fun _ _ => rfl⟩
  | star => exact ⟨'*', [], rfl, fun _ hrest => scan_star (hrest.head?_ne rfl)⟩
  | slash => exact ⟨'/', [], rfl, fun _ hrest => scan_slash (hrest.head?_ne rfl)⟩
  | _ => exact ⟨_, [], rfl, fun _ _ => rfl⟩

section Lex

variable {offset : Nat} {t : Token}

theorem lex_of_token (h : scan c cs = some (.token t, lexeme, rest))
    : lex offset (c :: cs) =
        match lex (offset + c.utf8Size + Text.byteLength lexeme) rest with
        | .ok tokens =>
          .ok (⟨t, ⟨offset, offset + c.utf8Size + Text.byteLength lexeme⟩⟩ :: tokens)
        | .error e => .error e := by
  rw [lex]
  split
  . next hnone =>
    rw [h] at hnone
    contradiction
  . next hsome =>
    rw [h] at hsome
    cases hsome
    rfl

theorem lex_of_skipped (h : scan c cs = some (.skipped, lexeme, rest))
    : lex offset (c :: cs) = lex (offset + c.utf8Size + Text.byteLength lexeme) rest := by
  rw [lex]
  split
  . next hnone =>
    rw [h] at hnone
    contradiction
  . next hsome =>
    rw [h] at hsome
    cases hsome
    rfl

theorem lex_text_append (h : t.IsSpelled) (hrest : IsSeparated rest)
    : lex offset (t.text.toList ++ rest) =
        match lex (offset + Text.byteLength t.text.toList) rest with
        | .ok tokens => .ok (⟨t, ⟨offset, offset + Text.byteLength t.text.toList⟩⟩ :: tokens)
        | .error e => .error e := by
  obtain ⟨c, tail, htext, hscan⟩ := exists_scan_text h
  rw [htext, List.cons_append, lex_of_token (hscan rest hrest)]
  simp only [Text.byteLength, Nat.add_assoc]

theorem lex_space (h : isSpace c = true) : lex offset (c :: cs) = lex (offset + c.utf8Size) cs := by
  have hscan : scan c cs = some (.skipped, [], cs) := if_pos h
  exact lex_of_skipped hscan

end Lex

end Token

end OperatorLowering
