import OperatorLowering.Proofs.Layout

/-!
One step of the lexer. Whatever a step takes off a text as a token is the longest thing that matches
there, and it takes nothing off only where no match can start.
-/

namespace OperatorLowering

namespace Token

/-- A text that the pattern of some token matches. -/
def IsLexeme (cs : List Char) : Prop := ∃ t : Token, t.IsSpelled ∧ t.text.toList = cs

/-- A text that is skipped in one step: white space or a comment. -/
def IsSkip (cs : List Char) : Prop :=
  (cs ≠ [] ∧ ∀ c ∈ cs, isSpace c = true) ∨ ∃ body, cs = '/' :: '/' :: body ∧ '\n' ∉ body

def IsMatch (cs : List Char) : Prop := IsLexeme cs ∨ IsSkip cs

variable {c : Char} {cs rest lexeme body name : List Char} {t : Token} {piece : Piece}

theorem IsName.isNameStart_head (h : IsName (c :: cs)) : isNameStart c = true :=
  (isName_cons_iff.mp h).1

theorem IsSpelled.isName (h : t.IsSpelled) (htext : t.text.toList = c :: cs)
    (hc : isNameStart c = true) : IsName (c :: cs) := by
  rw [← htext]
  cases t with
  | asKeyword => decide
  | ident name => exact h.1
  | _ =>
    cases htext
    contradiction

/-- The characters that the tokens other than names start with. -/
def symbolStarts : List Char := [':', '!', '?', '+', '-', '*', '/', '%']

theorem IsSpelled.symbol_cases (h : t.IsSpelled) (htext : t.text.toList = c :: cs)
    (hc : isNameStart c = false) : c ∈ symbolStarts ∧ (cs = [] ∨ (c = '*' ∧ cs = ['*'])) := by
  cases t with
  | asKeyword =>
    cases htext
    contradiction
  | ident name =>
    have hname : IsName (c :: cs) := htext ▸ h.1
    rw [isName_cons_iff, hc] at hname
    exact absurd hname.1 Bool.false_ne_true
  | starStar =>
    cases htext
    exact ⟨by decide, .inr ⟨rfl, rfl⟩⟩
  | _ =>
    cases htext
    exact ⟨by decide, .inl rfl⟩

theorem IsSpelled.isSpace_eq_false (h : t.IsSpelled) (htext : t.text.toList = c :: cs)
    : isSpace c = false := by
  cases t with
  | ident name =>
    have hname : IsName (c :: cs) := htext ▸ h.1
    exact isSpace_eq_false_of_isNameStart hname.isNameStart_head
  | _ =>
    cases htext
    rfl

theorem IsMatch.cases (h : IsMatch (c :: cs))
    : isSpace c = true ∨ (c = '/' ∧ cs.head? = some '/') ∨ IsName (c :: cs) ∨
        (isNameStart c = false ∧ c ∈ symbolStarts ∧ (cs = [] ∨ (c = '*' ∧ cs = ['*']))) := by
  rcases h with ⟨t, ht, htext⟩ | ⟨-, hspace⟩ | ⟨body, heq, -⟩
  . right
    right
    cases hc : isNameStart c with
    | true => exact .inl (ht.isName htext hc)
    | false => exact .inr ⟨rfl, ht.symbol_cases htext hc⟩
  . left
    exact hspace c List.mem_cons_self
  . right
    left
    cases heq
    exact ⟨rfl, rfl⟩

/--
One step of the lexer: what a text that starts with a character begins with, which other characters
belong to it, and what comes after.
-/
inductive Scans : Char → Piece → List Char → List Char → Prop where
  | space {c : Char} {rest : List Char} (hc : isSpace c = true) : Scans c .skipped [] rest
  | comment {body rest : List Char} (hbody : '\n' ∉ body) (hrest : EndsLine rest)
    : Scans '/' .skipped ('/' :: body) rest
  | name {c : Char} {name rest : List Char} (hname : IsName (c :: name))
    (hrest : (splitName rest).1 = [])
    : Scans c (.token (ofName (String.ofList (c :: name)))) name rest
  | starStar {rest : List Char} : Scans '*' (.token .starStar) ['*'] rest
  | symbol {c : Char} {rest : List Char} {t : Token} (hc : isNameStart c = false)
    (ht : t.IsSpelled) (htext : t.text.toList = [c]) (hstar : c = '*' → rest.head? ≠ some '*')
    (hslash : c = '/' → rest.head? ≠ some '/') : Scans c (.token t) [] rest

theorem splitName_append_of_consumed (h : (splitName cs).2 = []) (rest : List Char)
    : splitName (cs ++ rest) = (cs ++ (splitName rest).1, (splitName rest).2) := by
  induction cs using splitName.induct with
  | case1 => rfl
  | case2 d cs hd _ _ _ ih =>
    rw [splitName_dot hd] at h
    rw [List.cons_append, List.cons_append, splitName_dot hd, ih h]
    rfl
  | case3 d cs hd => simp [splitName, hd] at h
  | case4 d cs _ hd _ _ _ ih =>
    rw [splitName_cons hd] at h
    rw [List.cons_append, splitName_cons hd, ih h]
    rfl
  | case5 d cs hdot hd => simp [splitName, hd] at h

theorem splitName_fst_append (cs rest : List Char)
    : (splitName cs).1 <+: (splitName (cs ++ rest)).1 := by
  induction cs using splitName.induct with
  | case1 => apply List.nil_prefix
  | case2 d cs hd _ _ _ ih =>
    rw [List.cons_append, List.cons_append, splitName_dot hd, splitName_dot hd]
    simpa using ih
  | case3 d cs hd => simp [splitName, hd]
  | case4 d cs _ hd _ _ _ ih =>
    rw [List.cons_append, splitName_cons hd, splitName_cons hd]
    simpa using ih
  | case5 d cs hdot hd => simp [splitName, hd]

theorem IsName.splitName_eq (h : IsName (c :: name)) (hrest : (splitName rest).1 = [])
    : splitName (name ++ rest) = (name, rest) := by
  have hsplit := splitName_append rest
  rw [hrest, List.nil_append] at hsplit
  rw [splitName_append_of_consumed (isName_cons_iff.mp h).2, hrest, hsplit, List.append_nil]

theorem splitName_fst (cs : List Char) : (splitName (splitName cs).1).2 = [] := by
  induction cs using splitName.induct with
  | case1 => rfl
  | case2 d cs hd _ _ _ ih =>
    rw [splitName_dot hd, splitName_dot hd]
    exact ih
  | case3 d cs hd => simp [splitName, hd]
  | case4 d cs _ hd _ _ _ ih =>
    rw [splitName_cons hd, splitName_cons hd]
    exact ih
  | case5 d cs hdot hd => simp [splitName, hd]

theorem splitName_snd (cs : List Char) : (splitName (splitName cs).2).1 = [] := by
  induction cs using splitName.induct with
  | case1 => rfl
  | case2 d cs hd _ _ _ ih =>
    rw [splitName_dot hd]
    exact ih
  | case3 d cs hd => simp [splitName, hd]
  | case4 d cs _ hd _ _ _ ih =>
    rw [splitName_cons hd]
    exact ih
  | case5 d cs hdot hd => simp [splitName, hd]

theorem notMem_takeWhile_line (cs : List Char) : '\n' ∉ cs.takeWhile (· != '\n') := by
  intro hmem
  have := List.all_eq_true.mp List.all_takeWhile _ hmem
  contradiction

theorem endsLine_dropWhile (cs : List Char) : EndsLine (cs.dropWhile (· != '\n')) := by
  intro d hd
  have := List.head?_dropWhile_not (· != '\n') cs
  rw [hd] at this
  simpa using this

theorem scans_of_scan (h : scan c cs = some (piece, lexeme, rest)) : Scans c piece lexeme rest := by
  unfold scan at h
  split at h
  . next hc =>
    cases h
    exact .space hc
  . split at h
    . next hc =>
      cases h
      exact .name (isName_cons_iff.mpr ⟨hc, splitName_fst cs⟩) (splitName_snd cs)
    . split at h
      . cases h
        exact .comment (notMem_takeWhile_line _) (endsLine_dropWhile _)
      . cases h
        exact .starStar
      all_goals cases h
      all_goals refine .symbol rfl trivial rfl ?_ ?_
      all_goals simp_all [List.head?_eq_some_iff]

namespace Scans

theorem isSkipped (h : Scans c .skipped lexeme rest) : IsSkipped rest (c :: lexeme) := by
  cases h with
  | space hc => exact .space hc .nil
  | @comment body _ hbody hrest =>
    have : IsSkipped rest ('/' :: '/' :: (body ++ [])) := .comment hbody hrest .nil
    rw [List.append_nil] at this
    exact this

theorem text_eq (h : Scans c (.token t) lexeme rest) : t.text.toList = c :: lexeme := by
  cases h with
  | name =>
    unfold ofName
    split
    . next heq =>
      rw [← String.toList_ofList (l := c :: lexeme), beq_iff_eq.mp heq]
      rfl
    . apply String.toList_ofList
  | starStar => rfl
  | symbol _ _ htext => exact htext

theorem isSpelled (h : Scans c (.token t) lexeme rest) : t.IsSpelled := by
  cases h with
  | name hname =>
    unfold ofName
    split
    . trivial
    . next hne =>
      refine ⟨?_, by simpa using hne⟩
      rw [String.toList_ofList]
      exact hname
  | starStar => trivial
  | symbol _ ht => exact ht

theorem scan_eq (h : Scans c piece lexeme rest)
    : scan c (lexeme ++ rest) = some (piece, lexeme, rest) := by
  cases h with
  | space hc => exact if_pos hc
  | comment hbody hrest => exact scan_comment hbody hrest
  | name hname hrest =>
    rw [scan_of_isNameStart hname.isNameStart_head, hname.splitName_eq hrest]
  | starStar => rfl
  | @symbol _ _ t hc ht htext hstar hslash =>
    cases t with
    | star =>
      cases htext
      exact scan_star (hstar rfl)
    | slash =>
      cases htext
      exact scan_slash (hslash rfl)
    | ident name =>
      have hname : IsName [c] := htext ▸ ht.1
      rw [isName_cons_iff, hc] at hname
      exact absurd hname.1 Bool.false_ne_true
    | asKeyword | starStar => cases htext
    | _ =>
      cases htext
      rfl

theorem of_append {before after : List Char} (h : Scans c piece lexeme (before ++ after))
    : Scans c piece lexeme before := by
  have hhead {d : Char} (hd : before.head? = some d) : (before ++ after).head? = some d := by
    rw [List.head?_append, hd]
    rfl
  cases h with
  | space hc => exact .space hc
  | comment hbody hrest => exact .comment hbody fun d hd => hrest d (hhead hd)
  | name hname hrest =>
    apply Scans.name hname
    have := splitName_fst_append before after
    rw [hrest] at this
    exact List.prefix_nil.mp this
  | starStar => exact .starStar
  | symbol hc ht htext hstar hslash =>
    refine .symbol hc ht htext ?_ ?_
    . intro heq hd
      exact hstar heq (hhead hd)
    . intro heq hd
      exact hslash heq (hhead hd)

theorem longest (h : Scans c (.token t) lexeme rest) {other tail : List Char}
    (hother : IsMatch (c :: other)) (htext : other ++ tail = lexeme ++ rest)
    : other <+: lexeme := by
  have hspace := h.isSpelled.isSpace_eq_false h.text_eq
  cases h with
  | name hname hrest =>
    have hc := hname.isNameStart_head
    rcases hother.cases with hc' | ⟨rfl, -⟩ | hname' | ⟨hc', -⟩
    . simp [hspace] at hc'
    . contradiction
    . have hsplit := splitName_append_of_consumed (isName_cons_iff.mp hname').2 tail
      rw [htext, hname.splitName_eq hrest] at hsplit
      exact ⟨_, (congrArg Prod.fst hsplit).symm⟩
    . simp [hc] at hc'
  | starStar =>
    rcases hother.cases with hc' | ⟨hc', -⟩ | hname' | ⟨-, -, rfl | ⟨-, rfl⟩⟩
    . contradiction
    . contradiction
    . have := hname'.isNameStart_head
      contradiction
    . apply List.nil_prefix
    . apply List.prefix_refl
  | symbol hc _ _ hstar hslash =>
    rw [List.nil_append] at htext
    subst htext
    rcases hother.cases with hc' | ⟨hc', hhead⟩ | hname' | ⟨-, -, rfl | ⟨hc', rfl⟩⟩
    . simp [hspace] at hc'
    . apply absurd _ (hslash hc')
      rw [List.head?_append, hhead]
      rfl
    . simp [hname'.isNameStart_head] at hc
    . apply List.nil_prefix
    . exact absurd rfl (hstar hc')

end Scans

theorem not_isMatch_of_scan_eq_none (h : scan c cs = none) (other : List Char)
    : ¬ IsMatch (c :: other) := by
  have hsymbol : c ∉ symbolStarts := by
    intro hc
    simp only [symbolStarts, List.mem_cons, List.not_mem_nil, or_false] at hc
    unfold scan at h
    split at h
    . contradiction
    . split at h
      . contradiction
      . rcases hc with rfl | rfl | rfl | rfl | rfl | rfl | rfl | rfl <;> split at h <;> simp_all
  intro hmatch
  rcases hmatch.cases with hc | ⟨rfl, -⟩ | hname | ⟨-, hc, -⟩
  . simp [scan, hc] at h
  . contradiction
  . rw [scan_of_isNameStart hname.isNameStart_head] at h
    contradiction
  . contradiction

end Token

end OperatorLowering
