import OperatorLowering.Proofs.Lexing

/-!
White space and comments around tokens. Tokens that are kept apart by white space are read as they
were written, each at its own bytes, whatever else stands between them.
-/

namespace OperatorLowering

namespace Text

theorem byteLength_append (cs ds : List Char)
    : byteLength (cs ++ ds) = byteLength cs + byteLength ds := by
  induction cs with
  | nil => simp [byteLength]
  | cons c cs ih =>
    simp only [List.cons_append, byteLength, ih]
    omega

theorem byteLength_toList (s : String) : byteLength s.toList = s.utf8ByteSize := by
  suffices ∀ cs, byteLength cs = (String.ofList cs).utf8ByteSize by
    rw [this, String.ofList_toList]
  intro cs
  induction cs with
  | nil => rfl
  | cons c cs ih =>
    have : String.ofList (c :: cs) = String.singleton c ++ String.ofList cs := by
      rw [String.singleton_eq_ofList, ← String.ofList_append]
      rfl
    rw [this, String.utf8ByteSize_append, String.utf8ByteSize_singleton, byteLength, ih]

end Text

namespace Token

def EndsLine (cs : List Char) : Prop := ∀ c ∈ cs.head?, c = '\n'

/--
White space and comments in front of `after`; each comment runs to the next line feed or the end of
the text.
-/
inductive IsSkipped (after : List Char) : List Char → Prop where
  | nil : IsSkipped after []
  | space {c : Char} {cs : List Char} (hc : isSpace c = true) (h : IsSkipped after cs)
    : IsSkipped after (c :: cs)
  | comment {body cs : List Char} (hbody : '\n' ∉ body) (hend : EndsLine (cs ++ after))
    (h : IsSkipped after cs) : IsSkipped after ('/' :: '/' :: (body ++ cs))

/-- White space and comments that end with a line feed. -/
inductive IsLayout : List Char → Prop where
  | nil : IsLayout []
  | space {c : Char} {cs : List Char} (hc : isSpace c = true) (h : IsLayout cs)
    : IsLayout (c :: cs)
  | comment {body cs : List Char} (hbody : '\n' ∉ body) (h : IsLayout cs)
    : IsLayout ('/' :: '/' :: (body ++ '\n' :: cs))

def IsSeparator (cs : List Char) : Prop :=
  ∃ c layout, cs = c :: layout ∧ isSpace c = true ∧ IsLayout layout

variable {c : Char} {cs after rest body : List Char} {offset : Nat}

theorem IsLayout.isSkipped (h : IsLayout cs) (after : List Char) : IsSkipped after cs := by
  induction h with
  | nil => exact .nil
  | space hc _ ih => exact .space hc ih
  | comment hbody _ ih =>
    refine .comment hbody ?_ (.space rfl ih)
    rintro _ ⟨⟩
    rfl

theorem IsSeparator.isLayout (h : IsSeparator cs) : IsLayout cs := by
  obtain ⟨c, layout, rfl, hc, h⟩ := h
  exact .space hc h

theorem IsSeparator.isSeparated (h : IsSeparator cs) (rest : List Char)
    : IsSeparated (cs ++ rest) := by
  obtain ⟨c, layout, rfl, hc, -⟩ := h
  exact isSeparated_cons hc

theorem takeWhile_of_endsLine (h : EndsLine rest) : rest.takeWhile (· != '\n') = [] := by
  cases rest with
  | nil => rfl
  | cons c rest =>
    obtain rfl := h c rfl
    rfl

theorem scan_comment (hbody : '\n' ∉ body) (hrest : EndsLine rest)
    : scan '/' ('/' :: (body ++ rest)) = some (.skipped, '/' :: body, rest) := by
  have hne : ∀ c ∈ body, (c != '\n') = true := by
    intro c hc
    rw [bne_iff_ne]
    rintro rfl
    contradiction
  have htake : (body ++ rest).takeWhile (· != '\n') = body := by
    rw [List.takeWhile_append_of_pos hne, takeWhile_of_endsLine hrest, List.append_nil]
  have hdrop : (body ++ rest).dropWhile (· != '\n') = rest := by
    have := List.takeWhile_append_dropWhile (p := (· != '\n')) (l := body ++ rest)
    rw [htake] at this
    exact List.append_cancel_left this
  change some (Piece.skipped, '/' :: (body ++ rest).takeWhile (· != '\n'),
    (body ++ rest).dropWhile (· != '\n')) = _
  rw [htake, hdrop]

theorem lex_skipped (h : IsSkipped after cs)
    : lex offset (cs ++ after) = lex (offset + Text.byteLength cs) after := by
  induction h generalizing offset with
  | nil => rfl
  | space hc _ ih =>
    rw [List.cons_append, lex_space hc, ih, Text.byteLength, Nat.add_assoc]
  | comment hbody hend _ ih =>
    rw [List.cons_append, List.cons_append, List.append_assoc,
      lex_of_skipped (scan_comment hbody hend), ih]
    simp only [Text.byteLength, Text.byteLength_append, Nat.add_assoc]

/-- Texts and tokens in turn. -/
def written : List (String × Token) → String
  | [] => ""
  | (gap, t) :: line => gap ++ t.text ++ written line

/-- The tokens of a line that is written from byte `offset` on. -/
def placed (offset : Nat) : List (String × Token) → List (Spanned Token)
  | [] => []
  | (gap, t) :: line =>
    let start := offset + gap.utf8ByteSize
    let stop := start + t.text.utf8ByteSize
    ⟨t, ⟨start, stop⟩⟩ :: placed stop line

/--
Every token can be written, and white space keeps it apart from the token before. The layout after
the last token may end within a comment.
-/
structure IsLaidOut (line : List (String × Token)) (trailer : String) : Prop where
  isSpelled : ∀ item ∈ line, item.2.IsSpelled
  isLayout_head : ∀ item ∈ line.head?, IsLayout item.1.toList
  isSeparator_tail : ∀ item ∈ line.tail, IsSeparator item.1.toList
  isSkipped_trailer : IsSkipped [] trailer.toList
  isSeparated_trailer : line ≠ [] → IsSeparated trailer.toList

namespace IsLaidOut

variable {line : List (String × Token)} {item : String × Token} {trailer : String}

theorem of_cons (h : IsLaidOut (item :: line) trailer) : IsLaidOut line trailer where
  isSpelled next hnext := h.isSpelled next (.tail _ hnext)
  isLayout_head next hnext := (h.isSeparator_tail next (List.mem_of_mem_head? hnext)).isLayout
  isSeparator_tail next hnext := h.isSeparator_tail next (List.mem_of_mem_tail hnext)
  isSkipped_trailer := h.isSkipped_trailer
  isSeparated_trailer _ := h.isSeparated_trailer nofun

theorem isSeparated_rest (h : IsLaidOut (item :: line) trailer)
    : IsSeparated ((written line).toList ++ trailer.toList) := by
  cases line with
  | nil => exact h.isSeparated_trailer nofun
  | cons next line =>
    have hgap := h.isSeparator_tail next List.mem_cons_self
    rw [written, String.append_assoc, String.toList_append, List.append_assoc]
    exact hgap.isSeparated _

theorem lex_written (h : IsLaidOut line trailer) (offset : Nat)
    : lex offset ((written line).toList ++ trailer.toList) = .ok (placed offset line) := by
  induction line generalizing offset with
  | nil =>
    have hlex : lex offset (trailer.toList ++ []) = _ := lex_skipped h.isSkipped_trailer
    rw [List.append_nil, lex] at hlex
    exact hlex
  | cons item line ih =>
    have hgap := (h.isLayout_head item rfl).isSkipped
    have ht := h.isSpelled item List.mem_cons_self
    rw [written, String.toList_append, String.toList_append, List.append_assoc, List.append_assoc,
      lex_skipped (hgap _), lex_text_append ht h.isSeparated_rest, ih h.of_cons]
    simp only [Text.byteLength_toList]
    rfl

end IsLaidOut

section Spaced

variable {ts : List Token}

/-- A line with one space between any two tokens. -/
def spaced : List Token → List (String × Token)
  | [] => []
  | t :: ts => ("", t) :: ts.map fun t => (" ", t)

theorem isLaidOut_spaced (h : ∀ t ∈ ts, t.IsSpelled) : IsLaidOut (spaced ts) "" := by
  cases ts with
  | nil => exact ⟨nofun, nofun, nofun, .nil, nofun⟩
  | cons t ts =>
    rw [List.forall_mem_cons] at h
    refine ⟨?_, ?_, ?_, .nil, fun _ => isSeparated_nil⟩
    . rw [spaced, List.forall_mem_cons, List.forall_mem_map]
      exact h
    . rintro _ ⟨⟩
      exact .nil
    . rw [spaced, List.tail_cons, List.forall_mem_map]
      intro t _
      have hgap : " ".toList = [' '] := by decide
      exact ⟨' ', [], hgap, rfl, .nil⟩

theorem written_spaced (ts : List Token)
    : written (spaced ts) = " ".intercalate (ts.map Token.text) := by
  cases ts with
  | nil => rfl
  | cons t ts =>
    rw [spaced, written, String.empty_append]
    induction ts generalizing t with
    | nil => simp [written]
    | cons next ts ih =>
      simp only [List.map_cons, written, String.intercalate_cons_cons, String.append_assoc] at ih ⊢
      rw [ih]

theorem nodes_placed (offset : Nat) (line : List (String × Token))
    : (placed offset line).map Spanned.node = line.map Prod.snd := by
  induction line generalizing offset with
  | nil => rfl
  | cons item line ih => simp [placed, ih]

theorem nodes_placed_spaced (offset : Nat) (ts : List Token)
    : (placed offset (spaced ts)).map Spanned.node = ts := by
  rw [nodes_placed]
  cases ts with
  | nil => rfl
  | cons t ts => simp [spaced, Function.comp_def]

end Spaced

end Token

/-- Tokens that are kept apart by white space are read as they were written. -/
theorem tokens_are_read_in_any_layout (line : List (String × Token)) (trailer : String)
    (h : Token.IsLaidOut line trailer)
    : Token.tokenize (Token.written line ++ trailer) = .ok (Token.placed 0 line) := by
  unfold Token.tokenize
  rw [String.toList_append]
  exact h.lex_written 0

-- The comments hold operators, a character of two bytes and, at the end, no line feed.
theorem power_is_read_between_comments
    : let line : List (String × Token) :=
        [("//+\n", .ident "as.b"), ("\t// é **\n", .starStar), ("\r\n", .ident "x")]
      Token.IsLaidOut line " // end" ∧
        Token.tokenize "//+\nas.b\t// é **\n**\r\nx // end" =
          .ok [⟨.ident "as.b", ⟨4, 8⟩⟩, ⟨.starStar, ⟨18, 20⟩⟩, ⟨.ident "x", ⟨22, 23⟩⟩] := by
  intro line
  have hline : Token.IsLaidOut line " // end" := by
    refine ⟨?_, ?_, ?_, ?_, ?_⟩
    . simp only [line, List.forall_mem_cons]
      exact ⟨⟨by decide, by decide⟩, trivial, ⟨by decide, by decide⟩, nofun⟩
    . rintro _ ⟨⟩
      exact @Token.IsLayout.comment ['+'] [] (by decide) .nil
    . simp only [line, List.tail_cons, List.forall_mem_cons]
      refine ⟨⟨'\t', _, rfl, rfl, ?_⟩, ⟨'\r', _, rfl, rfl, ?_⟩, nofun⟩
      . exact @Token.IsLayout.comment " é **".toList [] (by decide) .nil
      . exact .space rfl .nil
    . refine .space rfl ?_
      exact @Token.IsSkipped.comment [] " end".toList [] (by decide) nofun .nil
    . rintro - _ ⟨⟩
      rfl
  have htext : Token.written line ++ " // end" = "//+\nas.b\t// é **\n**\r\nx // end" := by
    decide
  refine ⟨hline, ?_⟩
  rw [← htext, tokens_are_read_in_any_layout line " // end" hline]
  apply congrArg Except.ok
  decide

end OperatorLowering
