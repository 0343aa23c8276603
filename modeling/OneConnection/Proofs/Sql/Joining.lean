import OneConnection.Sql.Placeholder
import OneConnection.Text.Blank

/-!
# Pieces of joined texts

A text keeps its pieces when its placeholders get other numbers, and when other text follows it
behind a separator, as long as no quote pairs up with one of that text. Main statement:
`pieces_respell_append`.
-/

namespace OneConnection.Sql

open Text

/-! ## Numbers -/

theorem isAsciiDigit_of_isDigit {c : Char} (h : c.isDigit = true) : isAsciiDigit c = true := by
  simp only [Char.isDigit, Bool.and_eq_true, decide_eq_true_eq] at h
  simp only [isAsciiDigit, Bool.and_eq_true, decide_eq_true_eq]
  exact ⟨UInt32.le_iff_toNat_le.mp h.1, UInt32.le_iff_toNat_le.mp h.2⟩

theorem ofDigitChars_cons (value : Nat) (c : Char) (rest : List Char) :
    Nat.ofDigitChars 10 (c :: rest) value =
      Nat.ofDigitChars 10 rest (10 * value + digitValue c) :=
  Nat.ofDigitChars_cons

/-- Digits only make a number larger. -/
theorem le_ofDigitChars (value : Nat) (cs : List Char) : value ≤ Nat.ofDigitChars 10 cs value := by
  rw [Nat.ofDigitChars_eq_ofDigitChars_zero]
  have hle : value ≤ 10 ^ cs.length * value := Nat.le_mul_of_pos_left _ (Nat.pow_pos (by decide))
  omega

theorem readDigits_eq_ok {value : Nat} {cs : List Char} (hcs : ∀ c ∈ cs, isAsciiDigit c = true)
    (hfits : Nat.ofDigitChars 10 cs value < wordLimit) :
    readDigits value cs = .ok (Nat.ofDigitChars 10 cs value) := by
  induction cs generalizing value with
  | nil => rfl
  | cons c rest ih =>
    rw [ofDigitChars_cons] at hfits ⊢
    have hnext : 10 * value + digitValue c < wordLimit :=
      Nat.lt_of_le_of_lt (le_ofDigitChars _ rest) hfits
    unfold readDigits
    rw [if_pos (hcs c List.mem_cons_self)]
    dsimp only
    rw [if_pos hnext]
    exact ih (fun d hd => hcs d (List.mem_cons_of_mem _ hd)) hfits

theorem isAsciiDigit_of_mem_toDigits {n : Nat} {c : Char} (h : c ∈ Nat.toDigits 10 n) :
    isAsciiDigit c = true :=
  isAsciiDigit_of_isDigit (Nat.isDigit_of_mem_toDigits (by decide) (by decide) h)

theorem readNatural_toDigits (n : Nat) :
    readNatural (Nat.toDigits 10 n) = readDigits 0 (Nat.toDigits 10 n) := by
  unfold readNatural
  split
  · exact absurd ‹_› Nat.toDigits_ne_nil
  · have hplus := isAsciiDigit_of_mem_toDigits (n := n) (c := '+') (by simp [*])
    exact absurd hplus (by decide)
  · have hplus := isAsciiDigit_of_mem_toDigits (n := n) (c := '+') (by simp [*])
    exact absurd hplus (by decide)
  · rfl

/-- A number that is written out reads as itself. -/
theorem natural?_toDigits {n : Nat} (h : n < wordLimit) :
    natural? (Nat.toDigits 10 n) = some n := by
  have hvalue : Nat.ofDigitChars 10 (Nat.toDigits 10 n) 0 = n :=
    Nat.ofDigitChars_toDigits (by decide) (by decide)
  have hread : readDigits 0 (Nat.toDigits 10 n) = _ :=
    readDigits_eq_ok (fun _ => isAsciiDigit_of_mem_toDigits) (by rwa [hvalue])
  rw [natural?, readNatural_toDigits, hread, hvalue]
  rfl

theorem lt_of_readDigits {value v : Nat} {cs : List Char} (h : readDigits value cs = .ok v)
    (hvalue : value < wordLimit) : v < wordLimit := by
  fun_induction readDigits value cs with
  | case1 =>
    cases h
    exact hvalue
  | case2 value c rest hdigit next hnext ih => exact ih h hnext
  | case3 | case4 => cases h

/-- A number that can be read fits into a word. -/
theorem natural?_lt {cs : List Char} {n : Nat} (h : natural? cs = some n) : n < wordLimit := by
  have hread : readNatural cs = .ok n := by
    cases hcs : readNatural cs with
    | error why => simp [natural?, hcs, Except.toOption] at h
    | ok v => simpa [natural?, hcs, Except.toOption] using h
  unfold readNatural at hread
  split at hread
  · cases hread
  · cases hread
  · exact lt_of_readDigits hread (by decide)
  · exact lt_of_readDigits hread (by decide)

/-! ## Literals -/

theorem splitLiteral_quote {cs : List Char} (h : cs.head? ≠ some '\'') :
    splitLiteral ('\'' :: cs) = some (['\''], cs) := by
  rw [splitLiteral]
  rintro rest rfl
  exact h rfl

theorem splitLiteral_other {c : Char} (h : c ≠ '\'') (cs : List Char) :
    splitLiteral (c :: cs) =
      match splitLiteral cs with
      | some (body, after) => some (c :: body, after)
      | none => none := by
  cases hcs : splitLiteral cs
  all_goals
    rw [splitLiteral, hcs]
    · exact fun _ hc _ => h hc
    · exact h

theorem splitLiteral_eq_none {cs : List Char} : splitLiteral cs = none ↔ '\'' ∉ cs := by
  fun_induction splitLiteral cs with
  | case1 | case2 | case3 | case4 => simp
  | case5 c rest hpair hquote body after hsplit ih => simp_all
  | case6 c rest hpair hquote hsplit ih =>
    have hc : c ≠ '\'' := by
      rintro rfl
      exact hquote rfl
    simp [ih.mp hsplit, hc.symm]

/-- A literal may end in front of this text: no quote follows, or one that stays alone. -/
def ClosesLiteral (cs : List Char) : Prop := ∀ tail, cs = '\'' :: tail → '\'' ∉ tail

theorem closesLiteral_of_head {cs : List Char} (h : cs.head? ≠ some '\'') : ClosesLiteral cs := by
  rintro tail rfl
  exact absurd rfl h

theorem splitLiteral_closes {cs : List Char} (h : ClosesLiteral cs) :
    splitLiteral ('\'' :: cs) = some (['\''], cs) := by
  by_cases hhead : cs.head? = some '\''
  · obtain ⟨tail, rfl⟩ := List.head?_eq_some_iff.mp hhead
    have htail : splitLiteral tail = none := splitLiteral_eq_none.mpr (h tail rfl)
    simp [splitLiteral, htail]
  · exact splitLiteral_quote hhead

/-- Without the first one, the quotes of a literal do not pair up. Any text that closes the literal
may stand behind it. -/
theorem splitLiteral_eq_some {cs body after : List Char}
    (h : splitLiteral cs = some (body, after)) : body.count '\'' % 2 = 1 ∧ ClosesLiteral after ∧
      ∀ other, ClosesLiteral other → splitLiteral (body ++ other) = some (body, other) := by
  fun_induction splitLiteral cs generalizing body with
  | case1 => cases h
  | case2 rest inner tail hsplit ih =>
    cases h
    obtain ⟨hodd, hcloses, hother⟩ := ih hsplit
    refine ⟨?_, hcloses, fun other ho => ?_⟩
    · rw [List.count_cons_self, List.count_cons_self]
      omega
    · simp [splitLiteral, hother other ho]
  | case3 rest hsplit =>
    cases h
    refine ⟨rfl, ?_, fun other ho => splitLiteral_closes ho⟩
    rintro tail ⟨⟩
    exact splitLiteral_eq_none.mp hsplit
  | case4 rest hquote =>
    cases h
    refine ⟨rfl, ?_, fun other ho => splitLiteral_closes ho⟩
    rintro tail rfl
    exact absurd rfl (hquote tail)
  | case5 c rest hpair hquote inner tail hsplit ih =>
    cases h
    have hc : c ≠ '\'' := by
      rintro rfl
      exact hquote rfl
    obtain ⟨hodd, hcloses, hother⟩ := ih hsplit
    refine ⟨by rwa [List.count_cons_of_ne hc], hcloses, fun other ho => ?_⟩
    rw [List.cons_append, splitLiteral_other hc, hother other ho]
  | case6 => cases h

/-- In a text whose quotes pair up every quote opens a literal, and behind that they pair up too. -/
theorem splitLiteral_of_odd {cs : List Char} (h : cs.count '\'' % 2 = 1) :
    ∃ body after, splitLiteral cs = some (body, after) ∧ after.count '\'' % 2 = 0 := by
  cases hsplit : splitLiteral cs with
  | none =>
    rw [List.count_eq_zero.mpr (splitLiteral_eq_none.mp hsplit)] at h
    cases h
  | some x =>
    obtain ⟨body, after⟩ := x
    obtain ⟨hodd, -, -⟩ := splitLiteral_eq_some hsplit
    rw [← append_of_splitLiteral hsplit, List.count_append] at h
    exact ⟨body, after, rfl, by omega⟩

/-! ## Numbered placeholders -/

/-- The digits of a placeholder. -/
def IsNumber (digits : List Char) : Prop :=
  digits ≠ [] ∧ ∀ c ∈ digits, isDecimalDigit c = true

/-- A number ends in front of this text. -/
def EndsNumber (cs : List Char) : Prop := ∀ c, cs.head? = some c → isDecimalDigit c = false

theorem isNumber_toDigits (n : Nat) : IsNumber (Nat.toDigits 10 n) :=
  ⟨Nat.toDigits_ne_nil, fun _ hc =>
    isDecimalDigit_of_isAsciiDigit (isAsciiDigit_of_mem_toDigits hc)⟩

theorem count_quote_of_isNumber {digits : List Char} (h : IsNumber digits) :
    digits.count '\'' = 0 := by
  rw [List.count_eq_zero]
  intro hmem
  exact absurd (h.2 _ hmem) (by decide)

theorem takeWhile_of_endsNumber {cs : List Char} (h : EndsNumber cs) :
    cs.takeWhile isDecimalDigit = [] := by
  cases cs with
  | nil => rfl
  | cons c rest => rw [List.takeWhile_cons_of_neg (by simp [h c rfl])]

theorem numberedOr_of_isNumber {digits tail : List Char} (hd : IsNumber digits)
    (ht : EndsNumber tail) (style : Style) (otherwise : Piece × List Char) :
    numberedOr style (digits ++ tail) otherwise = (.numbered style digits, tail) := by
  have htake : (digits ++ tail).takeWhile isDecimalDigit = digits := by
    rw [List.takeWhile_append_of_pos hd.2, takeWhile_of_endsNumber ht, List.append_nil]
  have hdrop : (digits ++ tail).dropWhile isDecimalDigit = tail := by
    have hall := List.takeWhile_append_dropWhile (p := isDecimalDigit) (l := digits ++ tail)
    rw [htake] at hall
    exact List.append_cancel_left hall
  have hne : digits.isEmpty = false := by simpa using hd.1
  simp only [numberedOr, htake, hdrop, hne, Bool.false_eq_true, if_false]

theorem numberedOr_of_endsNumber {tail : List Char} (ht : EndsNumber tail) (style : Style)
    (otherwise : Piece × List Char) : numberedOr style tail otherwise = otherwise := by
  simp [numberedOr, takeWhile_of_endsNumber ht]

/-- Behind a mark there is a number with its end, or no number at all. -/
theorem number_or_end (cs : List Char) :
    (∃ digits tail, cs = digits ++ tail ∧ IsNumber digits ∧ EndsNumber tail) ∨ EndsNumber cs := by
  induction cs with
  | nil => exact .inr nofun
  | cons c rest ih =>
    cases hc : isDecimalDigit c with
    | false =>
      right
      rintro _ ⟨⟩
      exact hc
    | true =>
      left
      rcases ih with ⟨digits, tail, rfl, ⟨-, hdigits⟩, htail⟩ | hrest
      · exact ⟨c :: digits, tail, rfl,
          ⟨List.cons_ne_nil _ _, List.forall_mem_cons.mpr ⟨hc, hdigits⟩⟩, htail⟩
      · exact ⟨[c], rest, rfl, ⟨List.cons_ne_nil _ _, List.forall_mem_singleton.mpr hc⟩, hrest⟩

/-! ## Numbers among pieces -/

theorem isNumber_of_numberedOr {style style' : Style} {cs digits rest : List Char} {p : Piece}
    (h : (numberedOr style cs (p, rest)).1 = .numbered style' digits)
    (hp : ∀ style digits, p ≠ .numbered style digits) : IsNumber digits := by
  rcases number_or_end cs with ⟨digits', tail, rfl, hdigits, htail⟩ | hend
  · rw [numberedOr_of_isNumber hdigits htail] at h
    cases h
    exact hdigits
  · rw [numberedOr_of_endsNumber hend] at h
    exact absurd h (hp style' digits)

theorem isNumber_of_nextPiece {c : Char} {rest digits : List Char} {style : Style}
    (h : (nextPiece c rest).1 = .numbered style digits) : IsNumber digits := by
  fun_cases nextPiece c rest with
  | case1 rest body after hsplit =>
    rw [nextPiece, hsplit] at h
    cases h
  | case2 rest hsplit =>
    rw [nextPiece, hsplit] at h
    cases h
  | case3 | case4 | case5 | case6 =>
    refine isNumber_of_numberedOr h fun _ _ heq => ?_
    cases heq
  | case7 c rest hquote hdollar hquestion hat hcolon =>
    rw [nextPiece] at h
    · cases h
    · exact hquote
    · exact hdollar
    · exact hquestion
    · exact hat
    · exact hcolon

/-! ## Respelling -/

/-- Gives placeholders other numbers and leaves everything else as it is. -/
structure Respells (f : Piece → Piece) : Prop where
  plain : ∀ c, f (.plain c) = .plain c
  literal : ∀ text, f (.literal text) = .literal text
  bare : f .bare = .bare
  numbered : ∀ style digits, ∃ digits', f (.numbered style digits) = .numbered style digits' ∧
    (IsNumber digits → IsNumber digits')

/-- A separator: it ends every piece that stands before it. -/
structure Separates (cs : List Char) : Prop where
  endsNumber : EndsNumber cs
  quote : cs.head? ≠ some '\''
  letter : cs.head? ≠ some 'p'

theorem separates_nil : Separates [] where
  endsNumber _ hc := by cases hc
  quote hc := by cases hc
  letter hc := by cases hc

/-- In front of `tail` the piece is read as it is written. -/
def Piece.Stands (p : Piece) (tail : List Char) : Prop :=
  ∃ c rest, p.text ++ tail = c :: rest ∧ nextPiece c rest = (p, tail)

theorem Piece.Stands.pieces_append {p : Piece} {tail : List Char} (h : p.Stands tail) :
    pieces (p.text ++ tail) = p :: pieces tail := by
  obtain ⟨c, rest, htext, hnext⟩ := h
  rw [htext, pieces_cons, hnext]

namespace Respells

variable {f : Piece → Piece}

theorem id : Respells id where
  plain _ := rfl
  literal _ := rfl
  bare := rfl
  numbered _ digits := ⟨digits, rfl, fun h => h⟩

theorem shift (offset : Nat) : Respells (Piece.shift offset) where
  plain _ := rfl
  literal _ := rfl
  bare := rfl
  numbered style digits := by
    simp only [Piece.shift]
    split
    · exact ⟨_, rfl, fun _ => isNumber_toDigits _⟩
    · exact ⟨digits, rfl, fun h => h⟩

/-- The first character of a piece stays. -/
theorem head?_text (hf : Respells f) (p : Piece) : (f p).text.head? = p.text.head? := by
  cases p with
  | plain c => rw [hf.plain]
  | literal text => rw [hf.literal]
  | bare => rw [hf.bare]
  | numbered style digits =>
    obtain ⟨digits', heq, -⟩ := hf.numbered style digits
    rw [heq]
    cases style <;> rfl

theorem head?_spell (hf : Respells f) (cs : List Char) :
    (spell ((pieces cs).map f)).head? = cs.head? := by
  cases cs with
  | nil => rw [pieces_nil, List.map_nil, spell_nil]
  | cons c rest =>
    have hhead := hf.head?_text (nextPiece c rest).1
    have htext := congrArg List.head? (text_nextPiece c rest)
    have hne := text_nextPiece_ne_nil c rest
    rw [List.head?_append, Option.or_of_isSome (by simpa using hne)] at htext
    rw [pieces_cons, List.map_cons, spell_cons, List.head?_append, hhead, htext]
    rfl

theorem count_quote_text (hf : Respells f) {p : Piece}
    (hp : ∀ style digits, p = .numbered style digits → IsNumber digits) :
    (f p).text.count '\'' = p.text.count '\'' := by
  cases p with
  | plain c => rw [hf.plain]
  | literal text => rw [hf.literal]
  | bare => rw [hf.bare]
  | numbered style digits =>
    obtain ⟨digits', heq, hdigits'⟩ := hf.numbered style digits
    have hdigits := hp style digits rfl
    simp [heq, Piece.text, count_quote_of_isNumber, hdigits, hdigits' hdigits]

theorem count_quote_spell (hf : Respells f) (cs : List Char) :
    (spell ((pieces cs).map f)).count '\'' = cs.count '\'' := by
  fun_induction pieces cs with
  | case1 => rfl
  | case2 c rest ih =>
    have htext := congrArg (List.count '\'') (text_nextPiece c rest)
    have hpiece := hf.count_quote_text (p := (nextPiece c rest).1)
      fun _ _ heq => isNumber_of_nextPiece heq
    rw [List.count_append] at htext
    rw [List.map_cons, spell_cons, List.count_append, ih, hpiece, htext]

end Respells

/-! ## Quotes of two texts -/

/-- No quote of the first text pairs up with one of the second. -/
def QuotesApart (cs ds : List Char) : Prop := cs.count '\'' % 2 = 0 ∨ '\'' ∉ ds

namespace QuotesApart

variable {ds rest : List Char}

theorem of_cons {c : Char} (hc : c ≠ '\'') (h : QuotesApart (c :: rest) ds) :
    QuotesApart rest ds := by
  rwa [QuotesApart, List.count_cons_of_ne hc] at h

theorem of_literal {body after : List Char} (hsplit : splitLiteral rest = some (body, after))
    (h : QuotesApart ('\'' :: rest) ds) : QuotesApart after ds := by
  obtain ⟨hodd, -, -⟩ := splitLiteral_eq_some hsplit
  refine h.imp_left fun heven => ?_
  rw [← append_of_splitLiteral hsplit, List.count_cons_self, List.count_append] at heven
  omega

theorem of_numberedOr {style : Style} {otherwise : Piece × List Char} (h : QuotesApart rest ds)
    (hother : QuotesApart otherwise.2 ds) : QuotesApart (numberedOr style rest otherwise).2 ds := by
  rcases number_or_end rest with ⟨digits, tail, rfl, hdigits, htail⟩ | hend
  · rw [numberedOr_of_isNumber hdigits htail]
    rwa [QuotesApart, List.count_append, count_quote_of_isNumber hdigits, Nat.zero_add] at h
  · rwa [numberedOr_of_endsNumber hend]

theorem nextPiece {c : Char} (h : QuotesApart (c :: rest) ds) :
    QuotesApart (nextPiece c rest).2 ds := by
  fun_cases Sql.nextPiece c rest with
  | case1 rest body after hsplit => exact h.of_literal hsplit
  | case2 rest hsplit =>
    have hrest := List.count_eq_zero.mpr (splitLiteral_eq_none.mp hsplit)
    exact .inl (by rw [hrest])
  | case3 rest | case4 rest => exact of_numberedOr (h.of_cons (by decide)) (h.of_cons (by decide))
  | case5 rest | case6 rest =>
    have hrest := h.of_cons (by decide)
    exact of_numberedOr (hrest.of_cons (by decide)) hrest
  | case7 c rest hquote => exact h.of_cons hquote

end QuotesApart

/-! ## Joining -/

section

variable {f : Piece → Piece} {cs ds : List Char}

/-- What follows a text is its end or the separator behind it. -/
theorem head?_spell_append (hf : Respells f) {c : Char}
    (h : (spell ((pieces cs).map f) ++ ds).head? = some c) :
    cs.head? = some c ∨ ds.head? = some c := by
  rw [List.head?_append, hf.head?_spell] at h
  cases hc : cs.head? with
  | none => exact .inr (by simpa [hc] using h)
  | some d => exact .inl (by simpa [hc] using h)

theorem endsNumber_append (hf : Respells f) (hds : Separates ds) (h : EndsNumber cs) :
    EndsNumber (spell ((pieces cs).map f) ++ ds) := by
  intro c hc
  rcases head?_spell_append hf hc with hc | hc
  · exact h c hc
  · exact hds.endsNumber c hc

theorem head?_append_ne (hf : Respells f) {c : Char}
    (h : cs.head? ≠ some c) (hc : ds.head? ≠ some c) :
    (spell ((pieces cs).map f) ++ ds).head? ≠ some c := by
  intro hhead
  rcases head?_spell_append hf hhead with hhead | hhead
  · exact h hhead
  · exact hc hhead

theorem numbered_stands (hf : Respells f) (hds : Separates ds) {style : Style} {digits : List Char}
    (hd : IsNumber digits) (hcs : EndsNumber cs) :
    (f (.numbered style digits)).Stands (spell ((pieces cs).map f) ++ ds) := by
  obtain ⟨digits', heq, hdigits⟩ := hf.numbered style digits
  have hread := fun otherwise => numberedOr_of_isNumber (hdigits hd)
    (endsNumber_append hf hds hcs) style otherwise
  rw [heq]
  cases style with
  | dollar => exact ⟨'$', _, rfl, hread _⟩
  | question => exact ⟨'?', _, rfl, hread _⟩
  | «at» => exact ⟨'@', _, rfl, hread _⟩
  | colon => exact ⟨':', _, rfl, hread _⟩

theorem spell_letter (hf : Respells f) (cs : List Char) :
    spell ((pieces ('p' :: cs)).map f) = 'p' :: spell ((pieces cs).map f) := by
  have hnext : nextPiece 'p' cs = (.plain 'p', cs) := rfl
  rw [pieces_cons, hnext, List.map_cons, hf.plain, spell_cons]
  rfl

/-- A letter does not come to stand behind a mark. -/
theorem letter_apart (hf : Respells f) (hds : Separates ds) (h : ∀ tail, cs ≠ 'p' :: tail)
    (tail : List Char) : spell ((pieces cs).map f) ++ ds ≠ 'p' :: tail := by
  have hletter : cs.head? ≠ some 'p' := by
    intro hhead
    obtain ⟨tail', rfl⟩ := List.head?_eq_some_iff.mp hhead
    exact h tail' rfl
  intro heq
  exact head?_append_ne hf hletter hds.letter (congrArg List.head? heq)

/-- A quote that stays alone does so in front of other text too. -/
theorem closesLiteral_append (hf : Respells f) (hds : Separates ds) (hquotes : QuotesApart cs ds)
    (h : ClosesLiteral cs) : ClosesLiteral (spell ((pieces cs).map f) ++ ds) := by
  by_cases hhead : cs.head? = some '\''
  · obtain ⟨rest, rfl⟩ := List.head?_eq_some_iff.mp hhead
    have hrest : rest.count '\'' = 0 := List.count_eq_zero.mpr (h rest rfl)
    have hnone : ds.count '\'' = 0 := by
      refine List.count_eq_zero.mpr (hquotes.resolve_left fun heven => ?_)
      rw [List.count_cons_self, hrest] at heven
      cases heven
    intro tail heq
    have hcount := congrArg (List.count '\'') heq
    rw [List.count_append, hf.count_quote_spell, List.count_cons_self, List.count_cons_self, hrest,
      hnone] at hcount
    exact List.count_eq_zero.mp (by omega)
  · exact closesLiteral_of_head (head?_append_ne hf hhead hds.quote)

/-- The piece behind a mark, whether or not it is a placeholder. -/
theorem numberedOr_stands (hf : Respells f) (hds : Separates ds) (style : Style)
    {otherwise : Piece × List Char}
    (hother : EndsNumber cs →
      (f otherwise.1).Stands (spell ((pieces otherwise.2).map f) ++ ds)) :
    (f (numberedOr style cs otherwise).1).Stands
      (spell ((pieces (numberedOr style cs otherwise).2).map f) ++ ds) := by
  rcases number_or_end cs with ⟨digits, tail, rfl, hdigits, htail⟩ | hend
  · rw [numberedOr_of_isNumber hdigits htail]
    exact numbered_stands hf hds hdigits htail
  · rw [numberedOr_of_endsNumber hend]
    exact hother hend

/-- The first piece of a text, spelled anew, stands in front of the others. -/
theorem nextPiece_stands (hf : Respells f) (hds : Separates ds) (c : Char) (rest : List Char)
    (hquotes : QuotesApart (c :: rest) ds) :
    (f (nextPiece c rest).1).Stands (spell ((pieces (nextPiece c rest).2).map f) ++ ds) := by
  fun_cases nextPiece c rest with
  | case1 rest body after hsplit =>
    obtain ⟨-, hcloses, hother⟩ := splitLiteral_eq_some hsplit
    have hread := hother _ (closesLiteral_append hf hds (hquotes.of_literal hsplit) hcloses)
    rw [hf.literal]
    refine ⟨'\'', body ++ (spell ((pieces after).map f) ++ ds), rfl, ?_⟩
    simp only [nextPiece, hread]
  | case2 rest hsplit =>
    -- The quote stays alone, since no other quote comes in.
    have hrest : rest.count '\'' = 0 := List.count_eq_zero.mpr (splitLiteral_eq_none.mp hsplit)
    have hnone : '\'' ∉ ds := hquotes.resolve_left fun heven => by
      rw [List.count_cons_self, hrest] at heven
      cases heven
    have halone : splitLiteral (spell ((pieces rest).map f) ++ ds) = none := by
      rw [splitLiteral_eq_none, ← List.count_eq_zero, List.count_append, hf.count_quote_spell,
        hrest, List.count_eq_zero.mpr hnone]
    rw [hf.plain]
    refine ⟨'\'', spell ((pieces rest).map f) ++ ds, rfl, ?_⟩
    simp only [nextPiece, halone]
  | case3 rest =>
    refine numberedOr_stands hf hds .dollar fun hend => ?_
    rw [hf.plain]
    refine ⟨'$', _, rfl, ?_⟩
    exact numberedOr_of_endsNumber (endsNumber_append hf hds hend) ..
  | case4 rest =>
    refine numberedOr_stands hf hds .question fun hend => ?_
    rw [hf.bare]
    refine ⟨'?', _, rfl, ?_⟩
    exact numberedOr_of_endsNumber (endsNumber_append hf hds hend) ..
  | case5 rest =>
    refine numberedOr_stands hf hds .at fun hend => ?_
    -- The letter is a piece of its own, and no number comes after it.
    rw [hf.plain, spell_letter hf]
    refine ⟨'@', _, rfl, ?_⟩
    exact numberedOr_of_endsNumber (endsNumber_append hf hds hend) ..
  | case6 rest =>
    refine numberedOr_stands hf hds .colon fun hend => ?_
    rw [hf.plain, spell_letter hf]
    refine ⟨':', _, rfl, ?_⟩
    exact numberedOr_of_endsNumber (endsNumber_append hf hds hend) ..
  | case7 c rest hquote hdollar hquestion hat hcolon =>
    rw [hf.plain]
    refine ⟨c, _, rfl, ?_⟩
    rw [nextPiece]
    · rfl
    · exact hquote
    · exact hdollar
    · exact hquestion
    · exact fun tail hc => letter_apart hf hds (fun tail' => hat tail' hc) tail
    · exact fun tail hc => letter_apart hf hds (fun tail' => hcolon tail' hc) tail

theorem pieces_respell_append (hf : Respells f) (hds : Separates ds)
    (hquotes : QuotesApart cs ds) :
    pieces (spell ((pieces cs).map f) ++ ds) = (pieces cs).map f ++ pieces ds := by
  fun_induction pieces cs with
  | case1 => rfl
  | case2 c rest ih =>
    have hstands := nextPiece_stands hf hds c rest hquotes
    rw [List.map_cons, spell_cons, List.append_assoc, hstands.pieces_append, ih hquotes.nextPiece]
    rfl

theorem pieces_append (hds : Separates ds) (hquotes : QuotesApart cs ds) :
    pieces (cs ++ ds) = pieces cs ++ pieces ds := by
  have h := pieces_respell_append .id hds hquotes
  rwa [List.map_id, spell_pieces] at h

/-- Spelling a text anew neither makes a piece nor loses one, whether or not its quotes pair up. -/
theorem pieces_respell (hf : Respells f) (cs : List Char) :
    pieces (spell ((pieces cs).map f)) = (pieces cs).map f := by
  have h : pieces (spell ((pieces cs).map f) ++ []) = _ :=
    pieces_respell_append hf separates_nil (.inr List.not_mem_nil)
  rwa [List.append_nil, pieces_nil, List.append_nil] at h

end

end OneConnection.Sql
