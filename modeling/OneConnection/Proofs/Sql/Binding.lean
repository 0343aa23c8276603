import OneConnection.Command.Combined
import OneConnection.Proofs.Sql.Joining
import OneConnection.Sql.Expansion

/-!
# Binding in combined commands

Every placeholder of a combined command stands for the value that it stands for in its own
statement, so the expanded text of the whole is that of the statements, one after the other.
-/

namespace OneConnection

namespace Sql

open Text

/-! ## Statements and what is cut off from them -/

/-- No placeholder and no literal starts with such a character. -/
structure IsIdle (c : Char) : Prop where
  quote : c ≠ '\''
  dollar : c ≠ '$'
  question : c ≠ '?'
  at' : c ≠ '@'
  colon : c ≠ ':'

theorem pieces_of_idle {cs : List Char} (h : ∀ c ∈ cs, IsIdle c) :
    pieces cs = cs.map .plain := by
  induction cs with
  | nil => rw [pieces_nil, List.map_nil]
  | cons c rest ih =>
    have hc := h c List.mem_cons_self
    have hnext : nextPiece c rest = (.plain c, rest) := by
      rw [nextPiece]
      · exact hc.quote
      · exact hc.dollar
      · exact hc.question
      · exact fun _ hat _ => hc.at' hat
      · exact fun _ hcolon _ => hc.colon hcolon
    rw [pieces_cons, hnext, ih fun d hd => h d (List.mem_cons_of_mem _ hd), List.map_cons]

/-- Blank space holds no digits. -/
theorem not_isDecimalDigit_of_isBlank {c : Char} (h : isBlank c = true) :
    isDecimalDigit c = false := by
  have hapart : ∀ range ∈ blanks, ∀ start ∈ digitZeros, range.2 < start ∨ start + 9 < range.1 := by
    decide
  obtain ⟨range, hrange, hlow, hhigh⟩ := Ranges.exists_of_covers h
  rw [isDecimalDigit, List.any_eq_false]
  intro start hstart hdigit
  simp only [Bool.and_eq_true, decide_eq_true_eq] at hdigit
  have := hapart range hrange start hstart
  omega

theorem isIdle_of_isBlank {c : Char} (h : isBlank c = true) : IsIdle c := by
  constructor <;> rintro rfl <;> exact absurd h (by decide)

/-! ## Values -/

/-- A placeholder counted further on, or the piece as it is where nothing comes before it. -/
def renumber (offset : Nat) : Piece → Piece :=
  if offset = 0 then id else Piece.shift offset

theorem respells_renumber (offset : Nat) : Respells (renumber offset) := by
  unfold renumber
  split
  · exact .id
  · exact .shift offset

theorem shiftPlaceholders_eq (offset : Nat) (cs : List Char) :
    shiftPlaceholders offset cs = spell ((pieces cs).map (renumber offset)) := by
  unfold shiftPlaceholders renumber
  split
  · rw [List.map_id, spell_pieces]
  · rfl

theorem pieces_shiftPlaceholders (offset : Nat) (cs : List Char) :
    pieces (shiftPlaceholders offset cs) = (pieces cs).map (renumber offset) := by
  rw [shiftPlaceholders_eq, pieces_respell (respells_renumber offset)]

/-- A number that cannot be read stays. -/
theorem renumber_of_unread {offset : Nat} {p : Piece} (h : p.number? = none) :
    renumber offset p = p := by
  have hf := respells_renumber offset
  cases p with
  | plain c => exact hf.plain c
  | literal text => exact hf.literal text
  | bare => exact hf.bare
  | numbered style digits =>
    have hread : natural? digits = none := h
    unfold renumber
    split
    · rfl
    · simp only [Piece.shift, hread]

theorem renumber_of_read {offset : Nat} {style : Style} {digits : List Char} {n : Nat}
    (h : natural? digits = some n) : renumber offset (.numbered style digits) = .numbered style
      (if offset = 0 then digits else Nat.toDigits 10 ((n + offset) % wordLimit)) := by
  unfold renumber
  split
  · rfl
  · simp only [Piece.shift, h]

theorem natural?_renumbered (offset : Nat) {digits : List Char} {n : Nat}
    (h : natural? digits = some n) :
    natural? (if offset = 0 then digits else Nat.toDigits 10 ((n + offset) % wordLimit)) =
      some ((n + offset) % wordLimit) := by
  split
  · subst offset
    rw [h, Nat.add_zero, Nat.mod_eq_of_lt (natural?_lt h)]
  · exact natural?_toDigits (Nat.mod_lt _ (by decide))

/-- The number of a placeholder stands for one of `count` values. -/
def Style.Names (style : Style) (digits : List Char) (count : Nat) : Prop :=
  ∃ n i, natural? digits = some n ∧ style.index? n = some i ∧ i < count

theorem Style.index?_add {style : Style} {n i : Nat} (h : style.index? n = some i) (offset : Nat) :
    style.index? (n + offset) = some (i + offset) ∧ n ≤ i + 1 := by
  cases style with
  | dollar | question =>
    simp only [index?, Option.ite_none_left_eq_some, Option.some.injEq] at h ⊢
    omega
  | «at» | colon =>
    simp only [index?, Option.some.injEq] at h ⊢
    omega

variable {own all : List Value} {offset next next' : Nat}

/-- A placeholder that is counted further on names what its new number names. -/
theorem valueAt?_renumber {style : Style} {digits : List Char} {n : Nat}
    (hn : natural? digits = some n) :
    (renumber offset (.numbered style digits)).valueAt? all next =
      (style.index? ((n + offset) % wordLimit)).bind (all[·]?) := by
  rw [renumber_of_read hn]
  simp [Piece.valueAt?, natural?_renumbered offset hn]

/-- Unless its number gets too large for a word, it names the value that stands as much further
on. -/
theorem valueAt?_renumber_of_fits {style : Style} {digits : List Char} {n i : Nat}
    (hfits : n + offset < wordLimit) (hn : natural? digits = some n)
    (hi : style.index? n = some i) :
    (renumber offset (.numbered style digits)).valueAt? all next = all[i + offset]? := by
  rw [valueAt?_renumber hn, Nat.mod_eq_of_lt hfits, (style.index?_add hi offset).1]
  rfl

/-- A placeholder that names a value of its own statement names the same value among all values. -/
theorem valueAt?_numbered (hall : ∀ i, i < own.length → all[i + offset]? = own[i]?)
    (hfits : all.length < wordLimit) {style : Style} {digits : List Char}
    (h : style.Names digits own.length) :
    (renumber offset (.numbered style digits)).valueAt? all next' =
      (Piece.numbered style digits).valueAt? own next := by
  obtain ⟨n, i, hn, hi, hlt⟩ := h
  -- The value is there, so its number is small enough.
  have hthere : i + offset < all.length := by
    have hvalue := hall i hlt
    rw [List.getElem?_eq_getElem hlt] at hvalue
    exact (List.getElem?_eq_some_iff.mp hvalue).1
  have hle := (style.index?_add hi offset).2
  rw [valueAt?_renumber_of_fits (by omega) hn hi, hall i hlt]
  simp [Piece.valueAt?, hn, hi]

/-- A bare placeholder stands for the same value when it is counted on past the values before. -/
theorem valueAt?_bare (hall : ∀ i, i < own.length → all[i + offset]? = own[i]?)
    (h : next < own.length) :
    (renumber offset .bare).valueAt? all (next + offset) = Piece.bare.valueAt? own next := by
  rw [(respells_renumber offset).bare]
  exact hall next h

theorem expanded_renumber (hall : ∀ i, i < own.length → all[i + offset]? = own[i]?)
    (hfits : all.length < wordLimit) (p : Piece)
    (hnumbered : ∀ style digits, p = .numbered style digits → style.Names digits own.length)
    (hbare : p = .bare → next' = next + offset ∧ next < own.length) :
    (renumber offset p).expanded all next' = p.expanded own next := by
  cases p with
  | plain c => rw [(respells_renumber offset).plain]; rfl
  | literal text => rw [(respells_renumber offset).literal]; rfl
  | numbered style digits =>
    have hnames := hnumbered style digits rfl
    have hvalue : (renumber offset (.numbered style digits)).valueAt? all next' =
        (Piece.numbered style digits).valueAt? own next := valueAt?_numbered hall hfits hnames
    obtain ⟨n, i, hn, hi, hlt⟩ := hnames
    have hown : (Piece.numbered style digits).valueAt? own next = some own[i] := by
      simp [Piece.valueAt?, hn, hi, hlt]
    simp only [Piece.expanded, hvalue, hown]
  | bare =>
    obtain ⟨rfl, hlt⟩ := hbare rfl
    have hvalue := valueAt?_bare hall hlt
    have hown : Piece.bare.valueAt? own next = some own[next] := by simp [Piece.valueAt?, hlt]
    simp only [Piece.expanded, hvalue, hown]

theorem renumber_eq_bare {p : Piece} : renumber offset p = .bare ↔ p = .bare := by
  have h := respells_renumber offset
  cases p with
  | plain c => simp [h.plain]
  | literal text => simp [h.literal]
  | bare => simp [h.bare]
  | numbered style digits =>
    obtain ⟨digits', heq, -⟩ := h.numbered style digits
    simp [heq]

theorem count_bare_renumber (ps : List Piece) :
    (ps.map (renumber offset)).count .bare = ps.count .bare := by
  simp only [List.count_eq_countP, List.countP_map]
  refine List.countP_congr fun p _ => ?_
  simp only [Function.comp_apply, beq_iff_eq, renumber_eq_bare]

/-! ## Pieces one after the other -/

theorem expandPieces_append (params : List Value) (ps qs : List Piece) :
    expandPieces params next (ps ++ qs) =
      expandPieces params next ps ++ expandPieces params (next + ps.count .bare) qs := by
  induction ps generalizing next with
  | nil => rfl
  | cons p rest ih =>
    rw [List.cons_append, expandPieces, expandPieces, ih, List.append_assoc]
    congr 3
    by_cases hp : p = .bare
    · subst hp
      simp only [if_true, List.count_cons_self]
      omega
    · rw [if_neg hp, List.count_cons_of_ne hp]

theorem expandPieces_renumber (hall : ∀ i, i < own.length → all[i + offset]? = own[i]?)
    (hfits : all.length < wordLimit) {ps : List Piece}
    (hnumbered : ∀ style digits, .numbered style digits ∈ ps → style.Names digits own.length)
    (hbare : .bare ∈ ps → next' = next + offset ∧ next + ps.count .bare ≤ own.length) :
    expandPieces all next' (ps.map (renumber offset)) = expandPieces own next ps := by
  induction ps generalizing next next' with
  | nil => rfl
  | cons p rest ih =>
    have hhead : (renumber offset p).expanded all next' = p.expanded own next := by
      refine expanded_renumber hall hfits p ?_ ?_
      · rintro style digits rfl
        exact hnumbered style digits List.mem_cons_self
      · rintro rfl
        obtain ⟨hnext, hcount⟩ := hbare List.mem_cons_self
        rw [List.count_cons_self] at hcount
        exact ⟨hnext, by omega⟩
    have hrest := fun style digits hmem => hnumbered style digits (List.mem_cons_of_mem p hmem)
    rw [List.map_cons, expandPieces, expandPieces, hhead]
    congr 1
    apply ih hrest
    intro hmem
    obtain ⟨hnext, hcount⟩ := hbare (List.mem_cons_of_mem p hmem)
    by_cases hp : p = .bare
    · subst hp
      rw [List.count_cons_self] at hcount
      rw [if_pos (renumber_eq_bare.mpr rfl), if_pos rfl]
      omega
    · rw [List.count_cons_of_ne hp] at hcount
      rw [if_neg (mt renumber_eq_bare.mp hp), if_neg hp]
      exact ⟨hnext, hcount⟩

end Sql

namespace Command

open Sql Text

/-- What is cut off from a command's text is blank space and semicolons. -/
theorem statement_append (c : Command) : ∃ rest, c.sql.toList = c.statement ++ rest ∧
    ∀ d ∈ rest, d = ';' ∨ isBlank d = true := by
  obtain ⟨blank, htext, hblank⟩ := append_of_dropEndWhile isBlank c.sql.toList
  obtain ⟨ends, htrimmed, hends⟩ := append_of_dropEndWhile (· = ';') (trimEnd c.sql.toList)
  refine ⟨ends ++ blank, ?_, ?_⟩
  · rw [← List.append_assoc, statement, htrimmed, trimEnd, htext]
  · intro d hd
    rcases List.mem_append.mp hd with hd | hd
    · exact .inl (by simpa using hends d hd)
    · exact .inr (hblank d hd)

theorem separates_of_cut {rest : List Char} (h : ∀ d ∈ rest, d = ';' ∨ isBlank d = true) :
    Separates rest := by
  have hhead : ∀ d, rest.head? = some d → d = ';' ∨ isBlank d = true :=
    fun d hd => h d (List.mem_of_head? hd)
  constructor
  · intro d hd
    rcases hhead d hd with rfl | hblank
    · decide
    · exact not_isDecimalDigit_of_isBlank hblank
  · intro hd
    exact absurd (hhead _ hd) (by decide)
  · intro hd
    exact absurd (hhead _ hd) (by decide)

/-- The placeholders of a command are those of its statement. -/
theorem pieces_sql (c : Command) (heven : c.statement.count '\'' % 2 = 0) :
    ∃ rest : List Char, pieces c.sql.toList = pieces c.statement ++ rest.map .plain := by
  obtain ⟨rest, htext, hcut⟩ := c.statement_append
  have hidle : ∀ d ∈ rest, IsIdle d := by
    intro d hd
    rcases hcut d hd with rfl | hblank
    · constructor <;> decide
    · exact isIdle_of_isBlank hblank
  have hsplit := pieces_append (separates_of_cut hcut) (.inl heven)
  exact ⟨rest, by rw [htext, hsplit, pieces_of_idle hidle]⟩

/-! ## Commands that bind their own values -/

/-- The quotes of the command pair up, and its numbered placeholders name its own values. -/
structure BindsOwn (c : Command) : Prop where
  quotes : c.statement.count '\'' % 2 = 0
  numbered : ∀ style digits, .numbered style digits ∈ pieces c.sql.toList →
    style.Names digits c.params.length

/-- No value goes to a bare placeholder. -/
def UsesNoBare (c : Command) : Prop := .bare ∉ pieces c.sql.toList

/-- Every value goes to a bare placeholder, and there is one for each. -/
def FillsBare (c : Command) : Prop := (pieces c.sql.toList).count .bare = c.params.length

variable {c : Command}

theorem BindsOwn.statement_numbered (h : c.BindsOwn) {style : Style} {digits : List Char}
    (hmem : .numbered style digits ∈ pieces c.statement) : style.Names digits c.params.length := by
  obtain ⟨rest, hpieces⟩ := c.pieces_sql h.quotes
  exact h.numbered style digits (hpieces ▸ List.mem_append_left _ hmem)

theorem UsesNoBare.count_statement (hc : c.BindsOwn) (h : c.UsesNoBare) :
    (pieces c.statement).count .bare = 0 := by
  obtain ⟨rest, hpieces⟩ := c.pieces_sql hc.quotes
  rw [List.count_eq_zero]
  intro hmem
  exact h (hpieces ▸ List.mem_append_left _ hmem)

theorem FillsBare.count_statement (hc : c.BindsOwn) (h : c.FillsBare) :
    (pieces c.statement).count .bare = c.params.length := by
  unfold FillsBare at h
  obtain ⟨rest, hpieces⟩ := c.pieces_sql hc.quotes
  have hplain : (rest.map Piece.plain).count .bare = 0 := by simp [List.count_eq_zero]
  rw [← h, hpieces, List.count_append, hplain, Nat.add_zero]

/-! ## Combining -/

theorem separates_separator (cs : List Char) : Separates (separator ++ cs) := by
  constructor
  · rintro _ ⟨⟩
    decide
  · exact nofun
  · exact nofun

theorem pieces_separator (cs : List Char) :
    pieces (separator ++ cs) = separator.map .plain ++ pieces cs := by
  have hsemicolon : nextPiece ';' ('\n' :: cs) = (.plain ';', '\n' :: cs) := rfl
  have hnewline : nextPiece '\n' cs = (.plain '\n', cs) := rfl
  rw [separator, List.cons_append, List.cons_append, List.nil_append, pieces_cons, hsemicolon,
    pieces_cons, hnewline]
  rfl

theorem expandPieces_separator (params : List Value) (next : Nat) (ps : List Piece) :
    expandPieces params next (separator.map .plain ++ ps) =
      separator ++ expandPieces params next ps := rfl

/-- The first statement of several takes its own values, and leaves the others to what follows. -/
theorem expand_first {all before after : List Value} (next : Nat) (hc : c.BindsOwn)
    (hall : all = before ++ (c.params ++ after)) (hfits : all.length < wordLimit)
    (hbare : (pieces c.statement).count .bare = 0 ∨
      next = before.length ∧ (pieces c.statement).count .bare = c.params.length)
    (ds : List Char) (hds : Separates ds) :
    expandPieces all next (pieces (shiftPlaceholders before.length c.statement ++ ds)) =
      expandParameters c.params c.statement ++
        expandPieces all (next + (pieces c.statement).count .bare) (pieces ds) := by
  have hvalues : ∀ i, i < c.params.length → all[i + before.length]? = c.params[i]? := by
    intro i hi
    rw [hall, List.getElem?_append_right (Nat.le_add_left ..), Nat.add_sub_cancel,
      List.getElem?_append_left hi]
  rw [shiftPlaceholders_eq, pieces_respell_append (respells_renumber _) hds (.inl hc.quotes),
    expandPieces_append, count_bare_renumber]
  congr 1
  apply expandPieces_renumber hvalues hfits (fun _ _ => hc.statement_numbered)
  intro hmem
  have hpos := List.count_pos_iff.mpr hmem
  rcases hbare with hnone | ⟨rfl, hcount⟩
  · omega
  · exact ⟨(Nat.zero_add _).symm, by omega⟩

theorem expand_statements {cs : List Command} {all before : List Value} {next : Nat}
    (hcs : ∀ c ∈ cs, c.BindsOwn) (hall : all = before ++ cs.flatMap params)
    (hfits : all.length < wordLimit)
    (hbare : (∀ c ∈ cs, c.UsesNoBare) ∨ next = before.length ∧ ∀ c ∈ cs, c.FillsBare) :
    expandPieces all next (pieces (separator.intercalate (statements before.length cs))) =
      separator.intercalate (cs.map fun c => expandParameters c.params c.statement) := by
  induction cs generalizing before next with
  | nil => simp [statements, expandPieces]
  | cons c rest ih =>
    have hc := hcs c List.mem_cons_self
    have hrest := fun d hd => hcs d (List.mem_cons_of_mem c hd)
    have hfirst := expand_first next hc (by simpa using hall) hfits
      (hbare.imp (fun h => (h c List.mem_cons_self).count_statement hc)
        fun h => ⟨h.1, (h.2 c List.mem_cons_self).count_statement hc⟩)
    have hnext : (∀ d ∈ rest, d.UsesNoBare) ∨
        next + (pieces c.statement).count .bare = (before ++ c.params).length ∧
          ∀ d ∈ rest, d.FillsBare := by
      rcases hbare with h | ⟨rfl, h⟩
      · exact .inl fun d hd => h d (List.mem_cons_of_mem c hd)
      · refine .inr ⟨?_, fun d hd => h d (List.mem_cons_of_mem c hd)⟩
        rw [(h c List.mem_cons_self).count_statement hc, List.length_append]
    have htail := ih hrest (by simpa using hall) hnext
    rw [List.length_append] at htail
    cases rest with
    | nil =>
      have hlast := hfirst [] separates_nil
      rw [List.append_nil] at hlast
      simpa [statements, expandPieces] using hlast
    | cons d rest =>
      have hjoined : separator.intercalate (statements before.length (c :: d :: rest)) =
          shiftPlaceholders before.length c.statement ++ (separator ++
            separator.intercalate (statements (before.length + c.params.length) (d :: rest))) := by
        rw [← List.append_assoc]
        exact List.intercalate_cons_cons
      rw [hjoined, hfirst _ (separates_separator _), pieces_separator, expandPieces_separator,
        htail, ← List.append_assoc]
      exact List.intercalate_cons_cons.symm

/-- Expanding a combined command gives the expanded statements of its commands. -/
theorem expand_combine {cs : List Command} (hcs : ∀ c ∈ cs, c.BindsOwn)
    (hbare : (∀ c ∈ cs, c.UsesNoBare) ∨ ∀ c ∈ cs, c.FillsBare)
    (hfits : (cs.flatMap params).length < wordLimit) :
    expandParameters (combine cs).params (combine cs).sql.toList =
      separator.intercalate (cs.map fun c => expandParameters c.params c.statement) := by
  have hsql : (combine cs).sql.toList = separator.intercalate (statements 0 cs) :=
    String.toList_ofList
  rw [expandParameters, hsql]
  exact expand_statements hcs (List.nil_append _).symm hfits (hbare.imp_right fun h => ⟨rfl, h⟩)

/-- Two statements that count from one and from zero, with a quote inside a literal. -/
theorem expand_combine_pair :
    expandParameters
        (combine [⟨"a = $1 '?''';", [.bool true], .unchecked, none, none⟩,
          ⟨"b = @p0", [.null], .unchecked, none, none⟩]).params
        (combine [⟨"a = $1 '?''';", [.bool true], .unchecked, none, none⟩,
          ⟨"b = @p0", [.null], .unchecked, none, none⟩]).sql.toList =
      "a = TRUE '?''';\nb = NULL".toList := by
  have hfirst : pieces "a = $1 '?''';".toList = [.plain 'a', .plain ' ', .plain '=', .plain ' ',
      .numbered .dollar ['1'], .plain ' ', .literal "'?'''".toList, .plain ';'] := by
    decide +kernel
  have hsecond : pieces "b = @p0".toList = [.plain 'b', .plain ' ', .plain '=', .plain ' ',
      .numbered .at ['0']] := by
    decide +kernel
  refine (expand_combine ?_ (.inl ?_) ?_).trans ?_
  · simp only [List.forall_mem_cons, List.not_mem_nil, false_implies, implies_true, and_true]
    refine ⟨⟨by decide +kernel, ?_⟩, ⟨by decide +kernel, ?_⟩⟩
    · intro style digits hmem
      rw [hfirst] at hmem
      simp at hmem
      obtain ⟨rfl, rfl⟩ := hmem
      exact ⟨1, 0, by decide, rfl, by decide⟩
    · intro style digits hmem
      rw [hsecond] at hmem
      simp at hmem
      obtain ⟨rfl, rfl⟩ := hmem
      exact ⟨0, 0, by decide, rfl, by decide⟩
  · simp only [List.forall_mem_cons, List.not_mem_nil, false_implies, implies_true, and_true]
    exact ⟨by rw [UsesNoBare, hfirst]; decide, by rw [UsesNoBare, hsecond]; decide⟩
  · decide
  · decide +kernel

end Command

end OneConnection
