import Mathlib.Algebra.Ring.Nat
import Mathlib.Data.List.DropRight
import OneConnection.Proofs.Sql.Binding

/-!
# Endings of statements

What may stand behind a statement without a trace in the combined command: semicolons and then blank
space, with no blank space in front of the semicolons. Of every other mixture of the two something
stays, and a combined command may fall into more statements than it has commands.
-/

namespace OneConnection

namespace Text

variable {p : Char → Bool} {cs ds : List Char}

theorem dropEndWhile_append_of_all (h : ∀ d ∈ ds, p d = true) :
    dropEndWhile p (cs ++ ds) = dropEndWhile p cs := by
  have hreverse : ∀ d ∈ ds.reverse, p d = true := fun d hd => h d (List.mem_reverse.mp hd)
  rw [dropEndWhile, List.reverse_append, List.dropWhile_append_of_pos hreverse, ← dropEndWhile]

theorem dropEndWhile_append_of_ne_nil (h : dropEndWhile p ds ≠ []) :
    dropEndWhile p (cs ++ ds) = cs ++ dropEndWhile p ds := by
  have hreverse : (ds.reverse.dropWhile p).isEmpty = false := by simpa [dropEndWhile] using h
  rw [dropEndWhile, List.reverse_append, List.dropWhile_append, hreverse]
  simp [dropEndWhile]

theorem prefix_dropEndWhile : dropEndWhile p cs <+: cs := List.rdropWhile_prefix p cs

theorem dropEndWhile_eq_nil_iff : dropEndWhile p cs = [] ↔ ∀ d ∈ cs, p d = true :=
  List.rdropWhile_eq_nil_iff

/-- A text stays as it is if it has another character at its end. -/
theorem dropEndWhile_eq_self_iff :
    dropEndWhile p cs = cs ↔ ∀ d, cs.getLast? = some d → p d = false := by
  refine List.rdropWhile_eq_self_iff.trans ⟨fun h d hd => ?_, fun h hne => ?_⟩
  · obtain ⟨hne, rfl⟩ := List.mem_getLast?_eq_getLast hd
    exact Bool.eq_false_iff.mpr (h hne)
  · exact Bool.eq_false_iff.mp (h _ (List.getLast?_eq_some_getLast hne))

end Text

namespace Sql

open Text

theorem spell_append (ps qs : List Piece) : spell (ps ++ qs) = spell ps ++ spell qs :=
  List.flatMap_append

theorem spell_plain (cs : List Char) : spell (cs.map .plain) = cs := by
  rw [spell, List.flatMap_map]
  exact List.flatMap_singleton' cs

end Sql

namespace Command

open Sql Text

/-! ## What is kept of an ending -/

/-- Blank space and semicolons in any order. -/
def IsEnding (cs : List Char) : Prop := ∀ d ∈ cs, d = ';' ∨ isBlank d = true

theorem isEnding_iff {cs : List Char} :
    IsEnding cs ↔ (cs.all fun d => d == ';' || isBlank d) = true := by
  simp [IsEnding]

/-- Semicolons and then blank space. Before semicolons, the text must not end in blank space. -/
def IsCutOff (cs ending : List Char) : Prop :=
  ∃ semicolons blank, ending = semicolons ++ blank ∧ (∀ d ∈ semicolons, d = ';') ∧
    (∀ d ∈ blank, isBlank d = true) ∧
    (semicolons = [] ∨ ∀ d, cs.getLast? = some d → isBlank d = false)

/-- The command with more text at its end. -/
def ended (c : Command) (ending : List Char) : Command :=
  { c with sql := c.sql ++ String.ofList ending }

variable {c : Command} {ending : List Char}

theorem sql_ended : (c.ended ending).sql.toList = c.sql.toList ++ ending := by
  simp [ended]

theorem isCutOff_iff {cs : List Char} : IsCutOff cs ending ↔
    trimEnd ending = [] ∨
      dropEndWhile (· = ';') (trimEnd ending) = [] ∧ trimEnd cs = cs := by
  constructor
  · rintro ⟨semicolons, blank, rfl, hsemicolons, hblank, hstart⟩
    have hends : ∀ d, semicolons.getLast? = some d → isBlank d = false := by
      intro d hd
      rw [hsemicolons d (List.mem_of_getLast? hd)]
      decide
    rw [trimEnd, dropEndWhile_append_of_all hblank, dropEndWhile_eq_self_iff.mpr hends]
    refine hstart.imp_right fun hstart => ⟨?_, dropEndWhile_eq_self_iff.mpr hstart⟩
    exact dropEndWhile_eq_nil_iff.mpr fun d hd => decide_eq_true (hsemicolons d hd)
  · rintro (hblank | ⟨hsemicolons, hstart⟩)
    · exact ⟨[], ending, rfl, List.forall_mem_nil _, dropEndWhile_eq_nil_iff.mp hblank, .inl rfl⟩
    · obtain ⟨blank, hparts, hblank⟩ := append_of_dropEndWhile isBlank ending
      have hall := dropEndWhile_eq_nil_iff.mp hsemicolons
      exact ⟨trimEnd ending, blank, hparts.symm, fun d hd => of_decide_eq_true (hall d hd), hblank,
        .inr (dropEndWhile_eq_self_iff.mp hstart)⟩

/-- A statement only grows by what stands behind it, and not at all where that is cut off. -/
theorem statement_ended (hending : IsEnding ending) :
    ∃ kept, (c.ended ending).statement = c.statement ++ kept ∧ IsEnding kept ∧
      (kept = [] ↔ IsCutOff c.sql.toList ending) := by
  obtain ⟨rest, hsql, hrest⟩ := c.statement_append
  rw [isCutOff_iff, statement, sql_ended]
  by_cases hnone : trimEnd ending = []
  · have hall := dropEndWhile_eq_nil_iff.mp hnone
    refine ⟨[], ?_, List.forall_mem_nil _, iff_of_true rfl (.inl hnone)⟩
    rw [trimEnd, dropEndWhile_append_of_all hall, List.append_nil, statement, trimEnd]
  · have htrim : trimEnd (c.sql.toList ++ ending) = c.sql.toList ++ trimEnd ending :=
      dropEndWhile_append_of_ne_nil hnone
    rw [htrim]
    by_cases hsemicolons : dropEndWhile (· = ';') (trimEnd ending) = []
    · have hall := dropEndWhile_eq_nil_iff.mp hsemicolons
      rw [dropEndWhile_append_of_all hall]
      by_cases hstart : trimEnd c.sql.toList = c.sql.toList
      · refine ⟨[], ?_, List.forall_mem_nil _, iff_of_true rfl (.inr ⟨hsemicolons, hstart⟩)⟩
        rw [statement, hstart, List.append_nil]
      · refine ⟨rest, ?_, hrest, iff_of_false ?_ (by simp [hnone, hstart])⟩
        · rw [← hsql]
          refine dropEndWhile_eq_self_iff.mpr fun d hd => decide_eq_false ?_
          rintro rfl
          exact hstart (dropEndWhile_eq_self_iff.mpr fun d' hd' => by
            cases hd.symm.trans hd'
            decide)
        · rintro rfl
          rw [List.append_nil] at hsql
          refine hstart (prefix_dropEndWhile.eq_of_length_le ?_)
          have hle : c.statement.length ≤ (trimEnd c.sql.toList).length :=
            prefix_dropEndWhile.length_le
          rwa [← hsql] at hle
    · -- Blank space in front of semicolons keeps itself and what comes before it.
      rw [dropEndWhile_append_of_ne_nil hsemicolons, hsql, List.append_assoc]
      refine ⟨_, rfl, ?_, iff_of_false (by simp [hsemicolons]) (by simp [hnone, hsemicolons])⟩
      intro d hd
      rcases List.mem_append.mp hd with hd | hd
      · exact hrest d hd
      · exact hending d (prefix_dropEndWhile.mem (prefix_dropEndWhile.mem hd))

/-! ## Endings in combined commands -/

theorem separates_ending (hending : IsEnding ending) : Separates ending ∧ '\'' ∉ ending :=
  ⟨separates_of_cut hending, fun hmem => absurd (hending _ hmem) (by decide)⟩

theorem shiftPlaceholders_append (offset : Nat) (cs : List Char) (hending : IsEnding ending) :
    shiftPlaceholders offset (cs ++ ending) = shiftPlaceholders offset cs ++ ending := by
  obtain ⟨hseparates, hquote⟩ := separates_ending hending
  have hidle : ∀ d ∈ ending, IsIdle d := by
    intro d hd
    rcases hending d hd with rfl | hblank
    · constructor <;> decide
    · exact isIdle_of_isBlank hblank
  have hplain : (ending.map Piece.plain).map (renumber offset) = ending.map .plain := by
    rw [List.map_map]
    exact List.map_congr_left fun d _ => (respells_renumber offset).plain d
  rw [shiftPlaceholders_eq, shiftPlaceholders_eq, pieces_append hseparates (.inr hquote),
    pieces_of_idle hidle, List.map_append, spell_append, hplain, spell_plain]

/-! ## Texts of several statements -/

/-- What stands between the separators of a text. -/
def split : List Char → List (List Char)
  | [] => [[]]
  | ';' :: '\n' :: rest => [] :: split rest
  | c :: rest => (split rest).modifyHead (c :: ·)

theorem split_other {c : Char} {rest : List Char} (h : ¬ (c = ';' ∧ rest.head? = some '\n')) :
    split (c :: rest) = (split rest).modifyHead (c :: ·) := by
  rw [split]
  rintro tail rfl rfl
  exact h ⟨rfl, rfl⟩

theorem length_split_cons (c : Char) (rest : List Char) :
    (split (c :: rest)).length =
      (split rest).length + if c = ';' ∧ rest.head? = some '\n' then 1 else 0 := by
  split_ifs with h
  · obtain ⟨rfl, hhead⟩ := h
    obtain ⟨tail, rfl⟩ := List.head?_eq_some_iff.mp hhead
    have hbreak : split ('\n' :: tail) = (split tail).modifyHead ('\n' :: ·) :=
      split_other (by simp)
    rw [hbreak, List.length_modifyHead, split, List.length_cons]
  · rw [split_other h, List.length_modifyHead, Nat.add_zero]

theorem length_split_pos (cs : List Char) : 0 < (split cs).length := by
  induction cs with
  | nil => exact Nat.one_pos
  | cons c rest ih =>
    rw [length_split_cons]
    omega

theorem split_append_separator (cs ds : List Char) :
    split (cs ++ (separator ++ ds)) = split cs ++ split ds := by
  fun_induction split cs with
  | case1 => rfl
  | case2 rest ih => simp [split, ih]
  | case3 c rest h ih =>
    have hc : ¬ (c = ';' ∧ (rest ++ (separator ++ ds)).head? = some '\n') := by
      rintro ⟨rfl, hhead⟩
      cases rest with
      | nil => cases hhead
      | cons d tail =>
        cases hhead
        exact h tail rfl rfl
    obtain ⟨first, others, hfirst⟩ :=
      List.exists_cons_of_ne_nil (List.ne_nil_of_length_pos (length_split_pos rest))
    rw [List.cons_append, split_other hc, ih, hfirst]
    rfl

/-- A joined text falls into what its parts fall into. -/
theorem split_intercalate {css : List (List Char)} (h : css ≠ []) :
    split (separator.intercalate css) = css.flatMap split := by
  induction css with
  | nil => exact absurd rfl h
  | cons cs rest ih =>
    cases rest with
    | nil => simp
    | cons ds rest =>
      rw [List.intercalate_cons_cons, List.append_assoc, split_append_separator,
        ih (List.cons_ne_nil ds rest)]
      rfl

theorem length_split_eq_one_iff {cs : List Char} :
    (split cs).length = 1 ↔ ¬ separator <:+: cs := by
  induction cs with
  | nil => simp [split, separator]
  | cons c rest ih =>
    have hpos := length_split_pos rest
    have hfront : separator <+: c :: rest ↔ c = ';' ∧ rest.head? = some '\n' := by
      rw [separator, List.cons_prefix_cons, List.singleton_prefix_iff_head?_eq_some, eq_comm]
    rw [length_split_cons, List.infix_cons_iff, hfront, not_or, ← ih]
    split_ifs with h
    · exact iff_of_false (by omega) (by simp [h])
    · simp [h]

/-! ## Parts of renumbered statements -/

/-- Two texts that fall into as many parts, whatever text stands before them. -/
structure SplitsLike (cs ds : List Char) : Prop where
  length : (split cs).length = (split ds).length
  head : cs.head? = some '\n' ↔ ds.head? = some '\n'

theorem SplitsLike.prepend {cs ds : List Char} (h : SplitsLike cs ds) (text : List Char) :
    SplitsLike (text ++ cs) (text ++ ds) := by
  induction text with
  | nil => exact h
  | cons c rest ih =>
    constructor
    · rw [List.cons_append, List.cons_append, length_split_cons, length_split_cons, ih.length]
      simp only [ih.head]
    · exact Iff.rfl

theorem length_split_number {digits : List Char} (h : IsNumber digits) (cs : List Char) :
    (split (digits ++ cs)).length = (split cs).length := by
  obtain ⟨-, hdigits⟩ := h
  induction digits with
  | nil => rfl
  | cons d rest ih =>
    obtain ⟨hd, hrest⟩ := List.forall_mem_cons.mp hdigits
    rw [List.cons_append, length_split_cons, ih hrest, if_neg, Nat.add_zero]
    rintro ⟨rfl, -⟩
    exact absurd hd (by decide)

/-- Numbers hold no separator and start none. -/
theorem SplitsLike.numbers {cs ds digits digits' : List Char} (h : SplitsLike cs ds)
    (hdigits : IsNumber digits) (hdigits' : IsNumber digits') :
    SplitsLike (digits ++ cs) (digits' ++ ds) := by
  have hstart : ∀ {digits cs : List Char}, IsNumber digits →
      (digits ++ cs).head? ≠ some '\n' := by
    rintro (_ | ⟨d, rest⟩) cs ⟨hne, hall⟩ hhead
    · exact hne rfl
    · cases hhead
      exact absurd (hall _ List.mem_cons_self) (by decide)
  constructor
  · rw [length_split_number hdigits, length_split_number hdigits', h.length]
  · exact iff_of_false (hstart hdigits) (hstart hdigits')

/-- A text falls into as many parts when its placeholders get other numbers. -/
theorem splitsLike_respell {f : Piece → Piece} (hf : Respells f) (cs : List Char) :
    SplitsLike (spell ((pieces cs).map f)) cs := by
  fun_induction pieces cs with
  | case1 => exact ⟨rfl, Iff.rfl⟩
  | case2 c rest ih =>
    rw [List.map_cons, spell_cons]
    conv => arg 2; rw [← text_nextPiece c rest]
    cases hp : (nextPiece c rest).1 with
    | plain d => rw [hf.plain]; exact ih.prepend _
    | literal text => rw [hf.literal]; exact ih.prepend _
    | bare => rw [hf.bare]; exact ih.prepend _
    | numbered style digits =>
      obtain ⟨digits', heq, hdigits'⟩ := hf.numbered style digits
      have hdigits := isNumber_of_nextPiece hp
      rw [heq, Piece.text, Piece.text, List.append_assoc, List.append_assoc]
      exact (ih.numbers (hdigits' hdigits) hdigits).prepend _

/-! ## Combining -/

variable {cs : List Command} {members : List (Command × List Char)}

/-- A combined command falls into one part for each command, and one more for every separator that
a statement holds itself. -/
theorem length_split_combine (h : cs ≠ []) : (split (combine cs).sql.toList).length =
    cs.length + (cs.map fun c => (split c.statement).length - 1).sum := by
  have hparts : ∀ offset, ((statements offset cs).flatMap split).length =
      cs.length + (cs.map fun c => (split c.statement).length - 1).sum := by
    clear h
    induction cs with
    | nil => exact fun _ => rfl
    | cons c rest ih =>
      intro offset
      have hlike := splitsLike_respell (respells_renumber offset) c.statement
      have hpos := length_split_pos c.statement
      rw [statements, List.flatMap_cons, List.length_append, ih, shiftPlaceholders_eq, hlike.length,
        List.map_cons, List.sum_cons, List.length_cons]
      omega
  have hne : statements 0 cs ≠ [] := by
    cases cs with
    | nil => exact absurd rfl h
    | cons c rest => exact List.cons_ne_nil _ _
  have hsql : (combine cs).sql.toList = separator.intercalate (statements 0 cs) :=
    String.toList_ofList
  rw [hsql, split_intercalate hne, hparts]

theorem length_statements_cons (offset : Nat) (c : Command) (rest : List Command) :
    (separator.intercalate (statements offset (c :: rest))).length =
      (shiftPlaceholders offset c.statement).length + (if rest = [] then 0 else 2) +
        (separator.intercalate (statements (offset + c.params.length) rest)).length := by
  cases rest with
  | nil => simp [statements]
  | cons d rest =>
    rw [statements, statements, List.intercalate_cons_cons, if_neg (List.cons_ne_nil d rest),
      List.length_append, List.length_append]
    rfl

/-- A combined command grows by what is kept of the endings. -/
theorem length_statements_ended (hending : ∀ m ∈ members, IsEnding m.2) (offset : Nat) :
    (separator.intercalate (statements offset (members.map fun m => m.1.ended m.2))).length =
      (separator.intercalate (statements offset (members.map Prod.fst))).length +
        (members.map fun m => (m.1.ended m.2).statement.length - m.1.statement.length).sum := by
  induction members generalizing offset with
  | nil => rfl
  | cons m rest ih =>
    obtain ⟨hm, hrest⟩ := List.forall_mem_cons.mp hending
    obtain ⟨kept, hstatement, hkept, -⟩ := statement_ended (c := m.1) hm
    have hparams : (m.1.ended m.2).params = m.1.params := rfl
    simp only [List.map_cons, List.sum_cons]
    rw [length_statements_cons, length_statements_cons, hparams, ih hrest, hstatement,
      shiftPlaceholders_append _ _ hkept]
    simp only [List.length_append, List.map_eq_nil_iff]
    omega

theorem statements_ended (h : ∀ m ∈ members, (m.1.ended m.2).statement = m.1.statement)
    (offset : Nat) :
    statements offset (members.map fun m => m.1.ended m.2) =
      statements offset (members.map Prod.fst) := by
  induction members generalizing offset with
  | nil => rfl
  | cons m rest ih =>
    obtain ⟨hm, hrest⟩ := List.forall_mem_cons.mp h
    have hparams : (m.1.ended m.2).params = m.1.params := rfl
    rw [List.map_cons, List.map_cons, statements, statements, hm, hparams, ih hrest]

theorem longestTimeout_ended (members : List (Command × List Char)) :
    longestTimeout (members.map fun m => m.1.ended m.2) =
      longestTimeout (members.map Prod.fst) := by
  induction members with
  | nil => rfl
  | cons m rest ih =>
    have htimeout : (m.1.ended m.2).timeout = m.1.timeout := rfl
    rw [List.map_cons, List.map_cons, longestTimeout, longestTimeout, ih, htimeout]

theorem combine_ended_eq_iff (hending : ∀ m ∈ members, IsEnding m.2) :
    combine (members.map fun m => m.1.ended m.2) = combine (members.map Prod.fst) ↔
      ∀ m ∈ members, (m.1.ended m.2).statement = m.1.statement := by
  constructor
  · intro heq m hm
    have hlength := length_statements_ended hending 0
    have hsql := congrArg (fun c : Command => c.sql.toList.length) heq
    simp only [combine, String.toList_ofList] at hsql
    have hsum : (members.map fun m =>
        (m.1.ended m.2).statement.length - m.1.statement.length).sum = 0 := by omega
    have hnone := List.sum_eq_zero_iff_forall_eq_nat.mp hsum _
      (List.mem_map_of_mem (f := fun m : Command × List Char =>
        (m.1.ended m.2).statement.length - m.1.statement.length) hm)
    obtain ⟨kept, hstatement, -, -⟩ := statement_ended (c := m.1) (hending m hm)
    rw [hstatement, List.length_append, Nat.add_sub_cancel_left, List.length_eq_zero_iff] at hnone
    rw [hstatement, hnone, List.append_nil]
  · intro h
    have hparams : (members.map fun m => m.1.ended m.2).flatMap params =
        (members.map Prod.fst).flatMap params := by
      rw [List.flatMap_map, List.flatMap_map]
      rfl
    have hprovider : (members.map fun m => m.1.ended m.2).head?.bind provider =
        (members.map Prod.fst).head?.bind provider := by
      cases members <;> rfl
    rw [combine, combine, statements_ended h, longestTimeout_ended, hparams, hprovider]

theorem statement_ended_eq_iff (hending : IsEnding ending) :
    (c.ended ending).statement = c.statement ↔ IsCutOff c.sql.toList ending := by
  obtain ⟨kept, hstatement, -, hkept⟩ := statement_ended (c := c) hending
  rw [hstatement, List.append_right_eq_self, hkept]

/-- Endings leave no trace in a combined command exactly if each of them is cut off. The combined
command falls into one part for each command exactly if no statement keeps a separator, and a single
statement keeps none of an ending that is cut off. -/
theorem combine_ended (hending : ∀ m ∈ members, IsEnding m.2) :
    (combine (members.map fun m => m.1.ended m.2) = combine (members.map Prod.fst) ↔
      ∀ m ∈ members, IsCutOff m.1.sql.toList m.2) ∧
    (members ≠ [] →
      ((split (combine (members.map fun m => m.1.ended m.2)).sql.toList).length = members.length ↔
        ∀ m ∈ members, ¬ separator <:+: (m.1.ended m.2).statement)) ∧
    ∀ m ∈ members, ¬ separator <:+: m.1.sql.toList → IsCutOff m.1.sql.toList m.2 →
      ¬ separator <:+: (m.1.ended m.2).statement := by
  refine ⟨?_, fun hne => ?_, fun m hm hsingle hcut => ?_⟩
  · rw [combine_ended_eq_iff hending]
    exact forall₂_congr fun m hm => statement_ended_eq_iff (hending m hm)
  · rw [length_split_combine (by simpa using hne), List.length_map, Nat.add_eq_left,
      List.sum_eq_zero_iff_forall_eq_nat, List.map_map, List.forall_mem_map]
    refine forall₂_congr fun m _ => ?_
    have hpos := length_split_pos (m.1.ended m.2).statement
    rw [← length_split_eq_one_iff, Function.comp_apply]
    omega
  · rw [(statement_ended_eq_iff (hending m hm)).mpr hcut]
    obtain ⟨rest, hsql, -⟩ := m.1.statement_append
    have hpart : m.1.statement <:+: m.1.sql.toList := hsql ▸ List.infix_append' [] _ rest
    exact fun hcontains => hsingle (hcontains.trans hpart)

/-- Two terminators, and blank space behind them, leave no trace. -/
theorem combine_ended_twice :
    let first : Command := { sql := "SELECT a" }
    let second : Command := { sql := "SELECT b" }
    combine [first.ended ";;\n".toList, second.ended " ".toList] = combine [first, second] ∧
      (split (combine [first.ended ";;\n".toList, second.ended " ".toList]).sql.toList).length =
        2 := by
  intro first second
  let members : List (Command × List Char) := [(first, ";;\n".toList), (second, " ".toList)]
  have hending : ∀ m ∈ members, IsEnding m.2 := by
    simp only [members, List.forall_mem_cons, List.not_mem_nil, false_implies, implies_true,
      and_true]
    exact ⟨isEnding_iff.mpr (by decide), isEnding_iff.mpr (by decide)⟩
  have hcut : ∀ m ∈ members, IsCutOff m.1.sql.toList m.2 := by
    simp only [members, List.forall_mem_cons, List.not_mem_nil, false_implies, implies_true,
      and_true]
    refine ⟨⟨[';', ';'], ['\n'], by decide, by simp, List.forall_mem_singleton.mpr (by decide),
      .inr ?_⟩, ⟨[], [' '], by decide, List.forall_mem_nil _,
        List.forall_mem_singleton.mpr (by decide), .inl rfl⟩⟩
    have hlast : "SELECT a".toList.getLast? = some 'a' := by decide +kernel
    rintro _ hd
    cases hlast.symm.trans hd
    decide
  have hsingle : ∀ m ∈ members, ¬ separator <:+: m.1.sql.toList := by
    simp only [members, List.forall_mem_cons, List.not_mem_nil, false_implies, implies_true,
      and_true]
    exact ⟨length_split_eq_one_iff.mp (by decide +kernel),
      length_split_eq_one_iff.mp (by decide +kernel)⟩
  obtain ⟨hcombine, hparts, hkept⟩ := combine_ended hending
  exact ⟨hcombine.mpr hcut, (hparts (List.cons_ne_nil _ _)).mpr fun m hm =>
    hkept m hm (hsingle m hm) (hcut m hm)⟩

/-- Of two terminators on two lines the first one stays, and an empty statement comes to stand
between two queries. -/
theorem terminator_left_over :
    let first : Command := { sql := "SELECT a" }
    let second : Command := { sql := "SELECT b" }
    IsEnding ";\n;".toList ∧
      ¬ separator <:+: first.sql.toList ∧ ¬ separator <:+: second.sql.toList ∧
      (combine [first.ended ";\n;".toList, second]).sql = "SELECT a;\n;\nSELECT b" ∧
      combine [first.ended ";\n;".toList, second] ≠ combine [first, second] ∧
      (split (combine [first.ended ";\n;".toList, second]).sql.toList).length = 3 := by
  intro first second
  have hjoined : (combine [first.ended ";\n;".toList, second]).sql =
      "SELECT a;\n;\nSELECT b" := by decide +kernel
  have hplain : (combine [first, second]).sql = "SELECT a;\nSELECT b" := by decide +kernel
  refine ⟨isEnding_iff.mpr (by decide), length_split_eq_one_iff.mp (by decide +kernel),
    length_split_eq_one_iff.mp (by decide +kernel), hjoined, fun heq => ?_, ?_⟩
  · have hsql := congrArg sql heq
    rw [hjoined, hplain] at hsql
    exact absurd hsql (by decide +kernel)
  · rw [hjoined]
    decide +kernel

end Command

end OneConnection
