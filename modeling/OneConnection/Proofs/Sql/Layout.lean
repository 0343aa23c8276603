import OneConnection.Proofs.Sql.Endings
import OneConnection.Sql.Clause

/-!
# Where clauses are broken

Laying out a statement puts line breaks in front of clauses and changes nothing else. In a text
whose quotes pair up every break stands outside the quoted literals. Main statement:
`layOut_broken`.
-/

namespace OneConnection.Sql

open Text

/-! ## Inside and outside of quotes -/

/-- Whether the text behind `cs` is inside quotes, if `cs` itself starts inside or outside. -/
def insideAfter : (inside : Bool) → List Char → Bool
  | inside, [] => inside
  | inside, c :: cs => insideAfter (if c = '\'' then !inside else inside) cs

theorem insideAfter_eq (inside : Bool) (cs : List Char) :
    insideAfter inside cs = (inside ^^ decide (cs.count '\'' % 2 = 1)) := by
  induction cs generalizing inside with
  | nil => simp [insideAfter]
  | cons c cs ih =>
    rw [insideAfter, ih]
    by_cases hc : c = '\''
    · subst hc
      have hparity : decide ((cs.count '\'' + 1) % 2 = 1) = !decide (cs.count '\'' % 2 = 1) := by
        rw [← decide_not, decide_eq_decide]
        omega
      rw [if_pos rfl, List.count_cons_self, hparity]
      simp
    · rw [if_neg hc, List.count_cons_of_ne hc]

theorem insideAfter_of_even {cs : List Char} (h : cs.count '\'' % 2 = 0) (inside : Bool) :
    insideAfter inside cs = inside := by
  simp [insideAfter_eq, h]

/-! ## Breaks -/

/-- A keyword that starts a clause stands at the front of the text. -/
def StartsClause (cs : List Char) : Prop :=
  ∃ keyword ∈ clauseKeywords, (splitKeyword keyword cs).isSome = true

/-- `out` is the text `cs` with line breaks in front of some clauses, each of them outside of
quotes. What follows the text is `after`, and `inside` says whether the text starts inside. -/
inductive Broken (after : List Char) : (inside : Bool) → (cs out : List Char) → Prop
  | done {inside : Bool} : Broken after inside [] []
  | quote {inside : Bool} {cs out : List Char} :
      Broken after (!inside) cs out → Broken after inside ('\'' :: cs) ('\'' :: out)
  | other {inside : Bool} {c : Char} {cs out : List Char} :
      c ≠ '\'' → Broken after inside cs out → Broken after inside (c :: cs) (c :: out)
  | clause {c : Char} {cs out : List Char} : StartsClause (c :: cs ++ after) → c ≠ '\'' →
      Broken after false cs out → Broken after false (c :: cs) (clauseBreak ++ c :: out)

namespace Broken

variable {after cs ds out out' : List Char} {inside : Bool}

/-- A text without breaks. -/
theorem refl (after : List Char) (inside : Bool) (cs : List Char) : Broken after inside cs cs := by
  induction cs generalizing inside with
  | nil => exact done
  | cons c cs ih =>
    by_cases hc : c = '\''
    · subst hc
      exact quote (ih _)
    · exact other hc (ih _)

theorem append (h : Broken (ds ++ after) inside cs out)
    (h' : Broken after (insideAfter inside cs) ds out') :
    Broken after inside (cs ++ ds) (out ++ out') := by
  induction h with
  | done => exact h'
  | quote _ ih => exact quote (ih h')
  | other hc _ ih =>
    rw [insideAfter, if_neg hc] at h'
    exact other hc (ih h')
  | clause hstarts hc _ ih =>
    rw [insideAfter, if_neg hc] at h'
    rw [← List.append_assoc] at hstarts
    have hrest := clause hstarts hc (ih h')
    simpa using hrest

/-- Two texts in a row are broken each for itself. -/
theorem split (h : Broken after inside (cs ++ ds) out) : ∃ front back, out = front ++ back ∧
    Broken (ds ++ after) inside cs front ∧ Broken after (insideAfter inside cs) ds back := by
  induction cs generalizing inside out with
  | nil => exact ⟨[], out, rfl, done, h⟩
  | cons c cs ih =>
    cases h with
    | quote h =>
      obtain ⟨front, back, rfl, hfront, hback⟩ := ih h
      exact ⟨'\'' :: front, back, rfl, quote hfront, hback⟩
    | other hc h =>
      obtain ⟨front, back, rfl, hfront, hback⟩ := ih h
      refine ⟨c :: front, back, rfl, other hc hfront, ?_⟩
      rwa [insideAfter, if_neg hc]
    | clause hstarts hc h =>
      obtain ⟨front, back, rfl, hfront, hback⟩ := ih h
      refine ⟨clauseBreak ++ c :: front, back, by simp, clause ?_ hc hfront, ?_⟩
      · rw [List.cons_append, ← List.append_assoc]
        exact hstarts
      · rwa [insideAfter, if_neg hc]

/-- A break in front of the first character goes with the blank space there. -/
theorem trimStart {c : Char} (h : Broken after false (c :: cs) out) (hc : isBlank c = false) :
    ∃ rest, Text.trimStart out = c :: rest ∧ Broken after false (c :: cs) (c :: rest) := by
  have hkept : ∀ rest, Text.trimStart (c :: rest) = c :: rest := fun rest =>
    List.dropWhile_cons_of_neg (by simp [hc])
  cases h with
  | quote h => exact ⟨_, hkept _, quote h⟩
  | other hquote h => exact ⟨_, hkept _, other hquote h⟩
  | clause _ hquote h =>
    have hblank : ∀ d ∈ clauseBreak, isBlank d = true := by
      simp only [clauseBreak, List.forall_mem_cons]
      exact ⟨by decide, by decide, by decide, by decide, by decide, List.forall_mem_nil _⟩
    refine ⟨_, ?_, other hquote h⟩
    rw [Text.trimStart, List.dropWhile_append_of_pos hblank]
    exact hkept _

end Broken

/-! ## Laying out -/

theorem isSameLetter_quote : (clauseKeywords.all fun keyword =>
    keyword.all fun k => !isSameLetter k '\'') = true := by decide +kernel

theorem quote_not_mem_of_splitKeyword {keyword cs taken rest : List Char}
    (hletters : ∀ k ∈ keyword, isSameLetter k '\'' = false)
    (h : splitKeyword keyword cs = some (taken, rest)) : '\'' ∉ taken := by
  fun_induction splitKeyword keyword cs generalizing taken with
  | case1 =>
    cases h
    exact List.not_mem_nil
  | case2 => cases h
  | case3 k keyword c cs hsame taken' rest' hsplit ih =>
    cases h
    obtain ⟨hk, hkeyword⟩ := List.forall_mem_cons.mp hletters
    rw [List.mem_cons, not_or]
    refine ⟨?_, ih hkeyword hsplit⟩
    rintro rfl
    rw [hk] at hsame
    cases hsame
  | case4 => cases h
  | case5 => cases h

/-- The keyword that is found at a place starts a clause there, and no quote belongs to it. -/
theorem startsClause_of_clauseAt {before : Option Char} {cs taken rest : List Char}
    (h : clauseAt before cs = some (taken, rest)) : StartsClause cs ∧ '\'' ∉ taken := by
  unfold clauseAt at h
  split at h
  · obtain ⟨keyword, hmem, hsplit⟩ := List.exists_of_findSome?_eq_some h
    obtain ⟨hsplit, -⟩ := Option.filter_eq_some_iff.mp hsplit
    have hletters : ∀ k ∈ keyword, isSameLetter k '\'' = false := by
      intro k hk
      have hall := List.all_eq_true.mp (List.all_eq_true.mp isSameLetter_quote keyword hmem) k hk
      simpa using hall
    exact ⟨⟨keyword, hmem, by simp [hsplit]⟩, quote_not_mem_of_splitKeyword hletters hsplit⟩
  · cases h

theorem broken_breakClauses {before : Option Char} {cs : List Char}
    (heven : cs.count '\'' % 2 = 0) : Broken [] false cs (breakClauses before cs) := by
  fun_induction breakClauses before cs with
  | case1 => exact .done
  | case2 before rest body after hsplit ih =>
    have hodd : rest.count '\'' % 2 = 1 := by
      rw [List.count_cons_self] at heven
      omega
    obtain ⟨body', after', heq, hafter⟩ := splitLiteral_of_odd hodd
    rw [hsplit] at heq
    cases heq
    obtain rfl := append_of_splitLiteral hsplit
    have hbody : insideAfter true body = false := by
      rw [List.count_append] at hodd
      rw [insideAfter_eq, decide_eq_true (by omega)]
      rfl
    have hliteral : Broken (after ++ []) true body body := .refl _ _ _
    refine .quote (hliteral.append ?_)
    rw [hbody]
    exact ih hafter
  | case3 before rest hsplit ih =>
    have hodd : rest.count '\'' % 2 = 1 := by
      rw [List.count_cons_self] at heven
      omega
    obtain ⟨body, after, heq, -⟩ := splitLiteral_of_odd hodd
    rw [hsplit] at heq
    cases heq
  | case4 before c rest hc after hclause ih =>
    rw [List.count_cons_of_ne hc] at heven
    exact .other hc (ih heven)
  | case5 before c rest hc d taken after hclause ih =>
    obtain ⟨hstarts, hquote⟩ := startsClause_of_clauseAt hclause
    obtain ⟨rfl, rfl⟩ := List.cons.inj (append_of_clauseAt hclause)
    rw [List.mem_cons, not_or] at hquote
    have htaken : taken.count '\'' = 0 := List.count_eq_zero.mpr hquote.2
    have hafter : after.count '\'' % 2 = 0 := by
      have hrest : (taken ++ after).count '\'' % 2 = 0 := by
        rwa [List.count_cons_of_ne hc] at heven
      rwa [List.count_append, htaken, Nat.zero_add] at hrest
    have hword : insideAfter false taken = false := insideAfter_of_even (by omega) false
    have hkeyword : Broken (after ++ []) false taken taken := .refl _ _ _
    rw [List.append_assoc]
    refine .clause (by rwa [List.append_nil]) hc (hkeyword.append ?_)
    rw [hword]
    exact ih hafter
  | case6 before c rest hc hclause ih =>
    rw [List.count_cons_of_ne hc] at heven
    exact .other hc (ih heven)

theorem count_quote_of_blank {cs : List Char} (h : ∀ d ∈ cs, isBlank d = true) :
    cs.count '\'' = 0 := by
  rw [List.count_eq_zero]
  intro hmem
  exact absurd (h _ hmem) (by decide)

theorem count_quote_trimStart (cs : List Char) : (trimStart cs).count '\'' = cs.count '\'' := by
  have hparts : cs.takeWhile isBlank ++ trimStart cs = cs := List.takeWhile_append_dropWhile
  have hblank : ∀ d ∈ cs.takeWhile isBlank, isBlank d = true :=
    List.all_eq_true.mp List.all_takeWhile
  have hcount := congrArg (List.count '\'') hparts
  rwa [List.count_append, count_quote_of_blank hblank, Nat.zero_add] at hcount

theorem count_quote_trimEnd (cs : List Char) : (trimEnd cs).count '\'' = cs.count '\'' := by
  obtain ⟨rest, hparts, hblank⟩ := append_of_dropEndWhile isBlank cs
  have hcount := congrArg (List.count '\'') hparts
  rwa [List.count_append, count_quote_of_blank hblank, Nat.add_zero] at hcount

theorem count_quote_trim (cs : List Char) : (trim cs).count '\'' = cs.count '\'' := by
  rw [trim, count_quote_trimStart, count_quote_trimEnd]

theorem trimStart_append_cons {c : Char} (h : isBlank c = false) (cs ds : List Char) :
    trimStart (cs ++ c :: ds) = trimStart cs ++ c :: ds := by
  have hkept : (c :: ds).dropWhile isBlank = c :: ds := List.dropWhile_cons_of_neg (by simp [h])
  rw [trimStart, List.dropWhile_append, hkept]
  split
  · rename_i hnil
    rw [trimStart, List.isEmpty_iff.mp hnil, List.nil_append]
  · rfl

theorem trimEnd_append_cons {c : Char} (h : isBlank c = false) (cs ds : List Char) :
    trimEnd (cs ++ c :: ds) = cs ++ c :: trimEnd ds := by
  have hreverse : trimStart (ds.reverse ++ c :: cs.reverse) =
      trimStart ds.reverse ++ c :: cs.reverse := trimStart_append_cons h _ _
  simpa [trimEnd, dropEndWhile, trimStart] using congrArg List.reverse hreverse

/-- Blank space is cut off around a text that neither begins nor ends with any. -/
theorem trim_append {text : List Char} {first last : Char} (hfirst : text.head? = some first)
    (hlast : text.getLast? = some last) (hfirst' : isBlank first = false)
    (hlast' : isBlank last = false) (cs ds : List Char) :
    trim (cs ++ (text ++ ds)) = trimStart cs ++ (text ++ trimEnd ds) := by
  have hend : trimEnd (cs ++ (text ++ ds)) = cs ++ (text ++ trimEnd ds) := by
    obtain ⟨front, rfl⟩ := List.getLast?_eq_some_iff.mp hlast
    simpa using trimEnd_append_cons hlast' (cs ++ front) ds
  obtain ⟨back, rfl⟩ := List.head?_eq_some_iff.mp hfirst
  rw [trim, hend, List.cons_append, trimStart_append_cons hfirst']

theorem isBlank_of_head?_trim {cs : List Char} {c : Char} (h : (trim cs).head? = some c) :
    isBlank c = false := by
  have hhead := List.head?_dropWhile_not isBlank (trimEnd cs)
  rw [← trimStart, ← trim, h] at hhead
  exact hhead

/-- A statement is laid out by breaks in front of clauses outside of quotes. Blank space in front of
it gives way to the first break. -/
theorem layOut_broken {cs : List Char} (heven : cs.count '\'' % 2 = 0) :
    ∃ body, layOut cs = clauseBreak ++ body ∧ Broken [] false (trim cs) body ∧
      body.head? = (trim cs).head? := by
  have hbroken : Broken [] false (trim cs) (breakClauses none (trim cs)) :=
    broken_breakClauses (by rwa [count_quote_trim])
  refine ⟨_, rfl, ?_⟩
  cases htrim : trim cs with
  | nil =>
    rw [breakClauses]
    exact ⟨.done, rfl⟩
  | cons c rest =>
    rw [htrim] at hbroken
    obtain ⟨rest', heq, hrest'⟩ := hbroken.trimStart (isBlank_of_head?_trim (by rw [htrim]; rfl))
    rw [heq]
    exact ⟨hrest', rfl⟩

/-! ## Texts that no break gets into -/

/-- No keyword of a clause begins with this character. -/
def startsNoClause (c : Char) : Bool :=
  clauseKeywords.all fun keyword => keyword.head?.any fun k => !isSameLetter k c

theorem not_startsClause {c : Char} (h : startsNoClause c = true) (cs : List Char) :
    ¬ StartsClause (c :: cs) := by
  rintro ⟨keyword, hmem, hsome⟩
  have hfirst := List.all_eq_true.mp h keyword hmem
  cases keyword with
  | nil => cases hfirst
  | cons k keyword =>
    have hother : isSameLetter k c = false := by simpa using hfirst
    simp [splitKeyword, hother] at hsome

/-- What stands outside of quotes in this text does not begin a clause. -/
def Sealed : (inside : Bool) → List Char → Prop
  | _, [] => True
  | inside, c :: cs => (inside = true ∨ startsNoClause c = true) ∧
      Sealed (if c = '\'' then !inside else inside) cs

theorem Sealed.append {inside : Bool} {cs ds : List Char} (hcs : Sealed inside cs)
    (hds : Sealed (insideAfter inside cs) ds) : Sealed inside (cs ++ ds) := by
  induction cs generalizing inside with
  | nil => exact hds
  | cons c cs ih => exact ⟨hcs.1, ih hcs.2 hds⟩

theorem Broken.eq_of_sealed {after cs out : List Char} {inside : Bool}
    (h : Broken after inside cs out) (hsealed : Sealed inside cs) : out = cs := by
  induction h with
  | done => rfl
  | quote _ ih => rw [ih hsealed.2]
  | other hc _ ih =>
    have hrest := hsealed.2
    rw [if_neg hc] at hrest
    rw [ih hrest]
  | clause hstarts _ _ _ =>
    rcases hsealed.1 with hinside | hno
    · cases hinside
    · exact absurd hstarts (not_startsClause hno _)

end OneConnection.Sql
