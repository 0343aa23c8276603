import OneConnection.Json.Reader
import OneConnection.Proofs.Sql.Joining

/-!
# Reading back what was written

Words, numbers, strings and structures of fields come back from the text that they were written as.
Main statement: `Reads.structured`.
-/

namespace OneConnection.Json

open Text

namespace Reader

variable {α β : Type}

/-! ## Steps of a reader -/

theorem bind_run {reader : Reader α} {next : α → Reader β} {cs rest : List Char} {a : α}
    (h : reader.run cs = .ok (a, rest)) : (reader >>= next).run cs = (next a).run rest := by
  rw [StateT.run_bind, h]
  rfl

theorem get_run (cs : List Char) : (get : Reader (List Char)).run cs = .ok (cs, cs) := rfl

theorem peek_run {c : Char} (h : isSpace c = false) (rest : List Char) :
    peek.run (c :: rest) = .ok (some c, c :: rest) := by
  have hkept : (c :: rest).dropWhile isSpace = c :: rest := List.dropWhile_cons_of_neg (by simp [h])
  show Except.ok (((c :: rest).dropWhile isSpace).head?, (c :: rest).dropWhile isSpace) = _
  rw [hkept]
  rfl

theorem skipChar_run (c : Char) (rest : List Char) :
    skipChar.run (c :: rest) = .ok ((), rest) := rfl

theorem require_run {c : Char} (h : isSpace c = false) (rest : List Char) :
    require.run (c :: rest) = .ok (c, c :: rest) := by
  rw [require, bind_run (peek_run h rest)]
  rfl

theorem word_run (w rest : List Char) : (word w).run (w ++ rest) = .ok ((), rest) := by
  induction w with
  | nil => rfl
  | cons c w ih =>
    have hstep : (word (c :: w)).run (c :: (w ++ rest)) =
        (if c = c then (do set (w ++ rest); word w : Reader Unit) else throw .malformed).run
          (c :: (w ++ rest)) := rfl
    rw [List.cons_append, hstep, if_pos rfl]
    exact ih

theorem colon_run (rest : List Char) : colon.run (':' :: rest) = .ok ((), rest) := by
  rw [colon, bind_run (require_run (by decide) rest)]
  rfl

/-! ## Strings -/

theorem hexValue?_digitChar : ∀ d < 16, hexValue? (Nat.digitChar d) = some d := by decide

/-- A character comes back from its escape. -/
theorem splitText_escapedChar (c : Char) (rest : List Char) :
    splitText (escapedChar c ++ rest) =
      (splitText rest).map fun (cs, after) => (c :: cs, after) := by
  unfold escapedChar
  split
  · subst c; rfl
  split
  · subst c; rfl
  split
  · subst c; rfl
  split
  · subst c; rfl
  split
  · subst c; rfl
  split
  · rename_i hnat
    obtain rfl : c = Char.ofNat 0x8 := by rw [← hnat, Char.ofNat_toNat]
    rfl
  split
  · rename_i hnat
    obtain rfl : c = Char.ofNat 0xC := by rw [← hnat, Char.ofNat_toNat]
    rfl
  split
  · rename_i hcontrol
    have hhigh := hexValue?_digitChar (c.toNat / 16) (by omega)
    have hlow := hexValue?_digitChar (c.toNat % 16) (by omega)
    have hunit : hexUnit? '0' '0' (Nat.digitChar (c.toNat / 16)) (Nat.digitChar (c.toNat % 16)) =
        some c.toNat := by
      have hzero : hexValue? '0' = some 0 := by decide
      simp only [hexUnit?, hzero, hhigh, hlow, Option.bind_eq_bind, Option.bind_some,
        Option.pure_def, Option.some.injEq]
      omega
    have hplain : isLowSurrogate c.toNat = false ∧ isHighSurrogate c.toNat = false := by
      simp only [isLowSurrogate, isHighSurrogate, Bool.and_eq_false_imp, decide_eq_true_eq,
        decide_eq_false_iff_not]
      omega
    simp [splitText, hunit, hplain, Char.ofNat_toNat]
  · rename_i _ hescape _ _ _ _ _ hcontrol
    simp [splitText, hescape, hcontrol]

theorem splitText_written (cs rest : List Char) :
    splitText (cs.flatMap escapedChar ++ '"' :: rest) = .ok (cs, rest) := by
  induction cs with
  | nil => rfl
  | cons c cs ih =>
    rw [List.flatMap_cons, List.append_assoc, splitText_escapedChar, ih]
    rfl

/-- The rest of a string after its opening quote. -/
theorem textBody_run (s : String) (rest : List Char) :
    textBody.run (s.toList.flatMap escapedChar ++ '"' :: rest) = .ok (s, rest) := by
  have hsplit : (liftM (splitText (s.toList.flatMap escapedChar ++ '"' :: rest)) : Reader _).run
      (s.toList.flatMap escapedChar ++ '"' :: rest) =
        .ok ((s.toList, rest), s.toList.flatMap escapedChar ++ '"' :: rest) := by
    rw [splitText_written]
    rfl
  rw [textBody, bind_run (get_run _), bind_run hsplit]
  exact congrArg (fun t => Except.ok (t, rest)) String.ofList_toList

/-! ## What may follow a value -/

/-- Nothing, or what ends a value inside a list or an object. -/
def Ends (rest : List Char) : Prop := ∀ c ∈ rest.head?, c = ',' ∨ c = ']' ∨ c = '\x7d'

theorem ends_nil : Ends [] := by simp [Ends]

theorem ends_comma (rest : List Char) : Ends (',' :: rest) := by simp [Ends]

theorem ends_brace (rest : List Char) : Ends ('\x7d' :: rest) := by simp [Ends]

/-- The reader takes this text from the front and gives this value, whatever ends it. -/
def Reads (reader : Reader α) (text : List Char) (a : α) : Prop :=
  ∀ rest, Ends rest → reader.run (text ++ rest) = .ok (a, rest)

variable {reader : Reader α} {text : List Char} {a : α}

theorem Reads.map (h : Reads reader text a) (f : α → β) :
    Reads (do return f (← reader)) text (f a) := by
  intro rest hends
  rw [bind_run (h rest hends)]
  rfl

theorem Reads.runOn (h : Reads reader text a) :
    runOn reader (String.ofList text) = .ok a := by
  have hrun := h [] ends_nil
  rw [List.append_nil] at hrun
  rw [Reader.runOn, String.toList_ofList, hrun]
  rfl

theorem reads_bool (b : Bool) : Reads bool (write (.bool b)) b := by
  intro rest _
  cases b with
  | true =>
    have htext : write (.bool true) = 't' :: ['r', 'u', 'e'] := by decide
    have hword := word_run "true".toList rest
    rw [bool, htext, List.cons_append, bind_run (require_run (by decide) _), if_pos rfl]
    exact bind_run hword
  | false =>
    have htext : write (.bool false) = 'f' :: ['a', 'l', 's', 'e'] := by decide
    have hword := word_run "false".toList rest
    rw [bool, htext, List.cons_append, bind_run (require_run (by decide) _), if_neg (by decide),
      if_pos rfl]
    exact bind_run hword

theorem reads_none (reader : Reader α) : Reads (optional reader) (write .null) none := by
  intro rest _
  have htext : write .null = 'n' :: ['u', 'l', 'l'] := by decide
  have hword := word_run "null".toList rest
  rw [optional, htext, List.cons_append, bind_run (peek_run (by decide) _)]
  exact bind_run hword

/-- A value that is there does not begin like null. -/
theorem reads_some {c : Char} {cs : List Char} (h : Reads reader (c :: cs) a)
    (hspace : isSpace c = false) (hnull : c ≠ 'n') :
    Reads (optional reader) (c :: cs) (some a) := by
  intro rest hends
  rw [optional, List.cons_append, bind_run (peek_run hspace _)]
  split
  · rename_i heq
    exact absurd (Option.some.inj heq) hnull
  · exact h.map some rest hends

/-! ## Numbers -/

theorem absorb_eq {value : Nat} {cs : List Char}
    (hfits : Nat.ofDigitChars 10 cs value < wordLimit) :
    absorb value cs = (Nat.ofDigitChars 10 cs value, cs.length) := by
  induction cs generalizing value with
  | nil => rfl
  | cons c rest ih =>
    rw [Sql.ofDigitChars_cons] at hfits ⊢
    have hnext : 10 * value + digitValue c < wordLimit :=
      Nat.lt_of_le_of_lt (Sql.le_ofDigitChars _ rest) hfits
    rw [absorb]
    dsimp only
    rw [if_pos hnext, ih hfits]
    rfl

theorem digits_run {ds rest : List Char} (hds : ∀ c ∈ ds, isAsciiDigit c = true)
    (hends : Ends rest) : digits.run (ds ++ rest) = .ok (ds, rest) := by
  have hrest : rest.takeWhile isAsciiDigit = [] ∧ rest.dropWhile isAsciiDigit = rest := by
    cases rest with
    | nil => exact ⟨rfl, rfl⟩
    | cons c cs =>
      have hc : isAsciiDigit c = false := by
        rcases hends c rfl with rfl | rfl | rfl <;> decide
      exact ⟨List.takeWhile_cons_of_neg (by simp [hc]), List.dropWhile_cons_of_neg (by simp [hc])⟩
  show Except.ok ((ds ++ rest).takeWhile isAsciiDigit, (ds ++ rest).dropWhile isAsciiDigit) = _
  rw [List.takeWhile_append_of_pos hds, List.dropWhile_append_of_pos hds, hrest.1, hrest.2,
    List.append_nil]

/-- A number that fits and that nothing but an end follows is whole. -/
theorem afterWhole_run (n : Nat) {rest : List Char} (hends : Ends rest) :
    (afterWhole false n 0).run rest = .ok (.whole n, rest) := by
  cases rest with
  | nil => rfl
  | cons c cs => rcases hends c rfl with rfl | rfl | rfl <;> rfl

/-- Only zero is written with a zero in front. -/
theorem head_toDigits {n : Nat} (hn : 0 < n) :
    ∃ c cs, Nat.toDigits 10 n = c :: cs ∧ isAsciiDigit c = true ∧ c ≠ '0' := by
  induction n using Nat.strongRecOn with
  | ind n ih =>
    by_cases hsmall : n < 10
    · refine ⟨n.digitChar, [], Nat.toDigits_of_lt_base hsmall, ?_⟩
      have hdigit : ∀ d < 10, 0 < d → isAsciiDigit d.digitChar = true ∧ d.digitChar ≠ '0' := by
        decide
      exact hdigit n hsmall hn
    · obtain ⟨c, cs, hhead, hc⟩ := ih (n / 10) (by omega) (by omega)
      rw [Nat.toDigits_of_base_le (by decide) (by omega), hhead]
      exact ⟨c, cs ++ [(n % 10).digitChar], rfl, hc⟩

theorem number_run {n : Nat} (hn : n < wordLimit) {rest : List Char} (hends : Ends rest) :
    number.run (Nat.toDigits 10 n ++ rest) = .ok (.whole n, rest) := by
  rcases Nat.eq_zero_or_pos n with rfl | hpos
  · have hafter := afterWhole_run 0 hends
    cases rest with
    | nil => rfl
    | cons c cs => rcases hends c rfl with rfl | rfl | rfl <;> exact hafter
  · obtain ⟨c, cs, hhead, hdigit, hzero⟩ := head_toDigits hpos
    have hvalue : Nat.ofDigitChars 10 (Nat.toDigits 10 n) 0 = n := Nat.ofDigitChars_ten_toDigits
    have habsorb : absorb 0 (Nat.toDigits 10 n) = (n, (Nat.toDigits 10 n).length) := by
      rw [absorb_eq (by rwa [hvalue]), hvalue]
    have hdigits := digits_run (fun c => Sql.isAsciiDigit_of_mem_toDigits (n := n) (c := c)) hends
    have hunsigned : (unsigned false).run (Nat.toDigits 10 n ++ rest) = .ok (.whole n, rest) := by
      rw [unsigned, bind_run (get_run _)]
      split
      · rename_i heq
        simp [hhead] at heq
      · rename_i heq
        rw [hhead] at heq
        exact absurd (List.cons.inj heq).1 hzero
      · rename_i d _ hd heq
        rw [hhead] at heq
        obtain rfl := (List.cons.inj heq).1
        rw [if_pos hdigit, bind_run hdigits, habsorb]
        dsimp only
        rw [Nat.sub_self]
        exact afterWhole_run n hends
    rw [number, bind_run (get_run _)]
    split
    · rename_i heq
      rw [hhead] at heq
      obtain rfl := (List.cons.inj heq).1
      exact absurd hdigit (by decide)
    · exact hunsigned

theorem write_whole (n : Nat) : write (.whole n) = Nat.toDigits 10 n := by
  have htext : write (.whole n) = (toString n).toList := rfl
  rw [htext, Nat.toString_eq_ofList_toDigits, String.toList_ofList]

/-- The digits of a number begin with one. -/
theorem head_write_whole (n : Nat) :
    ∃ c cs, write (.whole n) = c :: cs ∧ isAsciiDigit c = true := by
  obtain ⟨c, cs, hhead⟩ := List.exists_cons_of_ne_nil (Nat.toDigits_ne_nil (b := 10) (n := n))
  rw [write_whole]
  exact ⟨c, cs, hhead, Sql.isAsciiDigit_of_mem_toDigits (hhead ▸ List.mem_cons_self)⟩

theorem not_isSpace_of_isAsciiDigit {c : Char} (h : isAsciiDigit c = true) :
    isSpace c = false := by
  rw [Bool.eq_false_iff]
  intro hspace
  simp only [isSpace, Bool.or_eq_true, decide_eq_true_eq] at hspace
  rcases hspace with ((rfl | rfl) | rfl) | rfl <;> revert h <;> decide

theorem reads_natural {n : Nat} (hn : n < wordLimit) : Reads natural (write (.whole n)) n := by
  obtain ⟨c, cs, hhead, hdigit⟩ := head_write_whole n
  have hwhole : Reads (whole 0 (wordLimit - 1)) (write (.whole n)) n := by
    intro rest hends
    have hnumber := number_run hn hends
    rw [← write_whole, hhead, List.cons_append] at hnumber
    rw [whole, hhead, List.cons_append,
      bind_run (require_run (not_isSpace_of_isAsciiDigit hdigit) _)]
    rw [if_pos (by simp [hdigit]), bind_run hnumber]
    dsimp only
    rw [if_pos (by simp; omega)]
    rfl
  exact hwhole.map Int.toNat

/-! ## Structures -/

section Structures

variable {σ φ : Type} {name : φ → String} {read : φ → σ → Reader σ}
  {value : φ → Json} {set : φ → σ → σ} {all fields : List φ} {f : φ} {s : σ} {seen : List φ}

/-- A field as it is written among the members of an object. -/
def writeMember (name : φ → String) (value : φ → Json) (f : φ) : List Char :=
  writeText (name f) ++ ':' :: write (value f)

theorem writeMember_eq (name : φ → String) (value : φ → Json) (f : φ) (rest : List Char) :
    writeMember name value f ++ rest = '"' :: ((name f).toList.flatMap escapedChar ++
      '"' :: ':' :: (write (value f) ++ rest)) := by
  simp [writeMember, writeText]

theorem writeMembers_map (fields : List φ) :
    writeMembers (fields.map fun f => (name f, value f)) =
      fields.map (writeMember name value) := by
  induction fields with
  | nil => rfl
  | cons f fields ih =>
    rw [List.map_cons, writeMembers, ih, List.map_cons]
    rfl

theorem separated_cons (part : List Char) (parts : List (List Char)) :
    separated (part :: parts) = part ++ parts.flatMap (',' :: ·) := by
  induction parts generalizing part with
  | nil => simp [separated, List.intercalate]
  | cons next parts ih =>
    have hstep : separated (part :: next :: parts) = part ++ ',' :: separated (next :: parts) := by
      simp [separated, List.intercalate, List.intersperse]
    rw [hstep, ih, List.flatMap_cons]
    rfl

theorem length_le_members (name : φ → String) (value : φ → Json) (fields : List φ) :
    fields.length ≤ ((fields.map (writeMember name value)).flatMap (',' :: ·)).length := by
  induction fields with
  | nil => exact Nat.le_refl 0
  | cons f fields ih =>
    rw [List.map_cons, List.flatMap_cons, List.length_append, List.length_cons, List.length_cons]
    omega

theorem ends_members (name : φ → String) (value : φ → Json) (fields : List φ)
    (rest : List Char) :
    Ends ((fields.map (writeMember name value)).flatMap (',' :: ·) ++ '\x7d' :: rest) := by
  cases fields with
  | nil => exact ends_brace rest
  | cons => exact ends_comma _

/-- What stands in front of a member that is not the first one. -/
def comma (first : Bool) : List Char := if first then [] else [',']

theorem anotherMember_run (first : Bool) (rest : List Char) :
    (anotherMember first).run (comma first ++ '"' :: rest) = .ok (true, '"' :: rest) := by
  cases first with
  | true =>
    rw [anotherMember, comma, if_pos rfl, List.nil_append,
      bind_run (require_run (by decide) _)]
    rfl
  | false =>
    rw [anotherMember, comma, if_neg Bool.false_ne_true, List.singleton_append,
      bind_run (require_run (by decide) _), if_neg (by decide), if_neg Bool.false_ne_true,
      if_pos rfl, bind_run (skipChar_run _ _), bind_run (require_run (by decide) _)]
    rfl

theorem anotherMember_end (first : Bool) (rest : List Char) :
    (anotherMember first).run ('\x7d' :: rest) = .ok (false, rest) := by
  rw [anotherMember, bind_run (require_run (by decide) _)]
  rfl

variable [DecidableEq φ]

/-- A field that is written and read in the same way, and that has its name for itself. -/
structure FieldReads (name : φ → String) (read : φ → σ → Reader σ) (value : φ → Json)
    (set : φ → σ → σ) (all : List φ) (f : φ) : Prop where
  found : all.find? (name · = name f) = some f
  reads : ∀ s, Reads (read f s) (write (value f)) (set f s)

theorem fieldMember_run (h : FieldReads name read value set all f) (hseen : f ∉ seen)
    {rest : List Char} (hends : Ends rest) :
    (fieldMember name read all (s, seen) (name f)).run (':' :: (write (value f) ++ rest)) =
      .ok ((set f s, f :: seen), rest) := by
  rw [fieldMember, h.found]
  dsimp only
  rw [if_neg hseen]
  show (colon >>= _).run _ = _
  rw [bind_run (colon_run _)]
  exact (h.reads s).map (fun s => (s, f :: seen)) rest hends

theorem members_step (h : FieldReads name read value set all f) (hseen : f ∉ seen) (first : Bool)
    (fuel : Nat) {rest : List Char} (hends : Ends rest) :
    (members textBody (fieldMember name read all) (fuel + 1) first (s, seen)).run
        (comma first ++ (writeMember name value f ++ rest)) =
      (members textBody (fieldMember name read all) fuel false (set f s, f :: seen)).run rest := by
  rw [members, writeMember_eq, bind_run (anotherMember_run first _), if_pos rfl,
    bind_run (skipChar_run _ _), bind_run (textBody_run _ _),
    bind_run (fieldMember_run h hseen hends)]

theorem members_run (hfields : ∀ f ∈ fields, FieldReads name read value set all f)
    (hnodup : fields.Nodup) (hseen : ∀ f ∈ fields, f ∉ seen) {fuel : Nat}
    (hfuel : fields.length < fuel) (rest : List Char) :
    (members textBody (fieldMember name read all) fuel false (s, seen)).run
        ((fields.map (writeMember name value)).flatMap (',' :: ·) ++ '\x7d' :: rest) =
      .ok ((fields.foldl (fun s f => set f s) s, fields.reverse ++ seen), rest) := by
  induction fields generalizing s seen fuel with
  | nil =>
    obtain ⟨fuel, rfl⟩ := Nat.exists_eq_add_of_lt hfuel
    rw [List.length_nil, Nat.zero_add, members]
    show (anotherMember false >>= _).run ('\x7d' :: rest) = _
    rw [bind_run (anotherMember_end false rest)]
    rfl
  | cons f fields ih =>
    obtain ⟨fuel, rfl⟩ := Nat.exists_eq_add_of_lt hfuel
    obtain ⟨hnew, hnodup⟩ := List.nodup_cons.mp hnodup
    have hf := hfields f List.mem_cons_self
    have hstep := members_step (s := s) hf (hseen f List.mem_cons_self) false
      ((f :: fields).length + fuel) (ends_members name value fields rest)
    have hrest : ∀ g ∈ fields, g ∉ f :: seen := by
      intro g hg hmem
      rcases List.mem_cons.mp hmem with rfl | hmem
      · exact hnew hg
      · exact hseen g (List.mem_cons_of_mem _ hg) hmem
    rw [List.map_cons, List.flatMap_cons, List.append_assoc]
    refine hstep.trans ?_
    rw [ih (fun g hg => hfields g (List.mem_cons_of_mem _ hg)) hnodup hrest (by simp; omega)]
    simp

/-- The members of an object from the first one on. -/
theorem members_run_first (hfields : ∀ f ∈ fields, FieldReads name read value set all f)
    (hnodup : fields.Nodup) {fuel : Nat} (hfuel : fields.length < fuel) (rest : List Char) :
    (members textBody (fieldMember name read all) fuel true (s, [])).run
        (separated (fields.map (writeMember name value)) ++ '\x7d' :: rest) =
      .ok ((fields.foldl (fun s f => set f s) s, fields.reverse), rest) := by
  obtain ⟨fuel, rfl⟩ := Nat.exists_eq_add_of_lt hfuel
  cases fields with
  | nil =>
    rw [members, List.map_nil]
    show (anotherMember true >>= _).run ('\x7d' :: rest) = _
    rw [bind_run (anotherMember_end true rest)]
    rfl
  | cons f fields =>
    obtain ⟨hnew, hnodup⟩ := List.nodup_cons.mp hnodup
    have hseen : ∀ g ∈ fields, g ∉ [f] := by
      intro g hg hmem
      rw [List.mem_singleton.mp hmem] at hg
      exact hnew hg
    have hstep := members_step (s := s) (hfields f List.mem_cons_self) List.not_mem_nil true
      ((f :: fields).length + fuel) (ends_members name value fields rest)
    rw [List.map_cons, separated_cons, List.append_assoc]
    refine hstep.trans ?_
    rw [members_run (fun g hg => hfields g (List.mem_cons_of_mem _ hg)) hnodup hseen
      (by simp; omega)]
    simp

/-- An object with some of the fields of a structure reads as them. -/
theorem Reads.structured (hfields : ∀ f ∈ fields, FieldReads name read value set all f)
    (hnodup : fields.Nodup) (start : σ) :
    Reads (structured name read all start)
      (write (.object (fields.map fun f => (name f, value f))))
      (fields.foldl (fun s f => set f s) start, all.filter (· ∉ fields)) := by
  intro rest _
  have hfuel : ∀ cs, fuelFor.run cs = .ok (cs.length + 1, cs) := fun _ => rfl
  have hlength : fields.length <
      (separated (fields.map (writeMember name value)) ++ '\x7d' :: rest).length + 1 := by
    cases fields with
    | nil => exact Nat.succ_pos _
    | cons f fields =>
      have hmembers := length_le_members name value fields
      rw [List.map_cons, separated_cons]
      simp only [List.length_append, List.length_cons]
      omega
  rw [write, writeMembers_map, List.cons_append, List.cons_append, List.append_assoc,
    List.singleton_append, Reader.structured, bind_run (require_run (by decide) _),
    if_neg (by decide), if_pos rfl, bind_run (skipChar_run _ _), bind_run (hfuel _),
    bind_run (members_run_first hfields hnodup hlength rest)]
  show Except.ok ((_, all.filter (· ∉ fields.reverse)), rest) = _
  simp only [List.mem_reverse]

end Structures

end Reader

end OneConnection.Json
