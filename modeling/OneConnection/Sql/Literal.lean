/-!
# Quoted literals in SQL text

Where a literal ends. A quote inside a literal is written twice, so the closing quote is one that no
quote follows. In a text whose quotes do not pair up, the last doubled quote closes the literal
instead. Main statement: splitting neither adds nor loses a character.
-/

namespace OneConnection.Sql

/-- Splits the text after an opening quote behind the closing quote. Without any quote there is no
literal. -/
def splitLiteral : List Char → Option (List Char × List Char)
  | [] => none
  | '\'' :: '\'' :: rest =>
    match splitLiteral rest with
    | some (body, after) => some ('\'' :: '\'' :: body, after)
    | none => some (['\''], '\'' :: rest)
  | '\'' :: rest => some (['\''], rest)
  | c :: rest =>
    match splitLiteral rest with
    | some (body, after) => some (c :: body, after)
    | none => none

theorem append_of_splitLiteral {cs body after : List Char}
    (h : splitLiteral cs = some (body, after)) : body ++ after = cs := by
  fun_induction splitLiteral cs generalizing body with
  | case1 => simp at h
  | case2 rest inner tail hsplit ih =>
    simp only [Option.some.injEq, Prod.mk.injEq] at h
    obtain ⟨rfl, rfl⟩ := h
    simp [ih hsplit]
  | case3 rest hsplit =>
    simp only [Option.some.injEq, Prod.mk.injEq] at h
    obtain ⟨rfl, rfl⟩ := h
    rfl
  | case4 rest =>
    simp only [Option.some.injEq, Prod.mk.injEq] at h
    obtain ⟨rfl, rfl⟩ := h
    rfl
  | case5 c rest _ _ inner tail hsplit ih =>
    simp only [Option.some.injEq, Prod.mk.injEq] at h
    obtain ⟨rfl, rfl⟩ := h
    simp [ih hsplit]
  | case6 => simp at h

/-- The text after a literal is shorter than the text that the literal was split from. -/
theorem length_of_splitLiteral {cs body after : List Char}
    (h : splitLiteral cs = some (body, after)) : after.length ≤ cs.length := by
  rw [← append_of_splitLiteral h]
  simp

end OneConnection.Sql
