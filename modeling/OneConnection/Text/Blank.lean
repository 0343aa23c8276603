import OneConnection.Text.Ranges

/-!
# Blank space

The characters that count as blank, and trimming by them.
-/

namespace OneConnection.Text

/-- The characters with the Unicode property White_Space. -/
def blanks : Ranges :=
  [(0x9, 0xD), (0x20, 0x20), (0x85, 0x85), (0xA0, 0xA0), (0x1680, 0x1680), (0x2000, 0x200A),
   (0x2028, 0x2029), (0x202F, 0x202F), (0x205F, 0x205F), (0x3000, 0x3000)]

def isBlank (c : Char) : Bool := blanks.covers c.toNat

/-! ## Trimming -/

/-- `cs` without its longest ending of characters that satisfy `p`. -/
def dropEndWhile (p : Char → Bool) (cs : List Char) : List Char :=
  (cs.reverse.dropWhile p).reverse

def trimStart (cs : List Char) : List Char := cs.dropWhile isBlank

def trimEnd (cs : List Char) : List Char := dropEndWhile isBlank cs

def trim (cs : List Char) : List Char := trimStart (trimEnd cs)

@[simp] theorem dropEndWhile_nil (p : Char → Bool) : dropEndWhile p [] = [] := rfl

theorem dropEndWhile_append_takeWhile (p : Char → Bool) (cs : List Char) :
    dropEndWhile p cs ++ (cs.reverse.takeWhile p).reverse = cs := by
  rw [dropEndWhile, ← List.reverse_append, List.takeWhile_append_dropWhile, List.reverse_reverse]

/-- What is cut off from the end of a text. -/
theorem append_of_dropEndWhile (p : Char → Bool) (cs : List Char) :
    ∃ rest, dropEndWhile p cs ++ rest = cs ∧ ∀ d ∈ rest, p d = true := by
  refine ⟨_, dropEndWhile_append_takeWhile p cs, ?_⟩
  intro d hd
  exact List.all_eq_true.mp List.all_takeWhile d (List.mem_reverse.mp hd)

end OneConnection.Text
