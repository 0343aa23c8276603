/-!
# Character ranges

A property of characters is written down as an ascending list of closed ranges of code points.
-/

namespace OneConnection.Text

/-- Closed ranges of code points, in ascending order. -/
abbrev Ranges := List (Nat × Nat)

namespace Ranges

/-- Whether a range of the list holds `n`. The search stops at the first range above `n`. -/
def covers : Ranges → Nat → Bool
  | [], _ => false
  | (low, high) :: rest, n => if n < low then false else n ≤ high || covers rest n

@[simp] theorem covers_nil (n : Nat) : covers [] n = false := rfl

/-- A number in some range of the list is all that `covers` can find. -/
theorem exists_of_covers {ranges : Ranges} {n : Nat} (h : ranges.covers n = true) :
    ∃ range ∈ ranges, range.1 ≤ n ∧ n ≤ range.2 := by
  induction ranges with
  | nil => simp at h
  | cons range rest ih =>
    obtain ⟨low, high⟩ := range
    simp only [covers] at h
    split at h
    · simp at h
    · next hlow =>
      by_cases hhigh : n ≤ high
      · exact ⟨(low, high), by simp, by omega, hhigh⟩
      · obtain ⟨range, hmem, hr⟩ := ih (by simpa [hhigh] using h)
        exact ⟨range, by simp [hmem], hr⟩

end Ranges

end OneConnection.Text
