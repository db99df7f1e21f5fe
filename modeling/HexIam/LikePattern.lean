import Mathlib.Data.List.Infix

/-!
# Patterns of LIKE

The pattern language of SQL: `%` stands for any text, `_` for any character,
and a backslash takes the next character as it is; at the end of a pattern it
stands for itself.  Characters are compared after folding them.
-/

namespace LikePattern

/-- Whether a text matches a pattern. -/
def matchesLike (fold : Char → Char) : (pattern text : List Char) → Bool
  | [], text => text.isEmpty
  | '%' :: rest, text => text.tails.any (matchesLike fold rest)
  | '_' :: rest, text =>
      match text with
      | [] => false
      | _ :: tail => matchesLike fold rest tail
  | '\\' :: escaped :: rest, text =>
      match text with
      | [] => false
      | first :: tail => fold escaped = fold first && matchesLike fold rest tail
  | literal :: rest, text =>
      match text with
      | [] => false
      | first :: tail => fold literal = fold first && matchesLike fold rest tail

/-- A text for every pattern. -/
def sample : List Char → List Char
  | [] => []
  | '%' :: rest => sample rest
  | '_' :: rest => 'a' :: sample rest
  | '\\' :: escaped :: rest => escaped :: sample rest
  | literal :: rest => literal :: sample rest

/-- Every pattern has a text that matches it. -/
theorem matchesLike_sample (fold : Char → Char) (pattern : List Char) :
    matchesLike fold pattern (sample pattern) = true := by
  induction pattern using sample.induct with
  | case1 => rfl
  | case2 rest ih =>
      simp only [matchesLike, sample, List.any_eq_true, List.mem_tails]
      exact ⟨sample rest, List.suffix_refl _, ih⟩
  | case3 rest ih => simp [matchesLike, sample, ih]
  | case4 escaped rest ih => simp [matchesLike, sample, ih]
  | case5 literal rest notAny notOne notEscape ih =>
      simp_all [matchesLike, sample]

end LikePattern
