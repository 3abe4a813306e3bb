import Nearest.Fault
import Nearest.Glob.Matcher

/-!
# Key filters

Which keys a search considers: all, one, or those that match a pattern. A text writes one of these,
and which one depends on the marks in it alone: `KeyFilter.parse_of_unmarked` and
`KeyFilter.parse_of_marked`, beside the two texts `KeyFilter.parse_empty` and
`KeyFilter.parse_star`.
-/

namespace Nearest

/-- A choice of keys. -/
inductive KeyFilter
  | all
  /-- The key that is spelt like this. -/
  | exact (key : String)
  | glob (pattern : List Glob.Token)

namespace KeyFilter

/-- Whether a character makes a filter a pattern. -/
def isMark (c : Char) : Bool :=
  c = '*' || c = '?' || c = '['

/-- The filter that a text writes. A lone star is every key; a text without a star, a question mark
or an opening bracket is the key it spells, also if it has braces or backslashes. -/
def parse (text : String) : Except Fault KeyFilter :=
  if text = "" then .error (.argument .emptyFilter)
  else if text = "*" then .ok .all
  else if !text.toList.any isMark then .ok (.exact text)
  else
    match Glob.parse text with
    | .ok pattern => .ok (.glob pattern)
    | .error why => .error (.argument (.filterPattern text why))

/-- Whether a filter lets a key through. -/
def accepts (f : KeyFilter) (key : String) : Bool :=
  match f with
  | .all => true
  | .exact k => k == key
  | .glob pattern => Glob.matchesBytes pattern (Bytes.ofText key)

/-! ## What a text is read as -/

/-- No text at all is no filter. -/
theorem parse_empty : parse "" = .error (.argument .emptyFilter) :=
  rfl

/-- A lone star is every key. -/
theorem parse_star : parse "*" = .ok .all :=
  rfl

/-- A text without marks is the key that it spells. -/
theorem parse_of_unmarked {text : String} (hne : text ≠ "")
    (h : ∀ c ∈ text.toList, isMark c = false) : parse text = .ok (.exact text) := by
  have hstar : text ≠ "*" := by
    rintro rfl
    exact absurd (h '*' (by decide)) (by decide)
  have hany : text.toList.any isMark = false := by
    rw [List.any_eq_false]
    exact fun c hc => by simp [h c hc]
  rw [parse, if_neg hne, if_neg hstar, hany]
  rfl

/-- A text with a mark, other than the lone star, is a pattern, and has the faults of one. -/
theorem parse_of_marked {text : String} (hstar : text ≠ "*")
    (h : ∃ c ∈ text.toList, isMark c = true) :
    parse text = match Glob.parse text with
      | .ok pattern => .ok (.glob pattern)
      | .error why => .error (.argument (.filterPattern text why)) := by
  have hne : text ≠ "" := by
    rintro rfl
    obtain ⟨c, hc, -⟩ := h
    cases hc
  rw [parse, if_neg hne, if_neg hstar, List.any_eq_true.2 h]
  rfl

end KeyFilter

end Nearest
