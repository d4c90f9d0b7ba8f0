import StrategyWorker.Library.IsoFormat
import StrategyWorker.Library.PyValue

/-!
# The characters of a number's text

The text of a float consists of digits, a point, signs and the letters of an
exponent, of {lit}`inf` and of {lit}`nan`.  It is not empty and holds no space,
so that stripping it changes nothing.

Main results:

- Theorem {lit}`mem_floatText`: which characters there are.
- Theorem {lit}`floatText_ne_empty`, Theorem {lit}`strip_floatText`: a float has
  a text, which needs no stripping.
-/

namespace StrategyWorker
namespace Library

open Binary64
open PyText

/-- What the text of a float is made of. -/
def IsFloatChar (c : Char) : Prop :=
  c.isDigit = true ∨ c ∈ ['.', '-', '+', 'e', 'i', 'n', 'f', 'a']

instance (c : Char) : Decidable (IsFloatChar c) :=
  inferInstanceAs (Decidable (_ ∨ _))

/-- All characters of a text are of this kind. -/
def FloatChars (t : List Char) : Prop :=
  ∀ c ∈ t, IsFloatChar c

instance (t : List Char) : Decidable (FloatChars t) :=
  inferInstanceAs (Decidable (∀ c ∈ t, _))

theorem FloatChars.append {t u : List Char} (ht : FloatChars t) (hu : FloatChars u) :
    FloatChars (t ++ u) := by
  intro c hc
  rcases List.mem_append.1 hc with hc | hc
  · exact ht c hc
  · exact hu c hc

theorem FloatChars.cons {c : Char} {t : List Char} (hc : IsFloatChar c) (ht : FloatChars t) :
    FloatChars (c :: t) :=
  List.forall_mem_cons.2 ⟨hc, ht⟩

theorem floatChars_replicate (n : Nat) : FloatChars (List.replicate n '0') := by
  intro c hc
  rw [(List.mem_replicate.1 hc).2]
  decide

theorem isDigit_of_mem_natText {n : Nat} {c : Char} (hc : c ∈ (toString n).toList) :
    c.isDigit = true := by
  rw [PyDateTime.toList_toString] at hc
  exact Nat.isDigit_of_mem_toDigits (by decide) (by decide) hc

theorem floatChars_natText (n : Nat) : FloatChars (toString n).toList :=
  fun _ hc => Or.inl (isDigit_of_mem_natText hc)

theorem floatChars_exponentText (e : Int) : FloatChars (exponentText e).toList := by
  rw [exponentText, String.toList_append, String.toList_append]
  apply FloatChars.append (FloatChars.append ?_ ?_) (floatChars_natText _)
  · split <;> decide
  · split <;> decide

theorem natText_ne_nil (n : Nat) : (toString n).toList ≠ [] := by
  rw [PyDateTime.toList_toString]
  exact Nat.toDigits_ne_nil

/-- The text of a positive value, whatever digits have been found for it. -/
theorem positiveRepr_chars (q : ℚ) :
    FloatChars (positiveRepr q).toList ∧ (positiveRepr q).toList ≠ [] := by
  unfold positiveRepr
  cases shortestDigits q 17 1 with
  | mk mantissa exponent =>
      have hdigits := floatChars_natText mantissa
      have hne := natText_ne_nil mantissa
      dsimp only
      rw [String.toList_ofList]
      generalize (toString mantissa).toList = digits at hdigits hne
      split
      · match digits, hdigits, hne with
        | [], _, hne => exact absurd rfl hne
        | [d], hdigits, _ =>
            exact ⟨hdigits.append (floatChars_exponentText _), List.cons_ne_nil _ _⟩
        | d :: d' :: ds, hdigits, _ =>
            have hfirst : IsFloatChar d := hdigits d List.mem_cons_self
            have hrest : FloatChars (d' :: ds) := fun c hc => hdigits c (List.mem_cons_of_mem d hc)
            have htail : FloatChars ('.' :: (d' :: ds)) := FloatChars.cons (by decide) hrest
            exact ⟨(FloatChars.cons hfirst htail).append (floatChars_exponentText _),
              List.cons_ne_nil _ _⟩
      · split
        · have hzeros : FloatChars ['0', '.'] := by decide
          exact ⟨(hzeros.append (floatChars_replicate _)).append hdigits, List.cons_ne_nil _ _⟩
        · split
          · have hpoint : FloatChars ['.', '0'] := by decide
            exact ⟨(hdigits.append (floatChars_replicate _)).append hpoint, by simp⟩
          · have htake (n : Nat) : FloatChars (digits.take n) :=
              fun c hc => hdigits c (List.mem_of_mem_take hc)
            have hdrop (n : Nat) : FloatChars (digits.drop n) :=
              fun c hc => hdigits c (List.mem_of_mem_drop hc)
            exact ⟨(htake _).append (FloatChars.cons (by decide) (hdrop _)), by simp⟩

/-- The text of a float: a number, with a minus when it is negative, or a name. -/
theorem floatText_chars (f : PyFloat) :
    FloatChars (floatText f).toList ∧ (floatText f).toList ≠ [] := by
  cases f with
  | finite q =>
      unfold floatText
      dsimp only
      split
      · decide
      split
      · rw [String.toList_append]
        have hminus : FloatChars "-".toList := by decide
        exact ⟨hminus.append (positiveRepr_chars _).1, by simp⟩
      · exact positiveRepr_chars q
  | infinite negative => cases negative <;> decide
  | nan => decide

theorem mem_floatText {f : PyFloat} {c : Char} (hc : c ∈ (floatText f).toList) : IsFloatChar c :=
  (floatText_chars f).1 c hc

@[simp]
theorem floatText_ne_empty (f : PyFloat) : floatText f ≠ "" := by
  intro hempty
  apply (floatText_chars f).2
  rw [hempty]
  rfl

theorem isSpace_of_isFloatChar {c : Char} (h : IsFloatChar c) : isSpace c = false := by
  rcases h with h | h
  · exact PyDateTime.isSpace_of_isDigit h
  · have hnone : ∀ d ∈ ['.', '-', '+', 'e', 'i', 'n', 'f', 'a'], isSpace d = false := by decide
    exact hnone c h

/-- A text without spaces is trimmed. -/
theorem trimmed_of_isSpace {text : String} (h : ∀ c ∈ text.toList, isSpace c = false) :
    Trimmed text := by
  constructor <;> rw [Option.all_eq_true] <;> intro c hc <;> rw [Bool.not_eq_true']
  · exact h c (List.mem_of_head? hc)
  · exact h c (List.mem_of_getLast? hc)

@[simp]
theorem strip_floatText (f : PyFloat) : strip (floatText f) = floatText f := by
  apply strip_eq_self
  apply trimmed_of_isSpace
  intro c hc
  exact isSpace_of_isFloatChar (mem_floatText hc)

end Library
end StrategyWorker
