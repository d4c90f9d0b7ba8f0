import Mathlib.Data.List.Forall2
import StrategyWorker.Library.PyText

/-!
# Texts that differ in letter case

Two characters are the same letter when one is the upper case of the other and
the other its lower case.  The relation is a parameter outside ASCII.  Lower and
upper case do not tell two such texts apart when they are compared with a key in
ASCII.

Main results:

- Theorem {lit}`lower_eq_iff`: the lower case of one text is a key exactly when
  that of the other one is.
- Theorem {lit}`upper_eq_iff`: the same of the upper case.
-/

namespace StrategyWorker
namespace Library

open PyText

/-- The character and its cases lie outside ASCII. -/
def Outside (c : Char) : Prop :=
  128 ≤ c.toNat ∧ c.toNat ≠ 0x212a ∧ upperChar c = [c]

/-- Which characters are the same letter: in ASCII those with the same lower case; a character
outside ASCII that has one case in ASCII is a letter of its own. -/
structure LetterCase where
  same : Char → Char → Prop
  refl : ∀ c, same c c
  symm : ∀ {c d}, same c d → same d c
  ascii : ∀ {c d}, c.toNat < 128 → (same c d ↔ c.toLower = d.toLower)
  outside : ∀ {c d}, same c d → 128 ≤ c.toNat → c = d ∨ (Outside c ∧ Outside d)

/-- The same letters one after the other. -/
def LetterCase.SameText (letters : LetterCase) (a b : String) : Prop :=
  List.Forall₂ letters.same a.toList b.toList

/-- The texts differ only in letter case and in the spaces around them. -/
def LetterCase.Variant (letters : LetterCase) (a b : String) : Prop :=
  letters.SameText (strip a) (strip b)

/-- The same character, or two outside ASCII. -/
def AsciiAgree (c d : Char) : Prop :=
  c = d ∨ (128 ≤ c.toNat ∧ 128 ≤ d.toNat)

/-- A text of ASCII characters. -/
def IsAscii (text : String) : Prop :=
  ∀ c ∈ text.toList, c.toNat < 128

instance (text : String) : Decidable (IsAscii text) :=
  inferInstanceAs (Decidable (∀ c ∈ text.toList, c.toNat < 128))

/-! ## Characters -/

theorem toLower_of_large {c : Char} (h : 128 ≤ c.toNat) : c.toLower = c := by
  have hnot : ¬ (c.val ≥ 'A'.val ∧ c.val ≤ 'Z'.val) := by
    rintro ⟨-, hle⟩
    have hle' : c.toNat ≤ 90 := UInt32.le_iff_toNat_le.1 hle
    omega
  unfold Char.toLower
  rw [dif_neg hnot]

/-- What holds of the first 128 characters. -/
theorem of_ascii (p : Char → Prop) (hp : ∀ n < 128, p (Char.ofNat n)) {c : Char}
    (h : c.toNat < 128) : p c := by
  have hc := hp c.toNat h
  rwa [Char.ofNat_toNat] at hc

/-- The upper case is that of the lower case. -/
theorem toUpper_toLower {c : Char} (h : c.toNat < 128) : c.toLower.toUpper = c.toUpper := by
  have hall : ∀ n < 128, (Char.ofNat n).toLower.toUpper = (Char.ofNat n).toUpper := by
    decide +kernel
  exact of_ascii (fun c => c.toLower.toUpper = c.toUpper) hall h

theorem toLower_lt {c : Char} (h : c.toNat < 128) : c.toLower.toNat < 128 := by
  have hall : ∀ n < 128, (Char.ofNat n).toLower.toNat < 128 := by
    decide +kernel
  exact of_ascii (fun c => c.toLower.toNat < 128) hall h

theorem upperChar_of_ascii {c : Char} (h : c.toNat < 128) : upperChar c = [c.toUpper] := by
  unfold upperChar
  split <;> first | omega | rfl

section

variable {letters : LetterCase} {c d : Char}

/-- The same letter as an ASCII character is one. -/
theorem LetterCase.lt_of_same (h : letters.same c d) (hc : c.toNat < 128) : d.toNat < 128 := by
  by_contra hd
  have hlower := (letters.ascii hc).1 h
  rw [toLower_of_large (not_lt.1 hd)] at hlower
  have hlt := toLower_lt hc
  rw [hlower] at hlt
  exact hd hlt

/-- The lower case of one letter. -/
theorem LetterCase.asciiAgree_lower (h : letters.same c d) :
    AsciiAgree (if c.toNat = 0x212a then 'k' else c.toLower)
      (if d.toNat = 0x212a then 'k' else d.toLower) := by
  by_cases hc : c.toNat < 128
  · have hd := letters.lt_of_same h hc
    rw [if_neg (by omega), if_neg (by omega)]
    exact .inl ((letters.ascii hc).1 h)
  · rcases letters.outside h (not_lt.1 hc) with rfl | ⟨⟨hlarge, hkelvin, -⟩, hlarge', hkelvin', -⟩
    · exact .inl rfl
    · rw [if_neg hkelvin, if_neg hkelvin', toLower_of_large hlarge, toLower_of_large hlarge']
      exact .inr ⟨hlarge, hlarge'⟩

/-- The upper case of one letter. -/
theorem LetterCase.asciiAgree_upper (h : letters.same c d) :
    List.Forall₂ AsciiAgree (upperChar c) (upperChar d) := by
  by_cases hc : c.toNat < 128
  · have hd := letters.lt_of_same h hc
    have hupper : c.toUpper = d.toUpper := by
      rw [← toUpper_toLower hc, ← toUpper_toLower hd, (letters.ascii hc).1 h]
    rw [upperChar_of_ascii hc, upperChar_of_ascii hd, hupper]
    exact .cons (.inl rfl) .nil
  · rcases letters.outside h (not_lt.1 hc) with rfl | ⟨⟨hlarge, -, hupper⟩, hlarge', -, hupper'⟩
    · exact List.forall₂_same.2 fun _ _ => .inl rfl
    · rw [hupper, hupper']
      exact .cons (.inr ⟨hlarge, hlarge'⟩) .nil

end

/-! ## Texts -/

/-- Of two texts that agree in ASCII one is a key exactly when the other is. -/
theorem eq_iff_of_asciiAgree {xs ys key : List Char} (h : List.Forall₂ AsciiAgree xs ys)
    (hkey : ∀ c ∈ key, c.toNat < 128) : xs = key ↔ ys = key := by
  induction h generalizing key with
  | nil => rfl
  | @cons c d xs ys hcd hrest ih =>
      cases key with
      | nil => simp
      | cons k key =>
          have hk := hkey k List.mem_cons_self
          have hhead : c = k ↔ d = k := by
            rcases hcd with rfl | ⟨hc, hd⟩
            · rfl
            · constructor
              · rintro rfl
                omega
              · rintro rfl
                omega
          rw [List.cons.injEq, List.cons.injEq, hhead,
            ih fun c hc => hkey c (List.mem_cons_of_mem _ hc)]

section

variable {letters : LetterCase} {a b key : String}

theorem LetterCase.SameText.symm (h : letters.SameText a b) : letters.SameText b a :=
  List.Forall₂.flip (List.Forall₂.imp (fun _ _ => letters.symm) h)

theorem LetterCase.sameText_refl (letters : LetterCase) (a : String) : letters.SameText a a :=
  List.forall₂_same.2 fun c _ => letters.refl c

/-- A text of the same letters as a text in ASCII is one. -/
theorem LetterCase.SameText.isAscii (h : letters.SameText a b) (hb : IsAscii b) : IsAscii a := by
  unfold LetterCase.SameText at h
  unfold IsAscii at hb ⊢
  generalize a.toList = xs at h ⊢
  generalize b.toList = ys at h hb
  induction h with
  | nil => exact hb
  | cons hcd _ ih =>
      intro c hc
      rcases List.mem_cons.1 hc with rfl | hc
      · exact letters.lt_of_same (letters.symm hcd) (hb _ List.mem_cons_self)
      · exact ih (fun d hd => hb d (List.mem_cons_of_mem _ hd)) c hc

/-- A text of the same letters is as long. -/
theorem LetterCase.SameText.eq_empty_iff (h : letters.SameText a b) : a = "" ↔ b = "" := by
  have hlength := List.Forall₂.length_eq h
  rw [← String.toList_inj, ← String.toList_inj, String.toList_empty, ← List.length_eq_zero_iff,
    ← List.length_eq_zero_iff, hlength]

/-- The lower case of one text is a key exactly when that of the other one is. -/
theorem LetterCase.SameText.lower_eq_iff (h : letters.SameText a b) (hkey : IsAscii key) :
    lower a = key ↔ lower b = key := by
  have hagree : List.Forall₂ AsciiAgree (lower a).toList (lower b).toList := by
    unfold lower
    rw [String.toList_ofList, String.toList_ofList]
    exact List.forall₂_map_right_iff.2 (List.forall₂_map_left_iff.2
      (List.Forall₂.imp (fun _ _ => letters.asciiAgree_lower) h))
  rw [← String.toList_inj, ← String.toList_inj]
  exact eq_iff_of_asciiAgree hagree hkey

/-- The upper case of one text is a key exactly when that of the other one is. -/
theorem LetterCase.SameText.upper_eq_iff (h : letters.SameText a b) (hkey : IsAscii key) :
    upper a = key ↔ upper b = key := by
  have hagree : List.Forall₂ AsciiAgree (upper a).toList (upper b).toList := by
    unfold upper
    rw [String.toList_ofList, String.toList_ofList]
    exact List.rel_flatMap h fun _ _ => letters.asciiAgree_upper
  rw [← String.toList_inj, ← String.toList_inj]
  exact eq_iff_of_asciiAgree hagree hkey

/-- A text of the same letters as a key in ASCII has the same lower case letter by letter. -/
theorem LetterCase.sameText_iff (hkey : IsAscii key) :
    letters.SameText a key ↔ a.toList.map Char.toLower = key.toList.map Char.toLower := by
  unfold LetterCase.SameText
  unfold IsAscii at hkey
  generalize a.toList = xs
  generalize hys : key.toList = ys at hkey
  clear hys
  induction ys generalizing xs with
  | nil => simp
  | cons d ys ih =>
      cases xs with
      | nil => simp
      | cons c xs =>
          have hd := hkey d List.mem_cons_self
          have hsame : letters.same c d ↔ c.toLower = d.toLower := by
            rw [eq_comm, ← letters.ascii hd]
            exact ⟨letters.symm, letters.symm⟩
          rw [List.forall₂_cons, List.map_cons, List.map_cons, List.cons.injEq, hsame,
            ih _ (fun c hc => hkey c (List.mem_cons_of_mem _ hc))]

end

end Library
end StrategyWorker
