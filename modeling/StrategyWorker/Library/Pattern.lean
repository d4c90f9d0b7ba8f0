import Mathlib.Data.List.TakeWhile

/-!
# Patterns of literals and runs

A pattern is a sequence of pieces: literal texts, and runs of one or more
characters of a class.  A run takes as many characters as it can and gives them
back one by one when the rest of the pattern does not match.  A search tries the
pattern at each position, from the left.

Where every run is followed by a literal whose first character the run does not
take, a text matches in one way only, and what a search finds can be said
without the order of the tries.

Main results:

- Theorem {lit}`matchPieces_eq_some_iff`: what a separated pattern matches.
- Theorem {lit}`search_eq_none_iff`: when a search finds nothing.
- Theorem {lit}`search_eq_some_iff`: what a search finds.
-/

namespace StrategyWorker
namespace Library
namespace Pattern

/-- A literal text, or one or more characters of a class. -/
inductive Piece where
  | lit (text : List Char)
  | run (ok : Char → Bool)

/-- The first success from a number down to 1. -/
def tryDown {α : Type} (f : Nat → Option α) : Nat → Option α
  | 0 => none
  | n + 1 =>
      match f (n + 1) with
      | some a => some a
      | none => tryDown f n

/-- The texts of the pieces at the start of a text, and what follows them. -/
def matchPieces : List Piece → List Char → Option (List (List Char) × List Char)
  | [], cs => some ([], cs)
  | .lit text :: pieces, cs =>
      if text <+: cs then
        (matchPieces pieces (cs.drop text.length)).map fun m => (text :: m.1, m.2)
      else none
  | .run ok :: pieces, cs =>
      tryDown
        (fun n => (matchPieces pieces (cs.drop n)).map fun m => (cs.take n :: m.1, m.2))
        (cs.takeWhile ok).length

/-- What a search finds: the text before the match, the texts of the pieces and the text after. -/
structure Found where
  before : List Char
  groups : List (List Char)
  after : List Char
  deriving DecidableEq

/-- The first match from the left. -/
def search (pieces : List Piece) : List Char → Option Found
  | [] => (matchPieces pieces []).map fun m => ⟨[], m.1, m.2⟩
  | c :: cs =>
      match matchPieces pieces (c :: cs) with
      | some m => some ⟨[], m.1, m.2⟩
      | none => (search pieces cs).map fun found => { found with before := c :: found.before }

/-- The text with the first match replaced; {lit}`none` when there is no match. -/
def subOnce (pieces : List Piece) (replacement : List (List Char) → List Char) (cs : List Char) :
    Option (List Char) :=
  (search pieces cs).map fun found => found.before ++ replacement found.groups ++ found.after

/-! ## Matches -/

/-- The texts that the pieces take. -/
inductive Fits : List Piece → List (List Char) → Prop where
  | nil : Fits [] []
  | lit {pieces : List Piece} {groups : List (List Char)} (text : List Char)
      (rest : Fits pieces groups) : Fits (.lit text :: pieces) (text :: groups)
  | run {pieces : List Piece} {groups : List (List Char)} {ok : Char → Bool} {group : List Char}
      (ne_nil : group ≠ []) (taken : ∀ c ∈ group, ok c = true) (rest : Fits pieces groups) :
      Fits (.run ok :: pieces) (group :: groups)

theorem exists_of_tryDown {α : Type} {f : Nat → Option α} {n : Nat} {a : α}
    (h : tryDown f n = some a) : ∃ k, 1 ≤ k ∧ k ≤ n ∧ f k = some a := by
  induction n with
  | zero => cases h
  | succ n ih =>
      unfold tryDown at h
      split at h
      · rename_i b hb
        cases h
        exact ⟨n + 1, by omega, Nat.le_refl _, hb⟩
      · rcases ih h with ⟨k, hpos, hle, hk⟩
        exact ⟨k, hpos, by omega, hk⟩

theorem isSome_tryDown {α : Type} {f : Nat → Option α} {n k : Nat} (hpos : 1 ≤ k) (hle : k ≤ n)
    (h : (f k).isSome) : (tryDown f n).isSome := by
  induction n with
  | zero => omega
  | succ n ih =>
      unfold tryDown
      split
      · rfl
      · rename_i hnone
        refine ih ?_
        rcases Nat.lt_or_eq_of_le hle with hlt | rfl
        · omega
        · rw [hnone] at h
          cases h

/-- The texts that are found fit the pieces and stand at the start. -/
theorem fits_of_matchPieces {pieces : List Piece} {cs : List Char} {groups : List (List Char)}
    {rest : List Char} (h : matchPieces pieces cs = some (groups, rest)) :
    Fits pieces groups ∧ cs = groups.flatten ++ rest := by
  induction pieces generalizing cs groups rest with
  | nil =>
      cases h
      exact ⟨.nil, rfl⟩
  | cons piece pieces ih =>
      cases piece with
      | lit text =>
          unfold matchPieces at h
          split at h
          · rename_i hpre
            rcases Option.map_eq_some_iff.1 h with ⟨⟨groups', rest'⟩, hmatch, heq⟩
            cases heq
            rcases ih hmatch with ⟨hfits, hcs⟩
            rcases hpre with ⟨tail, rfl⟩
            rw [List.drop_left] at hcs
            refine ⟨.lit text hfits, ?_⟩
            rw [List.flatten_cons, List.append_assoc, ← hcs]
          · cases h
      | run ok =>
          rcases exists_of_tryDown h with ⟨n, hpos, hle, hn⟩
          rcases Option.map_eq_some_iff.1 hn with ⟨⟨groups', rest'⟩, hmatch, heq⟩
          cases heq
          rcases ih hmatch with ⟨hfits, hcs⟩
          have hlength : n ≤ cs.length := Nat.le_trans hle (List.takeWhile_sublist ok).length_le
          refine ⟨.run ?_ ?_ hfits, ?_⟩
          · intro hnil
            have hzero := congrArg List.length hnil
            rw [List.length_take, List.length_nil] at hzero
            omega
          · intro c hc
            have hmem : c ∈ cs.takeWhile ok := by
              have htake : cs.take n = (cs.takeWhile ok).take n := by
                rcases List.takeWhile_prefix ok (l := cs) with ⟨tail, htail⟩
                calc
                  cs.take n = (cs.takeWhile ok ++ tail).take n := by rw [htail]
                  _ = (cs.takeWhile ok).take n := List.take_append_of_le_length hle
              rw [htake] at hc
              exact List.mem_of_mem_take hc
            exact List.mem_takeWhile_imp hmem
          · rw [List.flatten_cons, List.append_assoc, ← hcs, List.take_append_drop]

/-- Texts that fit are found, or others are. -/
theorem isSome_matchPieces {pieces : List Piece} {groups : List (List Char)}
    (h : Fits pieces groups) (rest : List Char) :
    (matchPieces pieces (groups.flatten ++ rest)).isSome := by
  induction h with
  | nil => rfl
  | lit text _ ih =>
      unfold matchPieces
      rw [List.flatten_cons, List.append_assoc, if_pos (List.prefix_append _ _), List.drop_left,
        Option.isSome_map]
      exact ih
  | @run pieces groups ok group hne htaken _ ih =>
      unfold matchPieces
      rw [List.flatten_cons, List.append_assoc]
      refine isSome_tryDown (k := group.length) (List.length_pos_iff.2 hne) ?_ ?_
      · rw [List.takeWhile_append_of_pos htaken, List.length_append]
        omega
      · rw [List.drop_left, Option.isSome_map]
        exact ih

theorem matchPieces_eq_none_iff {pieces : List Piece} {cs : List Char} :
    matchPieces pieces cs = none ↔
      ∀ groups rest, Fits pieces groups → cs ≠ groups.flatten ++ rest := by
  constructor
  · rintro h groups rest hfits rfl
    have hsome := isSome_matchPieces hfits rest
    rw [h] at hsome
    cases hsome
  · intro h
    cases hmatch : matchPieces pieces cs with
    | none => rfl
    | some m =>
        rcases fits_of_matchPieces hmatch with ⟨hfits, hcs⟩
        exact absurd hcs (h m.1 m.2 hfits)

/-! ## Separated patterns -/

/-- Every run is followed by a literal that starts with a character which the run does not take. -/
def Separated : List Piece → Prop
  | [] => True
  | .lit _ :: pieces => Separated pieces
  | .run ok :: pieces =>
      (∃ c text rest, pieces = .lit (c :: text) :: rest ∧ ok c = false) ∧ Separated pieces

/-- A separated pattern takes the start of a text in one way only. -/
theorem Fits.unique {pieces : List Piece} {groups groups' : List (List Char)}
    {rest rest' : List Char} (hsep : Separated pieces) (h : Fits pieces groups)
    (h' : Fits pieces groups') (heq : groups.flatten ++ rest = groups'.flatten ++ rest') :
    groups = groups' ∧ rest = rest' := by
  induction h generalizing groups' with
  | nil =>
      cases h'
      exact ⟨rfl, heq⟩
  | lit text _ ih =>
      cases h' with
      | lit _ hrest' =>
          rw [List.flatten_cons, List.flatten_cons, List.append_assoc, List.append_assoc] at heq
          rcases ih hsep hrest' (List.append_cancel_left heq) with ⟨rfl, rfl⟩
          exact ⟨rfl, rfl⟩
  | @run pieces groups ok group hne htaken hrest ih =>
      cases h' with
      | @run _ groups' _ group' hne' htaken' hrest' =>
          rcases hsep with ⟨⟨c, text, pieces', rfl, hstop⟩, hsep⟩
          have hspan (g : List Char) (hg : ∀ d ∈ g, ok d = true) (gs : List (List Char))
              (r : List Char) (hgs : Fits (.lit (c :: text) :: pieces') gs) :
              ((g :: gs).flatten ++ r).takeWhile ok = g := by
            cases hgs
            rw [List.flatten_cons, List.flatten_cons, List.append_assoc, List.append_assoc,
              List.takeWhile_append_of_pos hg, List.cons_append, List.takeWhile_cons,
              if_neg (by simp [hstop]), List.append_nil]
          have hgroup : group = group' := by
            rw [← hspan group htaken groups rest hrest, heq,
              hspan group' htaken' groups' rest' hrest']
          subst hgroup
          rw [List.flatten_cons, List.flatten_cons, List.append_assoc, List.append_assoc] at heq
          rcases ih hsep hrest' (List.append_cancel_left heq) with ⟨rfl, rfl⟩
          exact ⟨rfl, rfl⟩

theorem matchPieces_eq_some_iff {pieces : List Piece} (hsep : Separated pieces) {cs : List Char}
    {groups : List (List Char)} {rest : List Char} :
    matchPieces pieces cs = some (groups, rest) ↔
      Fits pieces groups ∧ cs = groups.flatten ++ rest := by
  refine ⟨fits_of_matchPieces, ?_⟩
  rintro ⟨hfits, rfl⟩
  rcases Option.isSome_iff_exists.1 (isSome_matchPieces hfits rest) with ⟨⟨groups', rest'⟩, hmatch⟩
  rcases fits_of_matchPieces hmatch with ⟨hfits', hcs⟩
  rcases hfits.unique hsep hfits' hcs with ⟨rfl, rfl⟩
  exact hmatch

/-! ## Searches -/

/-- A text in which the pattern matches somewhere. -/
def Occurs (pieces : List Piece) (cs : List Char) : Prop :=
  ∃ before groups after, Fits pieces groups ∧ cs = before ++ groups.flatten ++ after

theorem search_eq_none_iff {pieces : List Piece} {cs : List Char} :
    search pieces cs = none ↔ ¬ Occurs pieces cs := by
  induction cs with
  | nil =>
      unfold search
      rw [Option.map_eq_none_iff, matchPieces_eq_none_iff]
      constructor
      · rintro h ⟨before, groups, after, hfits, hcs⟩
        have hnil : groups.flatten = [] :=
          (List.append_eq_nil_iff.1 (List.append_eq_nil_iff.1 hcs.symm).1).2
        exact h groups [] hfits (by rw [hnil]; rfl)
      · rintro h groups rest hfits hcs
        exact h ⟨[], groups, rest, hfits, hcs⟩
  | cons c cs ih =>
      unfold search
      split
      · rename_i m hmatch
        rcases fits_of_matchPieces hmatch with ⟨hfits, hcs⟩
        refine iff_of_false (by simp) ?_
        rw [not_not]
        exact ⟨[], m.1, m.2, hfits, hcs⟩
      · rename_i hnone
        rw [Option.map_eq_none_iff, ih, not_iff_not]
        constructor
        · rintro ⟨before, groups, after, hfits, rfl⟩
          exact ⟨c :: before, groups, after, hfits, rfl⟩
        · rintro ⟨before, groups, after, hfits, hcs⟩
          cases before with
          | nil => exact absurd hcs (matchPieces_eq_none_iff.1 hnone groups after hfits)
          | cons d before =>
              rw [List.cons_append, List.cons_append] at hcs
              rw [(List.cons.inj hcs).2]
              exact ⟨before, groups, after, hfits, rfl⟩

/-- No match starts before the end of a text. -/
def First (pieces : List Piece) (before rest : List Char) : Prop :=
  ∀ start stretch groups after, before = start ++ stretch → stretch ≠ [] → Fits pieces groups →
    stretch ++ rest ≠ groups.flatten ++ after

/-- A search finds the match before which none starts. -/
theorem search_eq_some_iff {pieces : List Piece} (hsep : Separated pieces) {cs : List Char}
    {found : Found} :
    search pieces cs = some found ↔
      Fits pieces found.groups ∧ cs = found.before ++ found.groups.flatten ++ found.after ∧
        First pieces found.before (found.groups.flatten ++ found.after) := by
  induction cs generalizing found with
  | nil =>
      unfold search
      constructor
      · intro h
        rcases Option.map_eq_some_iff.1 h with ⟨m, hmatch, rfl⟩
        rcases fits_of_matchPieces hmatch with ⟨hfits, hcs⟩
        refine ⟨hfits, hcs, ?_⟩
        rintro start stretch groups after hbefore hne
        have hnil : [] = start ++ stretch := hbefore
        rw [List.nil_eq_append_iff] at hnil
        exact absurd hnil.2 hne
      · rintro ⟨hfits, hcs, -⟩
        rcases found with ⟨before, groups, after⟩
        dsimp only at hfits hcs
        rcases List.append_eq_nil_iff.1 hcs.symm with ⟨hfront, rfl⟩
        rcases List.append_eq_nil_iff.1 hfront with ⟨rfl, hgroups⟩
        have hmatch : matchPieces pieces [] = some (groups, []) :=
          (matchPieces_eq_some_iff hsep).2 ⟨hfits, by rw [hgroups]; rfl⟩
        rw [hmatch]
        rfl
  | cons c cs ih =>
      unfold search
      split
      · rename_i m hmatch
        rcases fits_of_matchPieces hmatch with ⟨hfits, hcs⟩
        constructor
        · intro h
          obtain rfl := Option.some.inj h
          refine ⟨hfits, hcs, ?_⟩
          rintro start stretch groups after hbefore hne
          have hnil : [] = start ++ stretch := hbefore
          rw [List.nil_eq_append_iff] at hnil
          exact absurd hnil.2 hne
        · rintro ⟨hfits', hcs', hfirst⟩
          rcases found with ⟨before, groups, after⟩
          dsimp only at hfits' hcs' hfirst
          cases before with
          | nil =>
              rcases hfits.unique hsep hfits' (hcs.symm.trans hcs') with ⟨hgroups, hrest⟩
              rw [hgroups, hrest]
          | cons d before =>
              have hclash := hfirst [] (d :: before) m.1 m.2 rfl (by simp) hfits
              rw [← List.append_assoc, ← hcs', hcs] at hclash
              exact absurd rfl hclash
      · rename_i hnone
        have hno := matchPieces_eq_none_iff.1 hnone
        constructor
        · intro h
          rcases Option.map_eq_some_iff.1 h with ⟨found', hfound', rfl⟩
          rcases ih.1 hfound' with ⟨hfits, rfl, hfirst⟩
          refine ⟨hfits, rfl, ?_⟩
          rintro start stretch groups after hbefore hne hfits' heq
          cases start with
          | nil =>
              obtain rfl : c :: found'.before = stretch := hbefore
              refine hno groups after hfits' ?_
              rw [← heq, List.cons_append, List.append_assoc]
          | cons d start =>
              exact hfirst start stretch groups after (List.cons.inj hbefore).2 hne hfits' heq
        · rintro ⟨hfits, hcs, hfirst⟩
          rcases found with ⟨before, groups, after⟩
          dsimp only at hfits hcs hfirst
          cases before with
          | nil => exact absurd hcs (hno groups after hfits)
          | cons d before =>
              rw [List.cons_append, List.cons_append] at hcs
              rcases List.cons.inj hcs with ⟨rfl, rfl⟩
              have hsearch : search pieces (before ++ groups.flatten ++ after) =
                  some ⟨before, groups, after⟩ := by
                refine ih.2 ⟨hfits, rfl, ?_⟩
                rintro start stretch groups' after' hbefore hne hfits'
                exact hfirst (c :: start) stretch groups' after' (congrArg _ hbefore) hne hfits'
              rw [hsearch]
              rfl

end Pattern
end Library
end StrategyWorker
