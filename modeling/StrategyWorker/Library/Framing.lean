import Mathlib.Data.String.Basic
import StrategyWorker.Library.Sha256

/-!
# Named contents as a stream of bytes

A name in UTF-8, a null byte, then the content: such frames follow each other
in a stream.  The null byte ends the name, and nothing ends the content.

Main results:

- Theorem {lit}`utf8_injective`, theorem {lit}`zero_not_mem_utf8`: names as
  bytes.
- Theorem {lit}`frame_append_inj`: the first name of a stream is determined,
  and all that follows it.
- Theorem {lit}`frame_append_frame`: a content may end in another frame.
- Theorem {lit}`mergeSort_eq_of_perm`: files sorted by their names.
-/

namespace StrategyWorker
namespace Library

open Sha256

/-! ## UTF-8 -/

/-- The bytes of a text are those of its encoding. -/
theorem utf8_eq_map (text : String) :
    utf8 text = (text.toList.flatMap String.utf8EncodeChar).map UInt8.toNat := by
  rw [utf8, List.map_flatMap]

theorem utf8_injective : Function.Injective utf8 := by
  intro text text' h
  rw [utf8_eq_map, utf8_eq_map] at h
  have hbytes := List.map_injective_iff.2 (fun a b heq => UInt8.toNat_inj.1 heq) h
  rw [← String.toByteArray_inj, ← String.utf8Encode_toList, ← String.utf8Encode_toList]
  unfold List.utf8Encode
  rw [hbytes]

theorem lt_of_mem_utf8 {text : String} {b : Nat} (h : b ∈ utf8 text) : b < 256 := by
  rcases List.mem_flatMap.1 h with ⟨c, -, hc⟩
  rcases List.mem_map.1 hc with ⟨byte, -, rfl⟩
  exact byte.toNat_lt

/-- Only the null character has a null byte. -/
theorem eq_zero_of_mem_utf8EncodeChar {c : Char} (h : 0 ∈ String.utf8EncodeChar c) :
    c = Char.ofNat 0 := by
  have hbytes : ∀ n, n < 256 → UInt8.ofNat n = 0 → n = 0 := by
    intro n hlt hn
    have hnat := congrArg UInt8.toNat hn
    rw [UInt8.toNat_ofNat'] at hnat
    simp only [UInt8.toNat_zero] at hnat
    omega
  unfold String.utf8EncodeChar at h
  simp only at h
  split_ifs at h with h1 h2 h3
  · have hzero := hbytes _ (by omega) (List.mem_singleton.1 h).symm
    exact Char.toNat_inj.1 (by simpa using hzero)
  · simp only [List.mem_cons, List.not_mem_nil, or_false] at h
    rcases h with h | h <;> exact absurd (hbytes _ (by omega) h.symm) (by omega)
  · simp only [List.mem_cons, List.not_mem_nil, or_false] at h
    rcases h with h | h | h <;> exact absurd (hbytes _ (by omega) h.symm) (by omega)
  · simp only [List.mem_cons, List.not_mem_nil, or_false] at h
    rcases h with h | h | h | h <;> exact absurd (hbytes _ (by omega) h.symm) (by omega)

theorem zero_not_mem_utf8 {text : String} (h : Char.ofNat 0 ∉ text.toList) : 0 ∉ utf8 text := by
  intro hzero
  rcases List.mem_flatMap.1 hzero with ⟨c, hc, hbytes⟩
  rcases List.mem_map.1 hbytes with ⟨byte, hbyte, hnat⟩
  have hbyte0 : byte = 0 := UInt8.toNat_inj.1 hnat
  exact h (eq_zero_of_mem_utf8EncodeChar (hbyte0 ▸ hbyte) ▸ hc)

/-! ## Frames -/

/-- A name, a null byte, and the content. -/
def frame (file : String × List Nat) : List Nat :=
  utf8 file.1 ++ [0] ++ file.2

/-- The stream of a list of files. -/
def stream (files : List (String × List Nat)) : List Nat :=
  files.flatMap frame

theorem stream_cons (file : String × List Nat) (files : List (String × List Nat)) :
    stream (file :: files) = frame file ++ stream files :=
  List.flatMap_cons

theorem frame_ne_nil (file : String × List Nat) : frame file ≠ [] := by
  simp [frame]

theorem stream_eq_nil_iff {files : List (String × List Nat)} : stream files = [] ↔ files = [] := by
  cases files with
  | nil => simp [stream]
  | cons file files => simp [stream_cons, frame_ne_nil]

/-- The first separator splits a list in one way. -/
theorem append_cons_inj_of_not_mem {α : Type} {a : α} {xs ys xs' ys' : List α} (hxs : a ∉ xs)
    (hxs' : a ∉ xs') (h : xs ++ a :: ys = xs' ++ a :: ys') : xs = xs' ∧ ys = ys' := by
  induction xs generalizing xs' with
  | nil =>
      cases xs' with
      | nil => exact ⟨rfl, (List.cons.inj h).2⟩
      | cons x xs' => exact absurd (List.cons.inj h).1 fun heq => hxs' (by simp [heq])
  | cons x xs ih =>
      rw [List.mem_cons, not_or] at hxs
      cases xs' with
      | nil => exact absurd (List.cons.inj h).1.symm hxs.1
      | cons x' xs' =>
          rw [List.mem_cons, not_or] at hxs'
          rcases List.cons.inj h with ⟨rfl, htail⟩
          rcases ih hxs.2 hxs'.2 htail with ⟨rfl, hys⟩
          exact ⟨rfl, hys⟩

/-- The first name of a stream is determined, and all that follows it. -/
theorem frame_append_inj {name name' : String} {content content' rest rest' : List Nat}
    (hname : Char.ofNat 0 ∉ name.toList) (hname' : Char.ofNat 0 ∉ name'.toList)
    (h : frame (name, content) ++ rest = frame (name', content') ++ rest') :
    name = name' ∧ content ++ rest = content' ++ rest' := by
  simp only [frame, List.append_assoc, List.singleton_append] at h
  rcases append_cons_inj_of_not_mem (zero_not_mem_utf8 hname) (zero_not_mem_utf8 hname') h with
    ⟨hbytes, hrest⟩
  exact ⟨utf8_injective hbytes, hrest⟩

/-- A content may end in another frame. -/
theorem frame_append_frame (name : String) (content : List Nat) (file : String × List Nat) :
    frame (name, content ++ frame file) = frame (name, content) ++ frame file := by
  simp [frame]

theorem lt_of_mem_frame {file : String × List Nat} (h : ∀ b ∈ file.2, b < 256) {b : Nat}
    (hb : b ∈ frame file) : b < 256 := by
  rw [frame, List.mem_append, List.mem_append, List.mem_singleton] at hb
  rcases hb with (hb | rfl) | hb
  · exact lt_of_mem_utf8 hb
  · decide
  · exact h b hb

/-! ## Sorting by names -/

section

variable {α : Type} (name : α → String)

/-- {lit}`sorted(xs, key=name)`. -/
def sortByName (xs : List α) : List α :=
  xs.mergeSort fun x y => name x ≤ name y

theorem sortByName_perm (xs : List α) : (sortByName name xs).Perm xs :=
  List.mergeSort_perm _ _

theorem pairwise_sortByName (xs : List α) :
    (sortByName name xs).Pairwise fun x y => name x ≤ name y := by
  have htrans : ∀ x y z : α, decide (name x ≤ name y) = true → decide (name y ≤ name z) = true →
      decide (name x ≤ name z) = true := fun x y z hxy hyz =>
    decide_eq_true (le_trans (of_decide_eq_true hxy) (of_decide_eq_true hyz))
  have htotal : ∀ x y : α, (decide (name x ≤ name y) || decide (name y ≤ name x)) = true := by
    intro x y
    rw [Bool.or_eq_true]
    exact (le_total (name x) (name y)).imp decide_eq_true decide_eq_true
  exact (List.pairwise_mergeSort htrans htotal xs).imp fun h => of_decide_eq_true h

/-- What is sorted by names of its own depends on the members only. -/
theorem sortByName_eq_of_perm {xs ys : List α} (h : xs.Perm ys)
    (hinj : ∀ x ∈ xs, ∀ y ∈ xs, name x = name y → x = y) :
    sortByName name xs = sortByName name ys := by
  have hperm : (sortByName name xs).Perm (sortByName name ys) :=
    (sortByName_perm name xs).trans (h.trans (sortByName_perm name ys).symm)
  refine hperm.eq_of_pairwise (fun x y hx hy hxy hyx => ?_) (pairwise_sortByName name xs)
    (pairwise_sortByName name ys)
  have hx' : x ∈ xs := (sortByName_perm name xs).mem_iff.1 hx
  have hy' : y ∈ xs := h.mem_iff.2 ((sortByName_perm name ys).mem_iff.1 hy)
  exact hinj x hx' y hy' (le_antisymm hxy hyx)

/-- What is sorted already stays. -/
theorem sortByName_of_pairwise {xs : List α} (h : xs.Pairwise fun x y => name x ≤ name y) :
    sortByName name xs = xs :=
  List.mergeSort_of_pairwise (h.imp fun hle => decide_eq_true hle)

theorem le_append_right (text rest : String) : text ≤ text ++ rest := by
  rw [← not_lt, String.lt_iff_toList_lt, String.toList_append]
  exact List.le_append_left

theorem le_append_left_iff (start text text' : String) :
    start ++ text ≤ start ++ text' ↔ text ≤ text' := by
  rw [← not_lt, ← not_lt, String.lt_iff_toList_lt, String.lt_iff_toList_lt, String.toList_append,
    String.toList_append]
  induction start.toList with
  | nil => rfl
  | cons c cs ih => simpa using ih

/-- Sorted by names before or after a map that keeps their order. -/
theorem sortByName_map {β : Type} {name' : β → String} {f : α → β} {xs : List α}
    (h : ∀ x ∈ xs, ∀ y ∈ xs, name' (f x) ≤ name' (f y) ↔ name x ≤ name y) :
    sortByName name' (xs.map f) = (sortByName name xs).map f :=
  (List.map_mergeSort fun x hx y hy => decide_eq_decide.2 (h x hx y hy).symm).symm

end

end Library
end StrategyWorker
