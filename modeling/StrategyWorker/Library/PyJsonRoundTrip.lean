import StrategyWorker.Library.FloatRoundTrip
import StrategyWorker.Library.PyJsonRead

/-!
# Values that are read back

A value without keys that repeat, whose integers have a text and whose floats
are values of the format, is what {lit}`json.loads` makes of its text, when the
keys are written in their order.  Of other objects the members are found under
their keys all the same.

Main results:

- Theorem {lit}`reads_encode`: a value is read back.
- Theorem {lit}`exists_reads_dict`: an object is read as one with the same keys.
- Theorem {lit}`sameKind_of_reads`: what is read is of the kind of what was written.
-/

namespace StrategyWorker
namespace Library
namespace PyJson

open Binary64

/-! ## Values with a text of their own -/

/-- A finite float is a value of the format. -/
def InFormat : PyFloat → Prop
  | .finite q => floatLiteral q = .finite q
  | .infinite _ | .nan => True

/-- A float is read back. -/
theorem reread_of_inFormat {f : PyFloat} (h : InFormat f) : reread f = f := by
  cases f with
  | infinite negative => rfl
  | nan => rfl
  | finite q =>
      have hfloat : floatLiteral q = .finite q := h
      unfold reread
      dsimp only
      split
      · rename_i hzero
        rw [← hzero]
        exact hfloat
      · rename_i hne
        split
        · rename_i hneg
          have hread := floatLiteral_neg (floatLiteral_shortestDigits (neg_pos.2 hneg)
            (floatLiteral_neg hfloat))
          rw [neg_neg] at hread
          exact hread
        · rename_i hnot
          exact floatLiteral_shortestDigits (lt_of_le_of_ne (not_lt.1 hnot) (Ne.symm hne)) hfloat

mutual

/-- A value that its text determines: JSON has the values in it, its integers have at most 4300
digits, its floats are values of the format, and no key repeats. -/
def Faithful : PyVal → Prop
  | .none | .bool _ | .str _ => True
  | .int n => (toString n.natAbs).toList.length ≤ 4300
  | .float f => InFormat f
  | .datetime _ | .scalar _ => False
  | .list vs => FaithfulList vs
  | .dict fields => (fields.map Prod.fst).Nodup ∧ FaithfulFields fields

def FaithfulList : List PyVal → Prop
  | [] => True
  | v :: vs => Faithful v ∧ FaithfulList vs

def FaithfulFields : List (String × PyVal) → Prop
  | [] => True
  | (_, v) :: fields => Faithful v ∧ FaithfulFields fields

end

theorem faithfulFields_iff {fields : List (String × PyVal)} :
    FaithfulFields fields ↔ ∀ f ∈ fields, Faithful f.2 := by
  induction fields with
  | nil => simp [FaithfulFields]
  | cons f fields ih =>
      rcases f with ⟨key, v⟩
      simp [FaithfulFields, ih]

/-! ## Members in their order -/

theorem set_of_not_mem {d : PyDict} {key : String} (h : key ∉ d.map Prod.fst) (value : PyVal) :
    PyDict.set d key value = d ++ [(key, value)] := by
  induction d with
  | nil => rfl
  | cons f d ih =>
      rw [List.map_cons, List.mem_cons, not_or] at h
      rw [PyDict.set, if_neg (Ne.symm h.1), ih h.2, List.cons_append]

/-- Members with different keys are all kept. -/
theorem setAll_of_nodup {done : PyDict} {members : List (String × PyVal)}
    (h : ((done ++ members).map Prod.fst).Nodup) : setAll done members = done ++ members := by
  induction members generalizing done with
  | nil => exact (List.append_nil done).symm
  | cons m members ih =>
      have hnew : m.1 ∉ done.map Prod.fst := by
        intro hmem
        rw [List.map_append, List.nodup_append] at h
        exact h.2.2 _ hmem _ List.mem_cons_self rfl
      have happend : done ++ m :: members = done ++ [(m.1, m.2)] ++ members := by simp
      rw [happend] at h ⊢
      rw [← ih h, setAll, List.foldl_cons, set_of_not_mem hnew]
      rfl

theorem keys_of_readsMember {room : Nat} {fields : List (String × String)}
    {members : List (String × PyVal)} (h : List.Forall₂ (ReadsMember room) fields members) :
    members.map Prod.fst = fields.map Prod.fst := by
  induction h with
  | nil => rfl
  | cons hfirst _ ih => rw [List.map_cons, List.map_cons, hfirst.1, ih]

/-- An object of members with different keys is read as these members. -/
theorem Reads.dict_of_nodup {room : Nat} {fields : List (String × String)}
    {members : List (String × PyVal)} (h : List.Forall₂ (ReadsMember room) fields members)
    (hkeys : (fields.map Prod.fst).Nodup) :
    Reads (room + 1) ('\x7b' :: (joinComma (fields.map fieldText)).toList ++ ['\x7d'])
      (.dict members) := by
  have hread := Reads.dict h
  have hnodup : (([] ++ members : PyDict).map Prod.fst).Nodup := by
    rw [List.nil_append, keys_of_readsMember h]
    exact hkeys
  rwa [setAll_of_nodup hnodup, List.nil_append] at hread

/-! ## Values that are read back -/

mutual

/-- A value is read back, given room for its nesting. -/
theorem reads_encode {o : DumpOptions} (ho : o.sortKeys = false) {v : PyVal} {text : String}
    {room : Nat} (h : encode o v = .ok text) (hdepth : depth v ≤ room) (hv : Faithful v) :
    Reads room text.toList v := by
  cases v with
  | none =>
      cases h
      exact Reads.of_atom ⟨'n', _, rfl, .inr (by simp)⟩ fun _ _ => rfl
  | bool b =>
      cases h
      cases b with
      | false => exact Reads.of_atom ⟨'f', _, rfl, .inr (by simp)⟩ fun _ _ => rfl
      | true => exact Reads.of_atom ⟨'t', _, rfl, .inr (by simp)⟩ fun _ _ => rfl
  | int n =>
      cases h
      exact reads_int room hv
  | float f =>
      cases h
      have hread := reads_float room f
      rwa [reread_of_inFormat hv] at hread
  | str s =>
      cases h
      exact reads_quote room s
  | datetime d => exact absurd hv id
  | scalar v => exact absurd hv id
  | list vs =>
      rw [encode] at h
      rcases bind_eq_ok.1 h with ⟨texts, htexts, ht⟩
      cases ht
      cases room with
      | zero => simp [depth] at hdepth
      | succ room =>
          rw [String.toList_append, String.toList_append]
          exact Reads.list (reads_encodeList ho htexts (Nat.le_of_succ_le_succ hdepth) hv)
  | dict fields =>
      rw [encode] at h
      rcases bind_eq_ok.1 h with ⟨texts, htexts, ht⟩
      rw [ho] at ht
      cases ht
      cases room with
      | zero => simp [depth] at hdepth
      | succ room =>
          have hread := reads_encodeFields ho htexts (Nat.le_of_succ_le_succ hdepth) hv.2
          have hkeys : (texts.map Prod.fst).Nodup := by
            rw [← keys_of_readsMember hread]
            exact hv.1
          rw [String.toList_append, String.toList_append]
          exact Reads.dict_of_nodup hread hkeys

theorem reads_encodeList {o : DumpOptions} (ho : o.sortKeys = false) {vs : List PyVal}
    {texts : List String} {room : Nat} (h : encodeList o vs = .ok texts)
    (hdepth : depthList vs ≤ room) (hvs : FaithfulList vs) :
    List.Forall₂ (fun t w => Reads room t.toList w) texts vs := by
  cases vs with
  | nil =>
      cases h
      exact .nil
  | cons v vs =>
      rw [encodeList] at h
      rcases bind_eq_ok.1 h with ⟨t, ht, hrest⟩
      rcases bind_eq_ok.1 hrest with ⟨ts, hts, hcons⟩
      cases hcons
      exact .cons (reads_encode ho ht ((le_max_left _ _).trans hdepth) hvs.1)
        (reads_encodeList ho hts ((le_max_right _ _).trans hdepth) hvs.2)

theorem reads_encodeFields {o : DumpOptions} (ho : o.sortKeys = false)
    {fields : List (String × PyVal)} {texts : List (String × String)} {room : Nat}
    (h : encodeFields o fields = .ok texts) (hdepth : depthFields fields ≤ room)
    (hfields : FaithfulFields fields) : List.Forall₂ (ReadsMember room) texts fields := by
  cases fields with
  | nil =>
      cases h
      exact .nil
  | cons f fields =>
      rcases f with ⟨key, v⟩
      rw [encodeFields] at h
      rcases bind_eq_ok.1 h with ⟨t, ht, hrest⟩
      rcases bind_eq_ok.1 hrest with ⟨ts, hts, hcons⟩
      cases hcons
      exact .cons ⟨rfl, reads_encode ho ht ((le_max_left _ _).trans hdepth) hfields.1⟩
        (reads_encodeFields ho hts ((le_max_right _ _).trans hdepth) hfields.2)

end

/-- What has been written is loaded as it was. -/
theorem loads_encode {o : DumpOptions} (ho : o.sortKeys = false) {v : PyVal} {text : String}
    {room : Nat} (h : encode o v = .ok text) (hdepth : depth v ≤ room) (hv : Faithful v) :
    loads room text = .ok v :=
  loads_of_reads (reads_encode ho h hdepth hv)

/-! ## What is read of other values -/

/-- A text is read as one value. -/
theorem Reads.unique {room : Nat} {t : List Char} {w w' : PyVal} (h : Reads room t w)
    (h' : Reads room t w') : w = w' := by
  have hends : Ends [] := by simp [Ends]
  have hscan := h.scan (2 * t.length) [] le_rfl hends
  rw [h'.scan (2 * t.length) [] le_rfl hends] at hscan
  exact (congrArg Prod.fst (Except.ok.inj hscan)).symm

theorem sorted_perm (o : DumpOptions) (texts : List (String × String)) :
    (if o.sortKeys then sortFields texts else texts).Perm texts := by
  split
  · exact List.perm_insertionSort _ _
  · exact .refl _

theorem keys_encodeFields {o : DumpOptions} {fields : List (String × PyVal)}
    {texts : List (String × String)} (h : encodeFields o fields = .ok texts) :
    texts.map Prod.fst = fields.map Prod.fst := by
  induction fields generalizing texts with
  | nil =>
      cases h
      rfl
  | cons f fields ih =>
      rcases f with ⟨key, v⟩
      rw [encodeFields] at h
      rcases bind_eq_ok.1 h with ⟨t, -, hrest⟩
      rcases bind_eq_ok.1 hrest with ⟨ts, hts, hcons⟩
      cases hcons
      rw [List.map_cons, List.map_cons, ih hts]

/-- A field of an object and the member that is read of it. -/
theorem exists_member {room : Nat} {texts : List (String × String)}
    {members : List (String × PyVal)} (h : List.Forall₂ (ReadsMember room) texts members)
    {key text : String} (hmem : (key, text) ∈ texts) :
    ∃ w, (key, w) ∈ members ∧ Reads room text.toList w := by
  induction h with
  | nil => cases hmem
  | @cons f m fs ms hfirst _ ih =>
      rcases List.mem_cons.1 hmem with heq | hmem
      · subst heq
        refine ⟨m.2, ?_, hfirst.2⟩
        have hkey : key = m.1 := hfirst.1
        rw [hkey]
        exact List.mem_cons_self
      · rcases ih hmem with ⟨w, hw, hread⟩
        exact ⟨w, List.mem_cons_of_mem _ hw, hread⟩

/-- An object without repeated keys is read as one with the same keys, under which the texts of the
values are read. -/
theorem exists_reads_dict {o : DumpOptions} {fields : PyDict} {text : String} {room : Nat}
    (h : encode o (.dict fields) = .ok text) (hdepth : depth (.dict fields) ≤ room + 1)
    (hints : intsFit (.dict fields) = true) (hkeys : (fields.map Prod.fst).Nodup) :
    ∃ members : PyDict, Reads (room + 1) text.toList (.dict members) ∧
      (members.map Prod.fst).Perm (fields.map Prod.fst) ∧
        ∀ key v, fields.get? key = some v → ∃ t w, encode o v = .ok t ∧ Reads room t.toList w ∧
          members.get? key = some w := by
  rw [encode] at h
  rcases bind_eq_ok.1 h with ⟨texts, htexts, ht⟩
  cases ht
  have hperm := sorted_perm o texts
  have hall := exists_reads_encodeFields htexts (Nat.le_of_succ_le_succ hdepth) hints
  rcases exists_members fun f hf => hall f (hperm.mem_iff.1 hf) with ⟨members, hmembers⟩
  have hsame : (members.map Prod.fst).Perm (fields.map Prod.fst) := by
    rw [keys_of_readsMember hmembers, ← keys_encodeFields htexts]
    exact hperm.map _
  have hnodup : (members.map Prod.fst).Nodup := hsame.nodup_iff.2 hkeys
  refine ⟨members, ?_, hsame, ?_⟩
  · rw [String.toList_append, String.toList_append]
    exact Reads.dict_of_nodup hmembers (keys_of_readsMember hmembers ▸ hnodup)
  · intro key v hget
    have hmem := (PyDict.get?_eq_some_iff hkeys).1 hget
    rcases exists_text_of_mem htexts hmem with ⟨t, ht⟩
    have hfield : (key, t) ∈ texts := (mem_encodeFields htexts key t).2 ⟨v, hmem, ht⟩
    rcases exists_member hmembers (hperm.mem_iff.2 hfield) with ⟨w, hw, hread⟩
    exact ⟨t, w, ht, hread, (PyDict.get?_eq_some_iff hnodup).2 hw⟩

theorem depth_le_of_mem {fields : List (String × PyVal)} {f : String × PyVal} (h : f ∈ fields) :
    depth f.2 ≤ depthFields fields := by
  induction fields with
  | nil => cases h
  | cons g fields ih =>
      rcases g with ⟨key, v⟩
      rw [depthFields]
      rcases List.mem_cons.1 h with rfl | h
      · exact le_max_left _ _
      · exact (ih h).trans (le_max_right _ _)

/-- Of one kind: numbers and texts of JSON are kept, and containers are containers. -/
def SameKind : PyVal → PyVal → Prop
  | .float _, w => ∃ g, w = .float g
  | .datetime _, w | .scalar _, w => ∃ s, w = .str s
  | .list _, w => ∃ ws, w = .list ws
  | .dict _, w => ∃ members, w = .dict members
  | v, w => w = v

/-- What is read is of the kind of what was written. -/
theorem sameKind_of_reads {o : DumpOptions} {v w : PyVal} {text : String} {room : Nat}
    (h : encode o v = .ok text) (hdepth : depth v ≤ room) (hints : intsFit v = true)
    (hread : Reads room text.toList w) : SameKind v w := by
  cases v with
  | none =>
      cases h
      exact hread.unique (Reads.of_atom ⟨'n', _, rfl, .inr (by simp)⟩ fun _ _ => rfl)
  | bool b =>
      cases h
      cases b with
      | false => exact hread.unique (Reads.of_atom ⟨'f', _, rfl, .inr (by simp)⟩ fun _ _ => rfl)
      | true => exact hread.unique (Reads.of_atom ⟨'t', _, rfl, .inr (by simp)⟩ fun _ _ => rfl)
  | int n =>
      cases h
      exact hread.unique (reads_int room (of_decide_eq_true hints))
  | float f =>
      cases h
      exact ⟨_, hread.unique (reads_float room f)⟩
  | str s =>
      cases h
      exact hread.unique (reads_quote room s)
  | datetime d =>
      rw [encode] at h
      rcases bind_eq_ok.1 h with ⟨t, -, ht⟩
      cases ht
      exact ⟨t, hread.unique (reads_quote room t)⟩
  | scalar v =>
      rw [encode] at h
      rcases bind_eq_ok.1 h with ⟨t, -, ht⟩
      cases ht
      exact ⟨t, hread.unique (reads_quote room t)⟩
  | list vs =>
      rw [encode] at h
      rcases bind_eq_ok.1 h with ⟨texts, htexts, ht⟩
      cases ht
      cases room with
      | zero => simp [depth] at hdepth
      | succ room =>
          rcases exists_reads_encodeList htexts (Nat.le_of_succ_le_succ hdepth) hints with ⟨ws, hws⟩
          rw [String.toList_append, String.toList_append] at hread
          exact ⟨ws, hread.unique (Reads.list hws)⟩
  | dict fields =>
      rw [encode] at h
      rcases bind_eq_ok.1 h with ⟨texts, htexts, ht⟩
      cases ht
      cases room with
      | zero => simp [depth] at hdepth
      | succ room =>
          have hall := exists_reads_encodeFields htexts (Nat.le_of_succ_le_succ hdepth) hints
          rcases exists_members fun f hf => hall f ((sorted_perm o texts).mem_iff.1 hf) with
            ⟨members, hmembers⟩
          rw [String.toList_append, String.toList_append] at hread
          exact ⟨_, hread.unique (Reads.dict hmembers)⟩

end PyJson
end Library
end StrategyWorker
