import Mathlib.Data.List.Sort
import StrategyWorker.Library.PyJsonRoundTrip

/-!
# Objects and their JSON form

The values that a caller can put into a mapping: beside those of JSON also
tuples, keys that are no texts, and objects that {lit}`json.dumps` refuses.
{lit}`json.dumps` with sorted keys writes a tuple as a list and a key as a text,
so that only plain values, which have neither, compare equal with what is read.

Main results:

- Theorem {lit}`plain_of_equal`: what equals a value that was read is plain.
- Theorem {lit}`equal_of_plain`: a plain value equals its JSON form, which its
  text determines.
-/

namespace StrategyWorker
namespace Library

open Binary64
open PyJson (InFormat Faithful FaithfulList FaithfulFields intsFit intsFitList intsFitFields)

/-! ## Objects -/

/-- The keys that {lit}`json.dumps` writes. -/
inductive PyKey where
  | none
  | bool (b : Bool)
  | int (n : Int)
  | float (f : PyFloat)
  | str (s : String)
  deriving DecidableEq

/-- A value of a mapping. -/
inductive PyObject where
  | none
  | bool (b : Bool)
  | int (n : Int)
  | float (f : PyFloat)
  | str (s : String)
  | list (vs : List PyObject)
  | tuple (vs : List PyObject)
  | dict (items : List (PyKey × PyObject))
  /-- An object that {lit}`json.dumps` refuses, or a dictionary with such a key. -/
  | other

/-! ## Equality -/

/-- {lit}`x == y` of numbers. -/
def sameNumber : PyFloat → PyFloat → Bool
  | .nan, _ | _, .nan => false
  | x, y => x = y

/-- The number that a key is, exactly. -/
def PyKey.number? : PyKey → Option PyFloat
  | .bool b => some (.finite (if b then 1 else 0))
  | .int n => some (.finite n)
  | .float f => some f
  | .none | .str _ => Option.none

/-- {lit}`k == k'`. -/
def PyKey.equal (k k' : PyKey) : Bool :=
  match k.number?, k'.number? with
  | some x, some y => sameNumber x y
  | _, _ => k = k'

@[simp]
theorem PyKey.equal_str (k : PyKey) (s : String) : k.equal (.str s) = true ↔ k = .str s := by
  cases k <;> simp [PyKey.equal, PyKey.number?]

namespace PyObject

/-- The number that an object is, exactly. -/
def number? : PyObject → Option PyFloat
  | .bool b => some (.finite (if b then 1 else 0))
  | .int n => some (.finite n)
  | .float f => some f
  | .none | .str _ | .list _ | .tuple _ | .dict _ | .other => Option.none

/-- Numbers compare by value; nothing else equals a number. -/
def equalNumbers (v w : PyObject) : Bool :=
  match v.number?, w.number? with
  | some x, some y => sameNumber x y
  | _, _ => false

mutual

/-- {lit}`v == w`; dictionaries compare without regard to the order of their keys. -/
def equal : PyObject → PyObject → Bool
  | .none, w => match w with
      | .none => true
      | _ => false
  | .bool b, w => equalNumbers (.bool b) w
  | .int n, w => equalNumbers (.int n) w
  | .float f, w => equalNumbers (.float f) w
  | .str s, w => match w with
      | .str t => s = t
      | _ => false
  | .list vs, w => match w with
      | .list ws => equalList vs ws
      | _ => false
  | .tuple vs, w => match w with
      | .tuple ws => equalList vs ws
      | _ => false
  | .dict items, w => match w with
      | .dict items' => items.length = items'.length && equalItems items items'
      | _ => false
  | .other, _ => false

def equalList : List PyObject → List PyObject → Bool
  | [], ws => ws.isEmpty
  | v :: vs, ws => match ws with
      | [] => false
      | w :: ws => equal v w && equalList vs ws

/-- Each key is there, with an equal value. -/
def equalItems : List (PyKey × PyObject) → List (PyKey × PyObject) → Bool
  | [], _ => true
  | (k, v) :: items, items' =>
      (match items'.find? fun item => k.equal item.1 with
        | some item => equal v item.2
        | Option.none => false) && equalItems items items'

end

theorem equalItems_iff {items items' : List (PyKey × PyObject)} :
    equalItems items items' = true ↔ ∀ item ∈ items,
      ∃ item', items'.find? (fun other => item.1.equal other.1) = some item' ∧
        equal item.2 item'.2 = true := by
  induction items with
  | nil => simp [equalItems]
  | cons item items ih =>
      rcases item with ⟨k, v⟩
      rw [equalItems, Bool.and_eq_true, ih, List.forall_mem_cons]
      apply and_congr_left'
      cases items'.find? fun item => k.equal item.1 with
      | none => simp
      | some item' => simp

mutual

/-- The keys of a dictionary are different, and floats are values of the format. -/
def WellFormed : PyObject → Prop
  | .none | .bool _ | .int _ | .str _ | .other => True
  | .float f => InFormat f
  | .list vs | .tuple vs => WellFormedList vs
  | .dict items =>
      (items.Pairwise fun item item' => ¬ item.1.equal item'.1) ∧ WellFormedItems items

def WellFormedList : List PyObject → Prop
  | [] => True
  | v :: vs => WellFormed v ∧ WellFormedList vs

def WellFormedItems : List (PyKey × PyObject) → Prop
  | [] => True
  | (_, v) :: items => WellFormed v ∧ WellFormedItems items

end

mutual

/-- A value that JSON has, with texts for keys, and without NaN, which equals nothing. -/
def Plain : PyObject → Prop
  | .none | .bool _ | .int _ | .str _ => True
  | .float f => f ≠ .nan
  | .list vs => PlainList vs
  | .tuple _ | .other => False
  | .dict items => PlainItems items

def PlainList : List PyObject → Prop
  | [] => True
  | v :: vs => Plain v ∧ PlainList vs

def PlainItems : List (PyKey × PyObject) → Prop
  | [] => True
  | (k, v) :: items => (∃ s, k = .str s) ∧ Plain v ∧ PlainItems items

end

/-! ## From JSON -/

mutual

/-- The object that a value of JSON is. -/
def ofJson : PyVal → PyObject
  | .none => .none
  | .bool b => .bool b
  | .int n => .int n
  | .float f => .float f
  | .str s => .str s
  | .datetime _ | .scalar _ => .other
  | .list vs => .list (ofJsonList vs)
  | .dict fields => .dict (ofJsonFields fields)

def ofJsonList : List PyVal → List PyObject
  | [] => []
  | v :: vs => ofJson v :: ofJsonList vs

def ofJsonFields : List (String × PyVal) → List (PyKey × PyObject)
  | [] => []
  | (key, v) :: fields => (.str key, ofJson v) :: ofJsonFields fields

end

theorem ofJsonFields_eq_map (fields : List (String × PyVal)) :
    ofJsonFields fields = fields.map fun f => (.str f.1, ofJson f.2) := by
  induction fields with
  | nil => rfl
  | cons f fields ih =>
      rcases f with ⟨key, v⟩
      rw [ofJsonFields, ih, List.map_cons]

/-- What is found under a key of an object that was read is one of its members. -/
theorem exists_of_find?_ofJsonFields {fields : List (String × PyVal)} {k : PyKey}
    {item : PyKey × PyObject}
    (h : (ofJsonFields fields).find? (fun other => k.equal other.1) = some item) :
    ∃ s w, k = .str s ∧ (s, w) ∈ fields ∧ item.2 = ofJson w := by
  have hmem := List.mem_of_find?_eq_some h
  have hkey : k.equal item.1 = true := by simpa using List.find?_some h
  rw [ofJsonFields_eq_map] at hmem
  rcases List.mem_map.1 hmem with ⟨f, hf, rfl⟩
  exact ⟨f.1, f.2, (PyKey.equal_str k f.1).1 hkey, hf, rfl⟩

mutual

/-- What equals a value that was read is plain. -/
theorem plain_of_equal {v : PyObject} {w : PyVal} (h : v.equal (ofJson w) = true) : v.Plain := by
  cases v with
  | none | bool _ | int _ | str _ => trivial
  | float f =>
      rintro rfl
      rw [equal, equalNumbers] at h
      cases hnumber : (ofJson w).number? with
      | none =>
          rw [hnumber] at h
          cases h
      | some x =>
          rw [hnumber] at h
          cases x <;> cases h
  | list vs =>
      cases w with
      | list ws => exact plainList_of_equal h
      | _ => cases h
  | tuple vs => cases w <;> cases h
  | dict items =>
      cases w with
      | dict fields =>
          rw [ofJson, equal, Bool.and_eq_true] at h
          exact plainItems_of_equal (equalItems_iff.1 h.2)
      | _ => cases h
  | other => cases h

theorem plainList_of_equal {vs : List PyObject} {ws : List PyVal}
    (h : equalList vs (ofJsonList ws) = true) : PlainList vs := by
  cases vs with
  | nil => trivial
  | cons v vs =>
      cases ws with
      | nil => cases h
      | cons w ws =>
          rw [ofJsonList, equalList, Bool.and_eq_true] at h
          exact ⟨plain_of_equal h.1, plainList_of_equal h.2⟩

theorem plainItems_of_equal {items : List (PyKey × PyObject)} {fields : List (String × PyVal)}
    (h : ∀ item ∈ items,
      ∃ item', (ofJsonFields fields).find? (fun other => item.1.equal other.1) = some item' ∧
        equal item.2 item'.2 = true) : PlainItems items := by
  cases items with
  | nil => trivial
  | cons item items =>
      rcases item with ⟨k, v⟩
      rcases List.forall_mem_cons.1 h with ⟨⟨item', hfind, hequal⟩, hrest⟩
      rcases exists_of_find?_ofJsonFields hfind with ⟨s, w, hkey, -, hvalue⟩
      rw [hvalue] at hequal
      exact ⟨⟨s, hkey⟩, plain_of_equal hequal, plainItems_of_equal hrest⟩

end

/-! ## To JSON -/

end PyObject

/-- The text that {lit}`json.dumps` writes for a key. -/
def PyKey.text : PyKey → Except PyError String
  | .none => .ok "null"
  | .bool b => .ok (if b then "true" else "false")
  | .int n =>
      if (toString n.natAbs).toList.length ≤ 4300 then .ok (toString n) else .error .valueError
  | .float f => .ok (PyJson.floatLiteralText f)
  | .str s => .ok s

/-- {lit}`not k' < k`; a NaN is not less than anything, so that its place is left open. -/
def PyKey.le (k k' : PyKey) : Bool :=
  match k, k' with
  | .str s, .str t => s ≤ t
  | _, _ =>
      match k.number?, k'.number? with
      | some x, some y => !floatLt y x
      | _, _ => true

/-- Keys that can be sorted: one key, texts, or numbers. -/
def sortable (keys : List PyKey) : Bool :=
  keys.length ≤ 1 || keys.all (fun k => (k matches .str _)) || keys.all fun k => k.number?.isSome

/-- {lit}`sorted(items)`. -/
def sortItems {V : Type} (items : List (PyKey × V)) : Except PyError (List (PyKey × V)) :=
  if sortable (items.map Prod.fst) then
    .ok (items.insertionSort fun item item' => item.1.le item'.1)
  else .error .typeError

namespace PyObject

mutual

/-- What {lit}`json.dumps(v, sort_keys=True)` writes, as a value of JSON. -/
def forJson : PyObject → Except PyError PyVal
  | .none => .ok .none
  | .bool b => .ok (.bool b)
  | .int n => .ok (.int n)
  | .float f => .ok (.float f)
  | .str s => .ok (.str s)
  | .list vs | .tuple vs => do return .list (← forJsonList vs)
  | .dict items => do
      let sorted ← sortItems (← forJsonItems items)
      return .dict (← sorted.mapM fun item => do return (← item.1.text, item.2))
  | .other => .error .typeError

def forJsonList : List PyObject → Except PyError (List PyVal)
  | [] => .ok []
  | v :: vs => do return (← forJson v) :: (← forJsonList vs)

def forJsonItems : List (PyKey × PyObject) → Except PyError (List (PyKey × PyVal))
  | [] => .ok []
  | (k, v) :: items => do return (k, ← forJson v) :: (← forJsonItems items)

end

/-! ## Plain values -/

theorem sameNumber_self {x : PyFloat} (h : x ≠ .nan) : sameNumber x x = true := by
  cases x with
  | finite q => simp [sameNumber]
  | infinite negative => simp [sameNumber]
  | nan => exact absurd rfl h

theorem equalNumbers_self {v : PyObject} {x : PyFloat} (h : v.number? = some x) (hx : x ≠ .nan) :
    equalNumbers v v = true := by
  rw [equalNumbers, h]
  exact sameNumber_self hx

/-- An item and the member that is written for it. -/
structure WrittenAs (item : PyKey × PyObject) (member : PyKey × PyVal) : Prop where
  key : item.1 = member.1
  faithful : intsFit member.2 = true → Faithful member.2
  equal : item.2.equal (ofJson member.2) = true

theorem intsFitFields_iff {fields : List (String × PyVal)} :
    intsFitFields fields = true ↔ ∀ f ∈ fields, intsFit f.2 = true := by
  induction fields with
  | nil => simp [intsFitFields]
  | cons f fields ih =>
      rcases f with ⟨key, v⟩
      simp [intsFitFields, ih]

theorem plainItems_iff {items : List (PyKey × PyObject)} :
    PlainItems items ↔ ∀ item ∈ items, (∃ s, item.1 = .str s) ∧ item.2.Plain := by
  induction items with
  | nil => simp [PlainItems]
  | cons item items ih =>
      rcases item with ⟨k, v⟩
      simp [PlainItems, ih, and_assoc]

/-- Members under texts, whose texts are written. -/
theorem eq_map_of_text {members : List (PyKey × PyVal)} {fields : List (String × PyVal)}
    (h : (members.mapM fun m => do return (← m.1.text, m.2)) = Except.ok fields)
    (hkeys : ∀ m ∈ members, ∃ s, m.1 = .str s) :
    members = fields.map fun f => (.str f.1, f.2) := by
  induction members generalizing fields with
  | nil =>
      obtain rfl := Except.ok.inj h
      rfl
  | cons m members ih =>
      rcases m with ⟨k, v⟩
      rcases hkeys (k, v) List.mem_cons_self with ⟨s, hs⟩
      have hs : k = .str s := hs
      subst hs
      rw [List.mapM_cons] at h
      rcases bind_eq_ok.1 h with ⟨first, hfirst, hrest⟩
      rcases bind_eq_ok.1 hrest with ⟨others, hothers, hcons⟩
      obtain rfl := Except.ok.inj hfirst
      obtain rfl := Except.ok.inj hcons
      rw [List.map_cons, ← ih hothers fun m hm => hkeys m (List.mem_cons_of_mem _ hm)]

/-- A member of an object without repeated keys is found. -/
theorem find?_ofJsonFields {fields : List (String × PyVal)} (hkeys : (fields.map Prod.fst).Nodup)
    {s : String} {w : PyVal} (hmem : (s, w) ∈ fields) :
    (ofJsonFields fields).find? (fun other => (PyKey.str s).equal other.1) =
      some (.str s, ofJson w) := by
  induction fields with
  | nil => cases hmem
  | cons f fields ih =>
      rcases f with ⟨key, v⟩
      rw [List.map_cons, List.nodup_cons] at hkeys
      rw [ofJsonFields, List.find?_cons]
      by_cases heq : key = s
      · subst heq
        have hsame : (PyKey.str key).equal (.str key) = true := (PyKey.equal_str _ _).2 rfl
        have hvalue : v = w := by
          rcases List.mem_cons.1 hmem with h | h
          · exact (Prod.mk.inj h).2.symm
          · exact absurd (List.mem_map_of_mem (f := Prod.fst) h) hkeys.1
        rw [hvalue]
        simp only [hsame]
      · have hother : (PyKey.str s).equal (.str key) = false := by
          rw [← Bool.not_eq_true, PyKey.equal_str]
          rintro h
          exact heq (PyKey.str.inj h).symm
        have hrest : (s, w) ∈ fields := by
          rcases List.mem_cons.1 hmem with h | h
          · exact absurd (Prod.mk.inj h).1.symm heq
          · exact h
        simp only [hother]
        exact ih hkeys.2 hrest

theorem sortItems_eq_ok {V : Type} {items sorted : List (PyKey × V)}
    (h : sortItems items = .ok sorted) : sorted.Perm items := by
  unfold sortItems at h
  split at h
  · obtain rfl := Except.ok.inj h
    exact List.perm_insertionSort _ _
  · cases h

/-- Plain items under different keys have different texts. -/
theorem nodup_of_plain {items : List (PyKey × PyObject)} (hplain : PlainItems items)
    (hkeys : items.Pairwise fun a b => ¬ a.1.equal b.1) : (items.map Prod.fst).Nodup := by
  rw [plainItems_iff] at hplain
  rw [List.Nodup, List.pairwise_map]
  apply hkeys.imp_of_mem
  intro a b ha hb hne heq
  rcases (hplain b hb).1 with ⟨s, hs⟩
  rw [heq, hs] at hne
  exact hne ((PyKey.equal_str _ _).2 rfl)

theorem exists_of_forall₂_left {α β : Type} {R : α → β → Prop} {xs : List α} {ys : List β}
    (h : List.Forall₂ R xs ys) {x : α} (hx : x ∈ xs) : ∃ y ∈ ys, R x y := by
  induction h with
  | nil => cases hx
  | @cons a b as bs hfirst _ ih =>
      rcases List.mem_cons.1 hx with rfl | hx
      · exact ⟨b, List.mem_cons_self, hfirst⟩
      · rcases ih hx with ⟨y, hy, hxy⟩
        exact ⟨y, List.mem_cons_of_mem b hy, hxy⟩

theorem exists_of_forall₂_right {α β : Type} {R : α → β → Prop} {xs : List α} {ys : List β}
    (h : List.Forall₂ R xs ys) {y : β} (hy : y ∈ ys) : ∃ x ∈ xs, R x y :=
  exists_of_forall₂_left h.flip hy

/-- Lists whose entries agree in their keys. -/
theorem keys_of_forall₂ {K V W : Type} {R : K × V → K × W → Prop} (hR : ∀ a b, R a b → a.1 = b.1)
    {items : List (K × V)} {members : List (K × W)} (h : List.Forall₂ R items members) :
    members.map Prod.fst = items.map Prod.fst := by
  induction h with
  | nil => rfl
  | cons hfirst _ ih => rw [List.map_cons, List.map_cons, hR _ _ hfirst, ih]

/-- The dictionary that is written for plain items. -/
theorem dict_of_plain {items : List (PyKey × PyObject)} {members : List (PyKey × PyVal)}
    {sorted : List (PyKey × PyVal)} {fields : List (String × PyVal)}
    (hmembers : List.Forall₂ WrittenAs items members) (hsorted : sortItems members = .ok sorted)
    (hfields : (sorted.mapM fun m => do return (← m.1.text, m.2)) = Except.ok fields)
    (hplain : PlainItems items) (hkeys : items.Pairwise fun a b => ¬ a.1.equal b.1) :
    (intsFit (.dict fields) = true → Faithful (.dict fields)) ∧
      (PyObject.dict items).equal (ofJson (.dict fields)) = true := by
  have hperm := sortItems_eq_ok hsorted
  have hnodup := nodup_of_plain hplain hkeys
  rw [plainItems_iff] at hplain
  have htexts : ∀ m ∈ sorted, ∃ s, m.1 = .str s := by
    intro m hm
    rcases exists_of_forall₂_right hmembers (hperm.mem_iff.1 hm) with ⟨item, hitem, hwritten⟩
    rw [← hwritten.key]
    exact (hplain item hitem).1
  have hsame := eq_map_of_text hfields htexts
  have hfieldKeys : (fields.map Prod.fst).Nodup := by
    have hkeyTexts : sorted.map Prod.fst = (fields.map Prod.fst).map PyKey.str := by
      rw [hsame, List.map_map, List.map_map]
      rfl
    apply List.Nodup.of_map PyKey.str
    rw [← hkeyTexts, (hperm.map Prod.fst).nodup_iff, keys_of_forall₂ (fun _ _ h => h.key) hmembers]
    exact hnodup
  constructor
  · intro hints
    refine ⟨hfieldKeys, PyJson.faithfulFields_iff.2 fun f hf => ?_⟩
    have hmem : (PyKey.str f.1, f.2) ∈ sorted := hsame ▸ List.mem_map_of_mem hf
    rcases exists_of_forall₂_right hmembers (hperm.mem_iff.1 hmem) with ⟨item, -, hwritten⟩
    exact hwritten.faithful (intsFitFields_iff.1 hints f hf)
  · have hlength : items.length = (ofJsonFields fields).length := by
      rw [ofJsonFields_eq_map, List.length_map, hmembers.length_eq, ← hperm.length_eq, hsame,
        List.length_map]
    rw [ofJson, equal, hlength, decide_eq_true rfl, Bool.true_and, equalItems_iff]
    intro item hitem
    rcases exists_of_forall₂_left hmembers hitem with ⟨m, hm, hwritten⟩
    have hmem := hperm.mem_iff.2 hm
    rw [hsame] at hmem
    rcases List.mem_map.1 hmem with ⟨f, hf, rfl⟩
    refine ⟨(.str f.1, ofJson f.2), ?_, hwritten.equal⟩
    rw [hwritten.key]
    exact find?_ofJsonFields hfieldKeys hf

mutual

/-- A plain value equals its JSON form, which its text determines. -/
theorem equal_of_plain {v : PyObject} {w : PyVal} (h : v.forJson = .ok w) (hplain : v.Plain)
    (hv : v.WellFormed) :
    (intsFit w = true → Faithful w) ∧ v.equal (ofJson w) = true := by
  cases v with
  | none =>
      cases h
      exact ⟨fun _ => trivial, rfl⟩
  | bool b =>
      cases h
      exact ⟨fun _ => trivial, equalNumbers_self (v := .bool b) rfl (by simp)⟩
  | int n =>
      cases h
      refine ⟨fun hints => ?_, equalNumbers_self (v := .int n) rfl (by simp)⟩
      have hfit : (toString n.natAbs).toList.length ≤ 4300 := of_decide_eq_true hints
      exact hfit
  | float f =>
      cases h
      exact ⟨fun _ => hv, equalNumbers_self (v := .float f) rfl hplain⟩
  | str s =>
      cases h
      exact ⟨fun _ => trivial, decide_eq_true rfl⟩
  | list vs =>
      rw [forJson] at h
      rcases bind_eq_ok.1 h with ⟨ws, hws, hlist⟩
      obtain rfl := Except.ok.inj hlist
      exact equalList_of_plain hws hplain hv
  | tuple vs => exact absurd hplain id
  | dict items =>
      rw [forJson] at h
      rcases bind_eq_ok.1 h with ⟨members, hmembers, h⟩
      rcases bind_eq_ok.1 h with ⟨sorted, hsorted, h⟩
      rcases bind_eq_ok.1 h with ⟨fields, hfields, hdict⟩
      obtain rfl := Except.ok.inj hdict
      exact dict_of_plain (writtenAs_of_plain hmembers hplain hv.2) hsorted hfields hplain hv.1
  | other => exact absurd hplain id

theorem equalList_of_plain {vs : List PyObject} {ws : List PyVal} (h : forJsonList vs = .ok ws)
    (hplain : PlainList vs) (hvs : WellFormedList vs) :
    (intsFitList ws = true → FaithfulList ws) ∧ equalList vs (ofJsonList ws) = true := by
  cases vs with
  | nil =>
      cases h
      exact ⟨fun _ => trivial, rfl⟩
  | cons v vs =>
      rw [forJsonList] at h
      rcases bind_eq_ok.1 h with ⟨w, hw, h⟩
      rcases bind_eq_ok.1 h with ⟨ws, hws, hcons⟩
      obtain rfl := Except.ok.inj hcons
      have hfirst := equal_of_plain hw hplain.1 hvs.1
      have hrest := equalList_of_plain hws hplain.2 hvs.2
      constructor
      · intro hints
        rw [intsFitList, Bool.and_eq_true] at hints
        exact ⟨hfirst.1 hints.1, hrest.1 hints.2⟩
      · rw [ofJsonList, equalList, hfirst.2, hrest.2]
        rfl

theorem writtenAs_of_plain {items : List (PyKey × PyObject)} {members : List (PyKey × PyVal)}
    (h : forJsonItems items = .ok members) (hplain : PlainItems items)
    (hitems : WellFormedItems items) : List.Forall₂ WrittenAs items members := by
  cases items with
  | nil =>
      cases h
      exact .nil
  | cons item items =>
      rcases item with ⟨k, v⟩
      rw [forJsonItems] at h
      rcases bind_eq_ok.1 h with ⟨w, hw, h⟩
      rcases bind_eq_ok.1 h with ⟨ws, hws, hcons⟩
      obtain rfl := Except.ok.inj hcons
      have hfirst := equal_of_plain hw hplain.2.1 hitems.1
      exact .cons ⟨rfl, hfirst.1, hfirst.2⟩ (writtenAs_of_plain hws hplain.2.2 hitems.2)

end

/-! ## Mappings with texts for keys -/

end PyObject

/-- A mapping from texts, in insertion order. -/
abbrev PyMapping := List (String × PyObject)

namespace PyMapping

open PyObject

/-- A mapping as an object. -/
def object (d : PyMapping) : PyObject :=
  .dict (d.map fun f => (.str f.1, f.2))

/-- The mapping of an object that was read. -/
def ofJson (fields : PyDict) : PyMapping :=
  fields.map fun f => (f.1, PyObject.ofJson f.2)

theorem object_ofJson (fields : PyDict) :
    (ofJson fields).object = PyObject.ofJson (.dict fields) := by
  rw [object, ofJson, List.map_map, PyObject.ofJson, ofJsonFields_eq_map]
  rfl

/-- The keys of a mapping are different. -/
theorem nodup_of_wellFormed {d : PyMapping} (h : d.object.WellFormed) :
    (d.map Prod.fst).Nodup := by
  have hkeys := h.1
  rw [List.pairwise_map] at hkeys
  rw [List.Nodup, List.pairwise_map]
  refine hkeys.imp fun hne heq => hne ?_
  exact (PyKey.equal_str _ _).2 (congrArg PyKey.str heq)

theorem wellFormedItems_iff {items : List (PyKey × PyObject)} :
    WellFormedItems items ↔ ∀ item ∈ items, item.2.WellFormed := by
  induction items with
  | nil => simp [WellFormedItems]
  | cons item items ih =>
      rcases item with ⟨k, v⟩
      simp [WellFormedItems, ih]

theorem wellFormed_iff {d : PyMapping} :
    d.object.WellFormed ↔ (d.map Prod.fst).Nodup ∧ ∀ f ∈ d, f.2.WellFormed := by
  constructor
  · intro h
    refine ⟨nodup_of_wellFormed h, fun f hf => ?_⟩
    exact wellFormedItems_iff.1 h.2 _ (List.mem_map_of_mem hf)
  · rintro ⟨hkeys, hvalues⟩
    refine ⟨?_, wellFormedItems_iff.2 ?_⟩
    · rw [List.pairwise_map]
      rw [List.Nodup, List.pairwise_map] at hkeys
      refine hkeys.imp fun hne heq => hne ?_
      exact PyKey.str.inj ((PyKey.equal_str _ _).1 heq)
    · intro item hitem
      rcases List.mem_map.1 hitem with ⟨f, hf, rfl⟩
      exact hvalues f hf

theorem plain_object_iff {d : PyMapping} : d.object.Plain ↔ ∀ f ∈ d, f.2.Plain := by
  unfold object
  rw [Plain, plainItems_iff, List.forall_mem_map]
  exact forall₂_congr fun f _ => ⟨fun h => h.2, fun h => ⟨⟨f.1, rfl⟩, h⟩⟩

/-- What {lit}`json.dumps` writes for a value under a key. -/
theorem forall₂_forJsonItems {items : List (PyKey × PyObject)} {members : List (PyKey × PyVal)}
    (h : forJsonItems items = .ok members) :
    List.Forall₂ (fun item m => item.1 = m.1 ∧ item.2.forJson = .ok m.2) items members := by
  induction items generalizing members with
  | nil =>
      cases h
      exact .nil
  | cons item items ih =>
      rcases item with ⟨k, v⟩
      rw [forJsonItems] at h
      rcases bind_eq_ok.1 h with ⟨w, hw, h⟩
      rcases bind_eq_ok.1 h with ⟨ws, hws, hcons⟩
      obtain rfl := Except.ok.inj hcons
      exact .cons ⟨rfl, hw⟩ (ih hws)

/-- The object that is written for a mapping has its keys, with what is written for the values. -/
theorem exists_forJson {d : PyMapping} {w : PyVal} (h : d.object.forJson = .ok w) :
    ∃ fields : PyDict, w = .dict fields ∧ (fields.map Prod.fst).Perm (d.map Prod.fst) ∧
      ∀ f ∈ d, ∃ v, f.2.forJson = .ok v ∧ (f.1, v) ∈ fields := by
  rw [object, forJson] at h
  rcases bind_eq_ok.1 h with ⟨members, hmembers, h⟩
  rcases bind_eq_ok.1 h with ⟨sorted, hsorted, h⟩
  rcases bind_eq_ok.1 h with ⟨fields, hfields, hdict⟩
  obtain rfl := Except.ok.inj hdict
  have hperm := sortItems_eq_ok hsorted
  have hall := forall₂_forJsonItems hmembers
  have htexts : ∀ m ∈ sorted, ∃ s, m.1 = .str s := by
    intro m hm
    rcases exists_of_forall₂_right hall (hperm.mem_iff.1 hm) with ⟨item, hitem, hkey, -⟩
    rcases List.mem_map.1 hitem with ⟨f, -, rfl⟩
    exact ⟨f.1, hkey.symm⟩
  have hsame := eq_map_of_text hfields htexts
  refine ⟨fields, rfl, ?_, ?_⟩
  · have hkeys : (members.map Prod.fst) = (d.map Prod.fst).map PyKey.str := by
      rw [keys_of_forall₂ (fun _ _ h => h.1) hall, List.map_map, List.map_map]
      rfl
    have hfieldKeys : sorted.map Prod.fst = (fields.map Prod.fst).map PyKey.str := by
      rw [hsame, List.map_map, List.map_map]
      rfl
    have hboth := hperm.map Prod.fst
    rw [hkeys, hfieldKeys] at hboth
    exact (List.map_perm_map_iff fun _ _ => PyKey.str.inj).1 hboth
  · intro f hf
    rcases exists_of_forall₂_left hall (List.mem_map_of_mem hf) with ⟨m, hm, hkey, hvalue⟩
    have hmem := hperm.mem_iff.2 hm
    rw [hsame] at hmem
    rcases List.mem_map.1 hmem with ⟨g, hg, rfl⟩
    have hname : f.1 = g.1 := PyKey.str.inj hkey
    exact ⟨g.2, hvalue, hname ▸ hg⟩

end PyMapping
end Library
end StrategyWorker
