import StrategyWorker.Library.Pattern
import StrategyWorker.Library.PyText

/-!
# The Redis URL in the log

Before a Redis URL is logged its password is replaced by three stars.  Two
patterns look for it: after a user name, and else directly after the
{lit}`://:` of a URL without one.  Both expect a password without
{lit}`/`, {lit}`?`, {lit}`#` and {lit}`@`.

Main results:

- Theorem {lit}`redact_eq_iff`: two texts are logged alike exactly when they are
  equal or differ only in the stretch that a pattern marks.
- Theorem {lit}`password_hidden_iff`: the same for two URLs that differ in their
  password.
- Theorem {lit}`slash_password_logged`: a password with a slash is logged.
-/

namespace StrategyWorker
namespace Integration

open Library
open PyText Pattern

/-! ## The two patterns -/

/-- A character of a class {lit}`[^...]`. -/
def notIn (chars : String) (c : Char) : Bool :=
  c ∉ chars.toList

/-- {lit}`(://)([^/?#:@]+):([^/?#@]+)(@)`. -/
def namedPattern : List Piece :=
  [.lit "://".toList, .run (notIn "/?#:@"), .lit [':'], .run (notIn "/?#@"), .lit ['@']]

/-- {lit}`\1\2:***\4`. -/
def namedReplacement : List (List Char) → List Char
  | [slashes, name, _, _, sign] => slashes ++ name ++ ":***".toList ++ sign
  | _ => []

/-- {lit}`(://:)([^/?#@]+)(@)`. -/
def barePattern : List Piece :=
  [.lit "://:".toList, .run (notIn "/?#@"), .lit ['@']]

/-- {lit}`\1***\3`. -/
def bareReplacement : List (List Char) → List Char
  | [slashes, _, sign] => slashes ++ "***".toList ++ sign
  | _ => []

/-- The two substitutions on a stripped text. -/
def redact (cs : List Char) : List Char :=
  match subOnce namedPattern namedReplacement cs with
  | some out => out
  | none =>
      match subOnce barePattern bareReplacement cs with
      | some out => out
      | none => cs

/-- {lit}`sanitize_redis_url_for_log(redis_url)`. -/
def sanitizeRedisUrlForLog (redisUrl : String) : String :=
  let s := strip redisUrl
  if s = "" then "" else String.ofList (redact s.toList)

/-! ## What the patterns match -/

/-- A user name that the first pattern takes. -/
def NameText (name : List Char) : Prop :=
  name ≠ [] ∧ ∀ c ∈ name, notIn "/?#:@" c = true

/-- A password that the patterns take. -/
def SecretText (secret : List Char) : Prop :=
  secret ≠ [] ∧ ∀ c ∈ secret, notIn "/?#@" c = true

instance (name : List Char) : Decidable (NameText name) :=
  inferInstanceAs (Decidable (_ ∧ _))

instance (secret : List Char) : Decidable (SecretText secret) :=
  inferInstanceAs (Decidable (_ ∧ _))

/-- The texts of the first pattern. -/
def named (name secret : List Char) : List (List Char) :=
  ["://".toList, name, [':'], secret, ['@']]

/-- The texts of the second pattern. -/
def bare (secret : List Char) : List (List Char) :=
  ["://:".toList, secret, ['@']]

theorem fits_named {name secret : List Char} (hname : NameText name) (hsecret : SecretText secret) :
    Fits namedPattern (named name secret) :=
  .lit _ (.run hname.1 hname.2 (.lit _ (.run hsecret.1 hsecret.2 (.lit _ .nil))))

theorem fits_bare {secret : List Char} (hsecret : SecretText secret) :
    Fits barePattern (bare secret) :=
  .lit _ (.run hsecret.1 hsecret.2 (.lit _ .nil))

theorem exists_named {groups : List (List Char)} (h : Fits namedPattern groups) :
    ∃ name secret, groups = named name secret ∧ NameText name ∧ SecretText secret := by
  rcases h with _ | ⟨_, h⟩
  rcases h with _ | _ | ⟨hname, hnameTaken, h⟩
  rcases h with _ | ⟨_, h⟩
  rcases h with _ | _ | ⟨hsecret, hsecretTaken, h⟩
  rcases h with _ | ⟨_, h⟩
  cases h
  exact ⟨_, _, rfl, ⟨hname, hnameTaken⟩, hsecret, hsecretTaken⟩

theorem exists_bare {groups : List (List Char)} (h : Fits barePattern groups) :
    ∃ secret, groups = bare secret ∧ SecretText secret := by
  rcases h with _ | ⟨_, h⟩
  rcases h with _ | _ | ⟨hsecret, hsecretTaken, h⟩
  rcases h with _ | ⟨_, h⟩
  cases h
  exact ⟨_, rfl, hsecret, hsecretTaken⟩

theorem separated_named : Separated namedPattern :=
  ⟨⟨':', [], _, rfl, rfl⟩, ⟨'@', [], _, rfl, rfl⟩, trivial⟩

theorem separated_bare : Separated barePattern :=
  ⟨⟨'@', [], _, rfl, rfl⟩, trivial⟩

/-! ## Matches do not overlap -/

/-- A text that starts with {lit}`://`, has no further slash and ends with an at sign. -/
structure Marked (text : List Char) : Prop where
  exists_tail : ∃ tail, text = ':' :: '/' :: '/' :: tail ∧ '/' ∉ tail ∧ tail.getLast? = some '@'

theorem slash_notMem_of_name {name : List Char} (h : NameText name) : '/' ∉ name := by
  intro hmem
  have hslash := h.2 '/' hmem
  cases hslash

theorem slash_notMem_of_secret {secret : List Char} (h : SecretText secret) : '/' ∉ secret := by
  intro hmem
  have hslash := h.2 '/' hmem
  cases hslash

theorem marked_named {name secret : List Char} (hname : NameText name)
    (hsecret : SecretText secret) : Marked (named name secret).flatten where
  exists_tail := by
    refine ⟨name ++ ':' :: secret ++ ['@'], by simp [named], ?_, List.getLast?_concat⟩
    have hn := slash_notMem_of_name hname
    have hs := slash_notMem_of_secret hsecret
    simp [hn, hs]

theorem marked_bare {secret : List Char} (hsecret : SecretText secret) :
    Marked (bare secret).flatten where
  exists_tail := by
    refine ⟨':' :: secret ++ ['@'], by simp [bare], ?_, List.getLast?_concat⟩
    have hs := slash_notMem_of_secret hsecret
    simp [hs]

/-- A marked text that starts before a {lit}`://` ends before it. -/
theorem Marked.within {text stretch x after : List Char} (h : Marked text) (hne : stretch ≠ [])
    (heq : stretch ++ ':' :: '/' :: '/' :: x = text ++ after) :
    ∃ rest, stretch = text ++ rest := by
  rcases h.exists_tail with ⟨tail, rfl, hslash, hlast⟩
  rcases List.append_eq_append_iff.1 heq with ⟨a, htext, hafter⟩ | ⟨a, hstretch, -⟩
  · -- the rest `a` of the marked text would be the start of the next one
    cases a with
    | nil => exact ⟨[], by rw [htext]; simp⟩
    | cons c a =>
        obtain rfl : ':' = c := (List.cons.inj hafter).1
        cases a with
        | nil =>
            have hend : (':' :: '/' :: '/' :: tail).getLast? = some ':' := by
              rw [htext, List.getLast?_append]
              rfl
            have hsame : (':' :: '/' :: '/' :: tail).getLast? = some '@' := by
              rw [List.getLast?_cons, List.getLast?_cons, List.getLast?_cons, hlast]
              rfl
            rw [hsame] at hend
            cases hend
        | cons d a =>
            obtain rfl : '/' = d := (List.cons.inj (List.cons.inj hafter).2).1
            rcases stretch with _ | ⟨c1, _ | ⟨c2, _ | ⟨c3, stretch⟩⟩⟩
            · exact absurd rfl hne
            · cases htext
            · cases htext
            · simp only [List.cons_append, List.cons.injEq] at htext
              refine absurd ?_ hslash
              rw [htext.2.2.2]
              simp
  · exact ⟨a, hstretch⟩

theorem first_iff_of_marked {pieces : List Piece} (hmarked : ∀ gs, Fits pieces gs → Marked gs.flatten)
    {before x : List Char} :
    First pieces before (':' :: '/' :: '/' :: x) ↔ ¬ Occurs pieces before := by
  constructor
  · rintro hfirst ⟨start, groups, after, hfits, rfl⟩
    have hne : groups.flatten ++ after ≠ [] := by
      rcases (hmarked groups hfits).exists_tail with ⟨tail, htext, -⟩
      simp [htext]
    exact hfirst start (groups.flatten ++ after) groups (after ++ ':' :: '/' :: '/' :: x)
      (List.append_assoc _ _ _) hne hfits (List.append_assoc _ _ _)
  · rintro hnone start stretch groups after rfl hne hfits heq
    rcases (hmarked groups hfits).within hne heq with ⟨rest, rfl⟩
    exact hnone ⟨start, groups, rest, hfits, (List.append_assoc _ _ _).symm⟩

theorem marked_of_named {groups : List (List Char)} (h : Fits namedPattern groups) :
    Marked groups.flatten := by
  rcases exists_named h with ⟨name, secret, rfl, hname, hsecret⟩
  exact marked_named hname hsecret

theorem marked_of_bare {groups : List (List Char)} (h : Fits barePattern groups) :
    Marked groups.flatten := by
  rcases exists_bare h with ⟨secret, rfl, hsecret⟩
  exact marked_bare hsecret

/-- A search finds a match exactly when none is before it. -/
theorem search_iff_of_marked {pieces : List Piece} (hsep : Separated pieces)
    (hmarked : ∀ gs, Fits pieces gs → Marked gs.flatten) {cs : List Char} {found : Found} :
    search pieces cs = some found ↔
      Fits pieces found.groups ∧ cs = found.before ++ found.groups.flatten ++ found.after ∧
        ¬ Occurs pieces found.before := by
  rw [search_eq_some_iff hsep]
  refine and_congr_right fun hfits => and_congr_right fun _ => ?_
  rcases (hmarked _ hfits).exists_tail with ⟨tail, htext, -⟩
  rw [htext, List.cons_append, List.cons_append, List.cons_append]
  exact first_iff_of_marked hmarked

/-! ## The password replaced -/

/-- The stars. -/
def stars : List Char := "***".toList

theorem secretText_stars : SecretText stars := by decide

/-- The stretch between two texts is the password that the first pattern finds. -/
def NamedStretch (before secret after : List Char) : Prop :=
  ∃ a name r, before = a ++ "://".toList ++ name ++ [':'] ∧ after = '@' :: r ∧ NameText name ∧
    SecretText secret ∧ ¬ Occurs namedPattern a

/-- The stretch is the password that the second pattern finds, and the first one finds nothing. -/
def BareStretch (before secret after : List Char) : Prop :=
  (∃ a r, before = a ++ "://:".toList ∧ after = '@' :: r ∧ SecretText secret ∧
    ¬ Occurs barePattern a) ∧ ¬ Occurs namedPattern (before ++ secret ++ after)

/-- The stretch between two texts is masked. -/
def Masked (before secret after : List Char) : Prop :=
  NamedStretch before secret after ∨ BareStretch before secret after

theorem search_named_iff {cs : List Char} {found : Found} :
    search namedPattern cs = some found ↔
      Fits namedPattern found.groups ∧ cs = found.before ++ found.groups.flatten ++ found.after ∧
        ¬ Occurs namedPattern found.before :=
  search_iff_of_marked separated_named fun _ => marked_of_named

theorem search_bare_iff {cs : List Char} {found : Found} :
    search barePattern cs = some found ↔
      Fits barePattern found.groups ∧ cs = found.before ++ found.groups.flatten ++ found.after ∧
        ¬ Occurs barePattern found.before :=
  search_iff_of_marked separated_bare fun _ => marked_of_bare

theorem redact_named {before secret after : List Char} (h : NamedStretch before secret after) :
    redact (before ++ secret ++ after) = before ++ stars ++ after := by
  rcases h with ⟨a, name, r, rfl, rfl, hname, hsecret, hnone⟩
  have hsearch : search namedPattern
      (a ++ "://".toList ++ name ++ [':'] ++ secret ++ '@' :: r) = some ⟨a, named name secret, r⟩ :=
    search_named_iff.2 ⟨fits_named hname hsecret, by simp [named], hnone⟩
  rw [redact, subOnce, hsearch]
  simp [named, namedReplacement, stars]

theorem redact_bare {before secret after : List Char} (h : BareStretch before secret after) :
    redact (before ++ secret ++ after) = before ++ stars ++ after := by
  rcases h with ⟨⟨a, r, rfl, rfl, hsecret, hnone⟩, hnamed⟩
  have hsearch : search barePattern
      (a ++ "://:".toList ++ secret ++ '@' :: r) = some ⟨a, bare secret, r⟩ :=
    search_bare_iff.2 ⟨fits_bare hsecret, by simp [bare], hnone⟩
  rw [redact, subOnce, search_eq_none_iff.2 hnamed, subOnce, hsearch]
  simp [bare, bareReplacement, stars]

theorem Masked.redact {before secret after : List Char} (h : Masked before secret after) :
    redact (before ++ secret ++ after) = before ++ stars ++ after := by
  rcases h with h | h
  · exact redact_named h
  · exact redact_bare h

/-- A text either has a masked stretch or is left as it is. -/
theorem redact_cases (cs : List Char) :
    (∃ before secret after, cs = before ++ secret ++ after ∧ NamedStretch before secret after) ∨
      (∃ before secret after, cs = before ++ secret ++ after ∧ BareStretch before secret after) ∨
        ¬ Occurs namedPattern cs ∧ ¬ Occurs barePattern cs ∧ Integration.redact cs = cs := by
  cases hnamed : search namedPattern cs with
  | some found =>
      rcases search_named_iff.1 hnamed with ⟨hfits, hcs, hnone⟩
      rcases exists_named hfits with ⟨name, secret, hgroups, hname, hsecret⟩
      refine .inl ⟨found.before ++ "://".toList ++ name ++ [':'], secret, '@' :: found.after, ?_,
        found.before, name, found.after, rfl, rfl, hname, hsecret, hnone⟩
      rw [hcs, hgroups]
      simp [named]
  | none =>
      have hno := search_eq_none_iff.1 hnamed
      cases hbare : search barePattern cs with
      | some found =>
          rcases search_bare_iff.1 hbare with ⟨hfits, hcs, hnone⟩
          rcases exists_bare hfits with ⟨secret, hgroups, hsecret⟩
          have htext : cs = found.before ++ "://:".toList ++ secret ++ '@' :: found.after := by
            rw [hcs, hgroups]
            simp [bare]
          refine .inr (.inl ⟨found.before ++ "://:".toList, secret, '@' :: found.after, htext,
            ⟨found.before, found.after, rfl, rfl, hsecret, hnone⟩, ?_⟩)
          rwa [← htext]
      | none =>
          refine .inr (.inr ⟨hno, search_eq_none_iff.1 hbare, ?_⟩)
          rw [Integration.redact, subOnce, hnamed, subOnce, hbare]
          rfl

/-! ## Texts that are logged alike -/

theorem occurs_append {pieces : List Piece} {cs : List Char} (h : Occurs pieces cs)
    (front back : List Char) : Occurs pieces (front ++ cs ++ back) := by
  rcases h with ⟨before, groups, after, hfits, rfl⟩
  exact ⟨front ++ before, groups, after ++ back, hfits, by simp⟩

theorem NamedStretch.occurs {before secret after : List Char}
    (h : NamedStretch before secret after) : Occurs namedPattern (before ++ secret ++ after) := by
  rcases h with ⟨a, name, r, rfl, rfl, hname, hsecret, -⟩
  exact ⟨a, named name secret, r, fits_named hname hsecret, by simp [named]⟩

theorem BareStretch.occurs {before secret after : List Char}
    (h : BareStretch before secret after) : Occurs barePattern (before ++ secret ++ after) := by
  rcases h with ⟨⟨a, r, rfl, rfl, hsecret, -⟩, -⟩
  exact ⟨a, bare secret, r, fits_bare hsecret, by simp [bare]⟩

/-- The first pattern does not match at or in a password that has no user name. -/
theorem occurs_named_around {a secret r : List Char} (hsecret : SecretText secret)
    (h : Occurs namedPattern (a ++ "://:".toList ++ secret ++ '@' :: r)) :
    Occurs namedPattern a ∨ Occurs namedPattern r := by
  rcases h with ⟨start, groups, after, hfits, heq⟩
  have hslash := slash_notMem_of_secret hsecret
  have htext : ∃ d tail, groups.flatten = ':' :: '/' :: '/' :: d :: tail ∧ d ≠ ':' := by
    rcases exists_named hfits with ⟨name, secret', rfl, hname, -⟩
    cases name with
    | nil => exact absurd rfl hname.1
    | cons d name =>
        refine ⟨d, name ++ ':' :: secret' ++ ['@'], by simp [named], ?_⟩
        rintro rfl
        have hcolon := hname.2 ':' List.mem_cons_self
        cases hcolon
  rcases htext with ⟨d, tail, htext, hd⟩
  have heq' : a ++ (':' :: '/' :: '/' :: ':' :: (secret ++ '@' :: r)) =
      start ++ (groups.flatten ++ after) := by
    rw [← List.append_assoc start, ← heq]
    simp
  rcases List.append_eq_append_iff.1 heq' with ⟨y, rfl, hrest⟩ | ⟨y, rfl, hrest⟩
  · -- the match starts behind `a`
    rw [htext] at hrest
    rcases y with _ | ⟨c1, _ | ⟨c2, _ | ⟨c3, _ | ⟨c4, y⟩⟩⟩⟩
    · simp only [List.nil_append, List.cons_append, List.cons.injEq] at hrest
      exact absurd hrest.2.2.2.1.symm hd
    · simp at hrest
    · simp at hrest
    · cases secret with
      | nil => exact absurd rfl hsecret.1
      | cons c secret =>
          simp only [List.nil_append, List.cons_append, List.cons.injEq] at hrest
          refine absurd ?_ hslash
          rw [hrest.2.2.2.2.1]
          exact List.mem_cons_self
    · simp only [List.cons_append, List.cons.injEq] at hrest
      rcases List.append_eq_append_iff.1 hrest.2.2.2.2 with ⟨z, rfl, hz⟩ | ⟨z, rfl, hz⟩
      · cases z with
        | nil => simp at hz
        | cons c z =>
            refine .inr ⟨z, groups, after, hfits, ?_⟩
            simp only [List.cons_append, List.cons.injEq] at hz
            rw [hz.2, htext]
            simp
      · rcases z with _ | ⟨c1, _ | ⟨c2, z⟩⟩
        · simp at hz
        · simp at hz
        · simp only [List.cons_append, List.cons.injEq] at hz
          refine absurd ?_ hslash
          rw [← hz.2.1]
          simp
  · cases y with
    | nil =>
        rw [htext] at hrest
        simp only [List.nil_append, List.cons_append, List.cons.injEq] at hrest
        exact absurd hrest.2.2.2.1 hd
    | cons c y =>
        rcases (marked_of_named hfits).within (by simp) hrest.symm with ⟨rest, hy⟩
        refine .inl ⟨start, groups, rest, hfits, ?_⟩
        rw [hy, List.append_assoc]

/-- What stands in the stretch does not matter to the patterns. -/
theorem NamedStretch.replace {before secret after : List Char}
    (h : NamedStretch before secret after) {secret' : List Char} (hsecret : SecretText secret') :
    NamedStretch before secret' after := by
  rcases h with ⟨a, name, r, hbefore, hafter, hname, -, hnone⟩
  exact ⟨a, name, r, hbefore, hafter, hname, hsecret, hnone⟩

theorem BareStretch.replace {before secret after : List Char}
    (h : BareStretch before secret after) {secret' : List Char} (hsecret : SecretText secret') :
    BareStretch before secret' after := by
  rcases h with ⟨⟨a, r, rfl, rfl, -, hnone⟩, hnamed⟩
  refine ⟨⟨a, r, rfl, rfl, hsecret, hnone⟩, fun hoccurs => hnamed ?_⟩
  rcases occurs_named_around hsecret hoccurs with ha | hr
  · have hwhole := occurs_append ha [] ("://:".toList ++ secret ++ '@' :: r)
    simpa using hwhole
  · have hwhole := occurs_append hr (a ++ "://:".toList ++ secret ++ ['@']) []
    simpa using hwhole

theorem Masked.replace {before secret after : List Char} (h : Masked before secret after)
    {secret' : List Char} (hsecret : SecretText secret') : Masked before secret' after :=
  h.imp (fun h => h.replace hsecret) fun h => h.replace hsecret

theorem NamedStretch.unique {before secret after before' secret' after' : List Char}
    (h : NamedStretch before secret after) (h' : NamedStretch before' secret' after')
    (heq : before ++ secret ++ after = before' ++ secret' ++ after') :
    before = before' ∧ after = after' := by
  rcases h with ⟨a, name, r, rfl, rfl, hname, hsecret, hnone⟩
  rcases h' with ⟨a', name', r', rfl, rfl, hname', hsecret', hnone'⟩
  have hsearch : search namedPattern
      (a ++ "://".toList ++ name ++ [':'] ++ secret ++ '@' :: r) = some ⟨a, named name secret, r⟩ :=
    search_named_iff.2 ⟨fits_named hname hsecret, by simp [named], hnone⟩
  have hsearch' : search namedPattern (a' ++ "://".toList ++ name' ++ [':'] ++ secret' ++ '@' :: r') =
      some ⟨a', named name' secret', r'⟩ :=
    search_named_iff.2 ⟨fits_named hname' hsecret', by simp [named], hnone'⟩
  rw [heq, hsearch'] at hsearch
  simp only [Option.some.injEq, Found.mk.injEq, named, List.cons.injEq] at hsearch
  rcases hsearch with ⟨rfl, ⟨-, rfl, -⟩, rfl⟩
  exact ⟨rfl, rfl⟩

theorem BareStretch.unique {before secret after before' secret' after' : List Char}
    (h : BareStretch before secret after) (h' : BareStretch before' secret' after')
    (heq : before ++ secret ++ after = before' ++ secret' ++ after') :
    before = before' ∧ after = after' := by
  rcases h with ⟨⟨a, r, rfl, rfl, hsecret, hnone⟩, -⟩
  rcases h' with ⟨⟨a', r', rfl, rfl, hsecret', hnone'⟩, -⟩
  have hsearch : search barePattern (a ++ "://:".toList ++ secret ++ '@' :: r) =
      some ⟨a, bare secret, r⟩ :=
    search_bare_iff.2 ⟨fits_bare hsecret, by simp [bare], hnone⟩
  have hsearch' : search barePattern (a' ++ "://:".toList ++ secret' ++ '@' :: r') =
      some ⟨a', bare secret', r'⟩ :=
    search_bare_iff.2 ⟨fits_bare hsecret', by simp [bare], hnone'⟩
  rw [heq, hsearch'] at hsearch
  simp only [Option.some.injEq, Found.mk.injEq] at hsearch
  rcases hsearch with ⟨rfl, -, rfl⟩
  exact ⟨rfl, rfl⟩

/-- Texts that are equal, or that differ only in a masked stretch. -/
def SameButMasked (cs ds : List Char) : Prop :=
  cs = ds ∨ ∃ before c d after, cs = before ++ c ++ after ∧ ds = before ++ d ++ after ∧
    Masked before c after ∧ SecretText d

/-- The logged text shows which pattern matched: a text that is changed by one of them still
matches it. -/
theorem sameButMasked_of_redact {cs ds : List Char} (h : redact cs = redact ds) :
    SameButMasked cs ds := by
  rcases redact_cases cs with ⟨b, c, a, rfl, hc⟩ | ⟨b, c, a, rfl, hc⟩ | ⟨hcn, hcb, hself⟩ <;>
    rcases redact_cases ds with ⟨b', d, a', rfl, hd⟩ | ⟨b', d, a', rfl, hd⟩ | ⟨hdn, hdb, hself'⟩
  · rw [redact_named hc, redact_named hd] at h
    rcases (hc.replace secretText_stars).unique (hd.replace secretText_stars) h with ⟨rfl, rfl⟩
    rcases hd with ⟨a0, name, r, -, -, -, hsecret, -⟩
    exact .inr ⟨_, c, d, _, rfl, rfl, .inl hc, hsecret⟩
  · rw [redact_named hc, redact_bare hd] at h
    refine absurd ?_ (hd.replace secretText_stars).2
    rw [← h]
    exact (hc.replace secretText_stars).occurs
  · rw [redact_named hc, hself'] at h
    refine absurd ?_ hdn
    rw [← h]
    exact (hc.replace secretText_stars).occurs
  · rw [redact_bare hc, redact_named hd] at h
    refine absurd ?_ (hc.replace secretText_stars).2
    rw [h]
    exact (hd.replace secretText_stars).occurs
  · rw [redact_bare hc, redact_bare hd] at h
    rcases (hc.replace secretText_stars).unique (hd.replace secretText_stars) h with ⟨rfl, rfl⟩
    rcases hd with ⟨⟨a0, r, -, -, hsecret, -⟩, -⟩
    exact .inr ⟨_, c, d, _, rfl, rfl, .inr hc, hsecret⟩
  · rw [redact_bare hc, hself'] at h
    refine absurd ?_ hdb
    rw [← h]
    exact (hc.replace secretText_stars).occurs
  · rw [hself, redact_named hd] at h
    refine absurd ?_ hcn
    rw [h]
    exact (hd.replace secretText_stars).occurs
  · rw [hself, redact_bare hd] at h
    refine absurd ?_ hcb
    rw [h]
    exact (hd.replace secretText_stars).occurs
  · rw [hself, hself'] at h
    exact .inl h

/-- Two texts are logged alike exactly when they are equal or differ only in a masked stretch. -/
theorem redact_eq_iff {cs ds : List Char} : redact cs = redact ds ↔ SameButMasked cs ds := by
  refine ⟨sameButMasked_of_redact, ?_⟩
  rintro (rfl | ⟨before, c, d, after, rfl, rfl, hmasked, hsecret⟩)
  · rfl
  · rw [hmasked.redact, (hmasked.replace hsecret).redact]

/-! ## URLs -/

/-- A Redis URL without its password.  The user name may be empty; the first colon behind it starts
the password, the last at sign before the host ends it. -/
structure RedisUrl where
  scheme : String
  username : String
  host : String
  scheme_chars : ∀ c ∈ scheme.toList, c ≠ ':' ∧ isSpace c = false
  username_chars : ':' ∉ username.toList
  host_end : ∀ c ∈ host.toList.getLast?, isSpace c = false

namespace RedisUrl

variable (url : RedisUrl)

/-- The URL with a password. -/
def text (password : String) : String :=
  url.scheme ++ "://" ++ url.username ++ ":" ++ password ++ "@" ++ url.host

/-- The URL up to its password. -/
def opening : List Char :=
  url.scheme.toList ++ "://".toList ++ url.username.toList ++ [':']

/-- The URL from the end of its password on. -/
def closing : List Char :=
  '@' :: url.host.toList

theorem toList_text (password : String) :
    (url.text password).toList = url.opening ++ password.toList ++ url.closing := by
  simp [text, opening, closing, String.toList_append]

theorem trimmed_text (password : String) : Trimmed (url.text password) := by
  unfold Trimmed
  rw [toList_text]
  constructor
  · cases hscheme : url.scheme.toList with
    | nil => simp [opening, hscheme, isSpace]
    | cons c scheme =>
        have hc := (url.scheme_chars c (by rw [hscheme]; exact List.mem_cons_self)).2
        simp [opening, hscheme, hc]
  · cases hhost : url.host.toList.getLast? with
    | none =>
        have hnil : url.host.toList = [] := List.getLast?_eq_none_iff.1 hhost
        simp [closing, hnil, isSpace]
    | some c =>
        have hc := url.host_end c hhost
        have hlast : (url.opening ++ password.toList ++ url.closing).getLast? = some c := by
          rw [List.getLast?_append, closing, List.getLast?_cons, hhost]
          rfl
        rw [hlast]
        simp [hc]

theorem sanitize_text (password : String) :
    sanitizeRedisUrlForLog (url.text password) =
      String.ofList (redact (url.opening ++ password.toList ++ url.closing)) := by
  have hne : url.text password ≠ "" := by
    intro hempty
    have hlist := congrArg String.toList hempty
    rw [toList_text, closing] at hlist
    simp at hlist
  rw [sanitizeRedisUrlForLog, strip_eq_self (url.trimmed_text password), if_neg hne, toList_text]

/-- The colon behind the user name ends the first text that could be followed by a password. -/
theorem exists_opening_append {before secret after x y : List Char}
    (h : Masked before secret after) (heq : url.opening ++ x = before ++ y) :
    ∃ b, before = url.opening ++ b := by
  rcases List.append_eq_append_iff.1 heq with ⟨b, hb, -⟩ | ⟨b, hb, -⟩
  · exact ⟨b, hb⟩
  · cases b with
    | nil => exact ⟨[], by rw [hb, List.append_nil, List.append_nil]⟩
    | cons c b =>
        -- three colons would stand in the opening
        have hscheme : List.count ':' url.scheme.toList = 0 :=
          List.count_eq_zero.2 fun hmem => (url.scheme_chars ':' hmem).1 rfl
        have hname : List.count ':' url.username.toList = 0 :=
          List.count_eq_zero.2 url.username_chars
        have htwo : List.count ':' url.opening = 2 := by
          simp [opening, List.count_append, hscheme, hname]
        have hbefore : 2 ≤ List.count ':' before := by
          rcases h with ⟨a, name, r, rfl, -⟩ | ⟨⟨a, r, rfl, -⟩, -⟩
          · simp [List.count_append]
            omega
          · simp [List.count_append]
        have hlast : ':' ∈ c :: b := by
          have hend : url.opening.getLast? = some ':' := List.getLast?_concat
          rw [hb, List.getLast?_append, List.getLast?_cons] at hend
          refine List.mem_of_getLast? ?_
          rw [List.getLast?_cons]
          simpa using hend
        have hone : 1 ≤ List.count ':' (c :: b) := List.count_pos_iff.2 hlast
        rw [hb, List.count_append] at htwo
        omega

theorem at_notMem_of_secret {secret : List Char} (h : SecretText secret) : '@' ∉ secret := by
  intro hmem
  have hat := h.2 '@' hmem
  cases hat

/-- Texts without an at sign behind the same ones leave the texts in front the same. -/
theorem eq_of_at_sign {p q y c d : List Char} (hc : '@' ∉ c) (hd : '@' ∉ d)
    (h : q ++ '@' :: (y ++ c) = p ++ '@' :: (y ++ d)) : p = q := by
  have hcountC : List.count '@' c = 0 := List.count_eq_zero.2 hc
  have hcountD : List.count '@' d = 0 := List.count_eq_zero.2 hd
  rcases List.append_eq_append_iff.1 h with ⟨w, hw, hrest⟩ | ⟨w, hw, hrest⟩
  · cases w with
    | nil => rw [hw, List.append_nil]
    | cons e w =>
        have hcount := congrArg (List.count '@') hrest
        obtain rfl : '@' = e := (List.cons.inj hrest).1
        simp [List.count_append, hcountC, hcountD] at hcount
        omega
  · cases w with
    | nil => rw [hw, List.append_nil]
    | cons e w =>
        have hcount := congrArg (List.count '@') hrest
        obtain rfl : '@' = e := (List.cons.inj hrest).1
        simp [List.count_append, hcountC, hcountD] at hcount
        omega

/-- A masked stretch in which two URLs differ lies in their passwords. -/
theorem exists_password_split {p q before c d after : List Char} (hne : p ≠ q)
    (hp : url.opening ++ p ++ url.closing = before ++ c ++ after)
    (hq : url.opening ++ q ++ url.closing = before ++ d ++ after)
    (hmasked : Masked before c after) (hsecret : SecretText d) :
    ∃ b t, before = url.opening ++ b ∧ after = t ++ url.closing ∧ p = b ++ c ++ t ∧
      q = b ++ d ++ t := by
  have hc : '@' ∉ c := by
    rcases hmasked with ⟨a, name, r, -, -, -, h, -⟩ | ⟨⟨a, r, -, -, h, -⟩, -⟩
    · exact at_notMem_of_secret h
    · exact at_notMem_of_secret h
  have hd : '@' ∉ d := at_notMem_of_secret hsecret
  rw [List.append_assoc, List.append_assoc] at hp hq
  rcases url.exists_opening_append hmasked hp with ⟨b, rfl⟩
  rw [List.append_assoc] at hp hq
  have hp' := List.append_cancel_left hp
  have hq' := List.append_cancel_left hq
  rw [← List.append_assoc] at hp'
  rcases List.append_eq_append_iff.1 hp' with ⟨z, hz, hclosing⟩ | ⟨t, ht, hafter⟩
  · cases z with
    | nil =>
        rw [List.append_nil] at hz
        rw [List.nil_append] at hclosing
        refine ⟨b, [], rfl, hclosing.symm, by rw [hz, List.append_nil], ?_⟩
        rw [← hclosing, ← List.append_assoc] at hq'
        rw [List.append_nil]
        exact List.append_cancel_right hq'
    | cons e z =>
        -- the at sign behind `p` would stand before the stretch, and so would that behind `q`
        exfalso
        obtain rfl : '@' = e := (List.cons.inj hclosing).1
        have hinner : ∃ y, b = p ++ '@' :: y ∧ z = y ++ c := by
          rcases List.append_eq_append_iff.1 hz with ⟨y, hpy, hcy⟩ | ⟨y, hby, hzy⟩
          · refine absurd ?_ hc
            rw [hcy]
            simp
          · cases y with
            | nil =>
                refine absurd ?_ hc
                rw [List.nil_append] at hzy
                rw [← hzy]
                exact List.mem_cons_self
            | cons e y =>
                rw [List.cons_append] at hzy
                rcases List.cons.inj hzy with ⟨rfl, htail⟩
                exact ⟨y, hby, htail⟩
        rcases hinner with ⟨y, rfl, rfl⟩
        rw [hclosing] at hq'
        have hsame : q ++ '@' :: (y ++ c) = p ++ '@' :: (y ++ d) := by
          have hcancel : (q ++ '@' :: (y ++ c)) ++ after = (p ++ '@' :: (y ++ d)) ++ after := by
            simpa using hq'
          exact List.append_cancel_right hcancel
        exact hne (eq_of_at_sign hc hd hsame)
  · refine ⟨b, t, rfl, hafter, ht, ?_⟩
    rw [hafter, ← List.append_assoc, ← List.append_assoc] at hq'
    exact List.append_cancel_right hq'

/-- Passwords that differ only in a stretch that a pattern marks. -/
def MaskedAlike (p q : String) : Prop :=
  ∃ b c d t, p.toList = b ++ c ++ t ∧ q.toList = b ++ d ++ t ∧
    Masked (url.opening ++ b) c (t ++ url.closing) ∧ SecretText d

theorem sameButMasked_iff (p q : String) :
    SameButMasked (url.opening ++ p.toList ++ url.closing)
        (url.opening ++ q.toList ++ url.closing) ↔ p = q ∨ url.MaskedAlike p q := by
  constructor
  · intro h
    by_cases hpq : p = q
    · exact .inl hpq
    · have hne : p.toList ≠ q.toList := fun heq => hpq (String.toList_injective heq)
      rcases h with heq | ⟨before, c, d, after, hp, hq, hmasked, hsecret⟩
      · exact absurd (List.append_cancel_left (List.append_cancel_right heq)) hne
      · rcases url.exists_password_split hne hp hq hmasked hsecret with ⟨b, t, rfl, rfl, hpt, hqt⟩
        exact .inr ⟨b, c, d, t, hpt, hqt, hmasked, hsecret⟩
  · rintro (rfl | ⟨b, c, d, t, hp, hq, hmasked, hsecret⟩)
    · exact .inl rfl
    · refine .inr ⟨url.opening ++ b, c, d, t ++ url.closing, ?_, ?_, hmasked, hsecret⟩
      · rw [hp]
        simp
      · rw [hq]
        simp

/-- Two URLs that differ in their password are logged alike exactly when the passwords are equal or
differ only in a stretch that a pattern marks. -/
theorem password_hidden_iff (p q : String) :
    sanitizeRedisUrlForLog (url.text p) = sanitizeRedisUrlForLog (url.text q) ↔
      p = q ∨ url.MaskedAlike p q := by
  rw [sanitize_text, sanitize_text, ← sameButMasked_iff, ← redact_eq_iff]
  refine ⟨fun h => ?_, congrArg String.ofList⟩
  have hchars := congrArg String.toList h
  rwa [String.toList_ofList, String.toList_ofList] at hchars

/-- With a user name, passwords without {lit}`/`, {lit}`?`, {lit}`#` and {lit}`@` are masked. -/
theorem maskedAlike_of_username (hname : NameText url.username.toList) {p q : String}
    (hp : SecretText p.toList) (hq : SecretText q.toList) : url.MaskedAlike p q := by
  refine ⟨[], p.toList, q.toList, [], by simp, by simp, .inl ?_, hq⟩
  refine ⟨url.scheme.toList, url.username.toList, url.host.toList, by simp [opening], rfl, hname, hp,
    ?_⟩
  rintro ⟨before, groups, after, hfits, heq⟩
  rcases (marked_of_named hfits).exists_tail with ⟨tail, htext, -⟩
  refine (url.scheme_chars ':' ?_).1 rfl
  rw [heq, htext]
  simp

/-- Without a user name they are masked unless the first pattern matches in the rest of the URL. -/
theorem maskedAlike_of_no_username (hname : url.username = "") {p q : String}
    (hp : SecretText p.toList) (hq : SecretText q.toList)
    (hhost : ¬ Occurs namedPattern url.host.toList) : url.MaskedAlike p q := by
  refine ⟨[], p.toList, q.toList, [], by simp, by simp, .inr ?_, hq⟩
  have hno (pieces : List Piece) (hmarked : ∀ gs, Fits pieces gs → Marked gs.flatten) :
      ¬ Occurs pieces url.scheme.toList := by
    rintro ⟨before, groups, after, hfits, heq⟩
    rcases (hmarked groups hfits).exists_tail with ⟨tail, htext, -⟩
    refine (url.scheme_chars ':' ?_).1 rfl
    rw [heq, htext]
    simp
  have hopening : url.opening = url.scheme.toList ++ "://:".toList := by
    simp [opening, hname]
  refine ⟨⟨url.scheme.toList, url.host.toList, by simp [hopening], rfl, hp,
    hno _ fun _ => marked_of_bare⟩, ?_⟩
  rw [hopening, List.append_nil, List.nil_append]
  intro hoccurs
  rcases occurs_named_around hp hoccurs with h | h
  · exact hno _ (fun _ => marked_of_named) h
  · exact hhost h

/-- A URL with a user name. -/
def localUrl : RedisUrl where
  scheme := "redis"
  username := "worker"
  host := "localhost:6379/0"
  scheme_chars := by decide
  username_chars := by decide
  host_end := by decide

/-- A password with a slash is logged as it is. -/
theorem slash_password_logged :
    sanitizeRedisUrlForLog (localUrl.text "s3cr/et") = localUrl.text "s3cr/et" ∧
      sanitizeRedisUrlForLog (localUrl.text "s3cr/et") ≠
        sanitizeRedisUrlForLog (localUrl.text "s3cr/eu") := by
  decide +kernel

/-- So is a password with an at sign, from that sign on. -/
example :
    sanitizeRedisUrlForLog (localUrl.text "ab@cd") = "redis://worker:***@cd@localhost:6379/0" := by
  decide +kernel

end RedisUrl

end Integration
end StrategyWorker
