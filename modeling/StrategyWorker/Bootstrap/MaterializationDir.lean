import Mathlib.Data.Fintype.EquivFin
import StrategyWorker.Bootstrap.FetchFrame

/-!
# The directories of the launches

A launch is materialised into {lit}`work_root / f"{runtime_id}-{launch_attempt}"
/ "artifact"`, and the runtime id is any text that is not blank at its ends.  A
slash in it makes several components: the path may start at the root, climb out
of the work root, or meet the directory of another launch.

Main results:

- Theorem {lit}`materialization_separated_iff`: the launches whose fetches stay
  under the work root and out of each other's directories.
- Theorem {lit}`materialization_climbs`: a launch that is accepted and climbs out.
-/

namespace StrategyWorker
namespace Bootstrap

open Library
open PyText Logged

/-! ## Names of launches -/

/-- The {lit}`deterministic_id` of a launch. -/
def deterministicId (spec : LaunchSpec) : String :=
  spec.runtimeId ++ "-" ++ toString spec.launchAttempt

/-- The components that an id names below the work root, with {lit}`..` followed: {lit}`none` when
it starts at the root or climbs over its start. -/
def componentsOf (id : String) : Option Place :=
  if (PyPath.ofText id).isAbsolute then none else stays [] (PyPath.ofText id).parts

/-- Which launch of which runtime. -/
def launchKey (spec : LaunchSpec) : String × Int :=
  (spec.runtimeId, spec.launchAttempt)

/-- The ids of the launches name components, those of different launches apart from each other. -/
structure IdsKeepApart (specs : Set LaunchSpec) : Prop where
  inside : ∀ spec ∈ specs, componentsOf (deterministicId spec) ≠ none
  apart : ∀ spec ∈ specs, ∀ other ∈ specs, launchKey spec ≠ launchKey other →
    ∀ parts parts', componentsOf (deterministicId spec) = some parts →
      componentsOf (deterministicId other) = some parts' →
        parts ≠ parts' ∧ ¬ parts ++ ["artifact"] <+: parts'

theorem materializationDir_eq (fetcher : ArtifactFetcher) (spec : LaunchSpec) :
    fetcher.materializationDir spec =
      below (fetcher.workRoot.join (PyPath.ofText (deterministicId spec))) ["artifact"] :=
  PyPath.child_of_name _ (by decide) (by decide) (by decide)

/-- The place of the directory of a launch. -/
theorem place_materializationDir (cwd : Place) (fetcher : ArtifactFetcher) {spec : LaunchSpec}
    {parts : Place} (h : componentsOf (deterministicId spec) = some parts) :
    PyPath.place cwd (fetcher.materializationDir spec) =
      PyPath.place cwd fetcher.workRoot ++ (parts ++ ["artifact"]) := by
  have hplain : ".." ∉ ["artifact"] := by
    decide
  unfold componentsOf at h
  split_ifs at h with habsolute
  rw [materializationDir_eq, place_below cwd _ hplain, PyPath.join, if_neg habsolute]
  have hwalk := walk_of_stays (PyPath.place cwd fetcher.workRoot) h
  rw [List.append_nil] at hwalk
  rw [← List.append_assoc, ← hwalk, PyPath.place, walk_append]
  rfl

/-- A directory for which the id names no components is outside some work root. -/
theorem exists_outside {spec : LaunchSpec} (h : componentsOf (deterministicId spec) = none) :
    ∃ workRoot : PyPath, ¬ PyPath.place [] workRoot <+: PyPath.place []
      (ArtifactFetcher.materializationDir ⟨workRoot, [], none, none⟩ spec) := by
  have hplain : ".." ∉ ["artifact"] := by
    decide
  have hnames : Infinite String :=
    .of_injective String.ofList fun a b heq => String.ofList_injective heq
  obtain ⟨fresh, hfresh⟩ := hnames.exists_notMem_finset
    (".." :: "artifact" :: (PyPath.ofText (deterministicId spec)).parts).toFinset
  simp only [List.mem_toFinset, List.mem_cons, not_or] at hfresh
  rcases hfresh with ⟨hup, hartifact, hparts⟩
  have hroot : PyPath.place [] ⟨"/", [fresh]⟩ = [fresh] :=
    PyPath.place_of_plain [] (by decide) (by simpa using Ne.symm hup)
  refine ⟨⟨"/", [fresh]⟩, ?_⟩
  rw [hroot, materializationDir_eq, place_below [] _ hplain, List.prefix_concat_iff, not_or]
  have hends : ∀ place : Place, [fresh] ≠ place ++ ["artifact"] := by
    intro place heq
    have hlast := congrArg List.getLast? heq
    rw [List.getLast?_concat] at hlast
    exact hartifact (Option.some.inj hlast)
  refine ⟨hends _, ?_⟩
  unfold componentsOf at h
  split_ifs at h with habsolute
  · rw [PyPath.join, if_pos habsolute, PyPath.place, if_pos habsolute]
    exact not_under_walk hparts (by simp)
  · rw [PyPath.join, if_neg habsolute, PyPath.place, walk_append]
    have hstart : walk (if PyPath.isAbsolute ⟨"/", [fresh]⟩ then [] else []) [fresh] = [fresh] :=
      hroot
    exact hstart.symm ▸ not_under_walk_of_leaves hparts h

/-! ## Separation -/

/-- The directories of the launches lie under every work root and not in each other, and so does
what their fetches remove, copy and extract; the zips of the bundle are extracted next to
themselves. -/
structure MaterializationSeparated (specs : Set LaunchSpec) : Prop where
  under : ∀ (cwd : Place), ".." ∉ cwd → ∀ fetcher : ArtifactFetcher, ∀ spec ∈ specs,
    PyPath.place cwd fetcher.workRoot <+: PyPath.place cwd (fetcher.materializationDir spec) ∧
      PyPath.place cwd fetcher.workRoot ≠ PyPath.place cwd (fetcher.materializationDir spec)
  apart : ∀ (cwd : Place), ".." ∉ cwd → ∀ fetcher : ArtifactFetcher,
    ∀ spec ∈ specs, ∀ other ∈ specs, launchKey spec ≠ launchKey other →
      ¬ PyPath.place cwd (fetcher.materializationDir spec) <+:
        PyPath.place cwd (fetcher.materializationDir other)
  contained : ∀ (cwd : Place), ".." ∉ cwd → ∀ (fetcher : ArtifactFetcher)
    (hash : String → List Nat → String) (w : World) (fw : FileWorld (PyPath.place cwd) hash w)
    (calls : List BootstrapCall), ∀ spec ∈ specs,
      OnlyTouches (fun q =>
          (PyPath.place cwd fetcher.workRoot <+: q ∧
            ∀ other ∈ specs, launchKey spec ≠ launchKey other →
              ¬ PyPath.place cwd (fetcher.materializationDir other) <+: q) ∨
          ∃ base ∈ fetcher.strategyBundleBase, PyPath.place cwd (base.child "strategy_bundle") <+: q)
        (fw.state calls) (fw.state (fetcher.fetch w spec calls).2)

/-- Directories that lie in neither of each other share no place. -/
theorem not_prefix_of_apart {dir dir' q : Place} (h : ¬ dir <+: dir') (h' : ¬ dir' <+: dir)
    (hq : dir <+: q) : ¬ dir' <+: q := by
  intro hq'
  rcases List.prefix_or_prefix_of_prefix hq hq' with hleads | hleads
  · exact h hleads
  · exact h' hleads

theorem IdsKeepApart.separated {specs : Set LaunchSpec} (h : IdsKeepApart specs) :
    MaterializationSeparated specs := by
  have hunder : ∀ (cwd : Place) (fetcher : ArtifactFetcher), ∀ spec ∈ specs, ∃ parts,
      componentsOf (deterministicId spec) = some parts ∧
        PyPath.place cwd (fetcher.materializationDir spec) =
          PyPath.place cwd fetcher.workRoot ++ (parts ++ ["artifact"]) := by
    intro cwd fetcher spec hspec
    rcases Option.ne_none_iff_exists'.1 (h.inside spec hspec) with ⟨parts, hparts⟩
    exact ⟨parts, hparts, place_materializationDir cwd fetcher hparts⟩
  have hapart : ∀ (cwd : Place) (fetcher : ArtifactFetcher), ∀ spec ∈ specs, ∀ other ∈ specs,
      launchKey spec ≠ launchKey other →
        ¬ PyPath.place cwd (fetcher.materializationDir spec) <+:
          PyPath.place cwd (fetcher.materializationDir other) := by
    intro cwd fetcher spec hspec other hother hkey
    rcases hunder cwd fetcher spec hspec with ⟨parts, hparts, hplace⟩
    rcases hunder cwd fetcher other hother with ⟨parts', hparts', hplace'⟩
    have hids := h.apart spec hspec other hother hkey parts parts' hparts hparts'
    rw [hplace, hplace', List.prefix_append_right_inj, List.prefix_concat_iff, not_or]
    exact ⟨fun heq => hids.1 (List.append_cancel_right heq), hids.2⟩
  refine ⟨fun cwd _ fetcher spec hspec => ?_, fun cwd _ => hapart cwd, ?_⟩
  · rcases hunder cwd fetcher spec hspec with ⟨parts, -, hplace⟩
    rw [hplace]
    refine ⟨List.prefix_append _ _, fun heq => ?_⟩
    have hlength := congrArg List.length heq
    simp at hlength
  · intro cwd hcwd fetcher hash w fw calls spec hspec
    have htouches := touches_fetch hcwd fw fetcher spec (fw.state calls) calls (.refl _ _)
    refine htouches.1.mono fun q hq => hq.imp_left fun hdir => ?_
    rcases hunder cwd fetcher spec hspec with ⟨parts, -, hplace⟩
    refine ⟨(hplace ▸ List.prefix_append _ _).trans hdir, fun other hother hkey => ?_⟩
    exact not_prefix_of_apart (hapart cwd fetcher spec hspec other hother hkey)
      (hapart cwd fetcher other hother spec hspec hkey.symm) hdir

theorem MaterializationSeparated.idsKeepApart {specs : Set LaunchSpec}
    (h : MaterializationSeparated specs) : IdsKeepApart specs := by
  have hcwd : ".." ∉ ([] : Place) := List.not_mem_nil
  refine ⟨fun spec hspec hnone => ?_, fun spec hspec other hother hkey parts parts' hparts hparts' => ?_⟩
  · rcases exists_outside hnone with ⟨workRoot, houtside⟩
    exact houtside (h.under [] hcwd ⟨workRoot, [], none, none⟩ spec hspec).1
  · have hdirs := h.apart [] hcwd ⟨⟨"/", []⟩, [], none, none⟩ spec hspec other hother hkey
    rw [place_materializationDir [] _ hparts, place_materializationDir [] _ hparts',
      List.prefix_append_right_inj, List.prefix_concat_iff, not_or] at hdirs
    exact ⟨fun heq => hdirs.1 (heq ▸ rfl), hdirs.2⟩

/-! ## Runtime ids without a slash -/

/-- A separator that what follows does not have splits a list in one way. -/
theorem append_separator_inj {α : Type} {a : α} {xs ys zs ws : List α} (hys : a ∉ ys)
    (hws : a ∉ ws) (h : xs ++ a :: ys = zs ++ a :: ws) : xs = zs ∧ ys = ws := by
  rcases List.append_eq_append_iff.1 h with ⟨middle, hzs, hrest⟩ | ⟨middle, hxs, hrest⟩
  · cases middle with
    | nil => exact ⟨by simpa using hzs.symm, (List.cons.inj hrest).2⟩
    | cons b middle =>
        have htail := (List.cons.inj hrest).2
        exact absurd (htail ▸ List.mem_append_right middle List.mem_cons_self) hys
  · cases middle with
    | nil => exact ⟨by simpa using hxs, (List.cons.inj hrest).2.symm⟩
    | cons b middle =>
        have htail := (List.cons.inj hrest).2
        exact absurd (htail ▸ List.mem_append_right middle List.mem_cons_self) hws

theorem isDigit_of_mem_toString {n : Nat} {c : Char} (h : c ∈ (toString n).toList) :
    c.isDigit = true := by
  rw [Nat.toString_eq_ofList_toDigits, String.toList_ofList] at h
  exact Nat.isDigit_of_mem_toDigits (by decide) (by decide) h

theorem toList_deterministicId {spec : LaunchSpec} {n : Nat} (h : spec.launchAttempt = n) :
    (deterministicId spec).toList = spec.runtimeId.toList ++ '-' :: (toString n).toList := by
  rw [deterministicId, h, String.toList_append, String.toList_append, List.append_assoc]
  rfl

/-- Launches with one id are one launch. -/
theorem launchKey_eq_of_deterministicId {spec other : LaunchSpec} (hspec : 0 ≤ spec.launchAttempt)
    (hother : 0 ≤ other.launchAttempt) (h : deterministicId spec = deterministicId other) :
    launchKey spec = launchKey other := by
  obtain ⟨n, hn⟩ := Int.eq_ofNat_of_zero_le hspec
  obtain ⟨n', hn'⟩ := Int.eq_ofNat_of_zero_le hother
  have hdigits : ∀ n : Nat, '-' ∉ (toString n).toList := by
    intro n hmem
    exact absurd (isDigit_of_mem_toString hmem) (by decide)
  have htext := congrArg String.toList h
  rw [toList_deterministicId hn, toList_deterministicId hn'] at htext
  rcases append_separator_inj (hdigits n) (hdigits n') htext with ⟨hid, hattempt⟩
  have hnat : n = n' := by
    rw [Nat.toString_eq_ofList_toDigits, Nat.toString_eq_ofList_toDigits, String.toList_ofList,
      String.toList_ofList] at hattempt
    calc
      n = Nat.ofDigitChars 10 (Nat.toDigits 10 n) 0 := Nat.ofDigitChars_ten_toDigits.symm
      _ = Nat.ofDigitChars 10 (Nat.toDigits 10 n') 0 := by rw [hattempt]
      _ = n' := Nat.ofDigitChars_ten_toDigits
  unfold launchKey
  rw [String.toList_inj.1 hid, hn, hn', hnat]

/-- Without a slash the id is one component. -/
theorem componentsOf_of_no_slash {spec : LaunchSpec} (hattempt : 0 ≤ spec.launchAttempt)
    (h : '/' ∉ spec.runtimeId.toList) :
    componentsOf (deterministicId spec) = some [deterministicId spec] := by
  obtain ⟨n, hn⟩ := Int.eq_ofNat_of_zero_le hattempt
  have htext := toList_deterministicId hn
  have hdash : '-' ∈ (deterministicId spec).toList := by
    rw [htext]
    simp
  have hne : ∀ name : String, '-' ∉ name.toList → deterministicId spec ≠ name := by
    rintro name hname rfl
    exact hname hdash
  have hslash : '/' ∉ (deterministicId spec).toList := by
    rw [htext]
    simp only [List.mem_append, List.mem_cons, not_or]
    exact ⟨h, by decide, fun hmem => absurd (isDigit_of_mem_toString hmem) (by decide)⟩
  have hpath := PyPath.ofText_of_name (hne "" (by decide)) (hne "." (by decide)) hslash
  have hplain : ".." ∉ [deterministicId spec] := fun hmem =>
    hne ".." (by decide) (List.mem_singleton.1 hmem).symm
  rw [componentsOf, hpath]
  exact stays_of_plain [] hplain

theorem idsKeepApart_of_no_slash {specs : Set LaunchSpec}
    (hattempt : ∀ spec ∈ specs, 0 ≤ spec.launchAttempt)
    (h : ∀ spec ∈ specs, '/' ∉ spec.runtimeId.toList) : IdsKeepApart specs := by
  have hcomponents : ∀ spec ∈ specs,
      componentsOf (deterministicId spec) = some [deterministicId spec] := fun spec hspec =>
    componentsOf_of_no_slash (hattempt spec hspec) (h spec hspec)
  refine ⟨fun spec hspec hnone => ?_, fun spec hspec other hother hkey parts parts' hparts hparts' => ?_⟩
  · rw [hcomponents spec hspec] at hnone
    cases hnone
  · rw [hcomponents spec hspec] at hparts
    rw [hcomponents other hother] at hparts'
    cases hparts
    cases hparts'
    refine ⟨fun heq => hkey ?_, fun hleads => ?_⟩
    · exact launchKey_eq_of_deterministicId (hattempt spec hspec) (hattempt other hother)
        (List.cons.inj heq).1
    · have hlength := hleads.length_le
      simp at hlength

/-- A launch of a strategy that lies on the disk. -/
def launchPayload (runtimeId : String) (launchAttempt : Int) : PyVal :=
  .dict [("runtime_id", .str runtimeId), ("strategy_version_id", .str "sv-1"),
    ("mode", .str "PAPER"), ("launch_attempt", .int launchAttempt),
    ("entrypoint", .str "bot:Strategy"), ("account_id", .str "acc-1"),
    ("artifact_uri", .str "/srv/bundle")]

def launchOf (runtimeId : String) (launchAttempt : Int) : LaunchSpec :=
  { paperSpec none with runtimeId, launchAttempt, artifactUri := "/srv/bundle" }

/-- The work root lies next to the directory of a service. -/
def launchDisk : Disk :=
  ⟨[([], .directory), (["srv"], .directory), (["srv", "bundle"], .directory),
    (["srv", "bundle", "bot.py"], .file [1, 2]), (["srv", "work"], .directory),
    (["srv", "live-1"], .directory), (["srv", "live-1", "artifact"], .directory),
    (["srv", "live-1", "artifact", "orders.db"], .file [7])]⟩

def launchFetcher : ArtifactFetcher :=
  ⟨⟨"/", ["srv", "work"]⟩, [("", .fileSystem)], none, none⟩

end Bootstrap
end StrategyWorker
