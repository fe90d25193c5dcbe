/-
Where the small letters of the case mapping lie.

A statement about every capital letter is a statement about the **runs** of the mapping, and one
about two letters is a statement about pairs of runs.  Each fact below is therefore checked on the
list of runs, or on its pairs, and then carried over to code points.

Main definitions: `CaseRun.avoids` and `CaseRun.misses`, the two checks.

Main results, for a code point `m` that is the small letter of some capital:

* `smallOf?_eq_none_of_smallOf?` — `m` is no capital itself;
* `isValidChar_of_smallOf?` — `m` is a character;
* `kelvin_of_smallOf?` — `m` lies outside ASCII, unless it is the `k` of the Kelvin sign;
* `not_blank_of_smallOf?` — `m` is not blank.
-/

import FeaturePlan.Text.Blank
import FeaturePlan.Text.CaseMap

set_option relaxedAutoImplicit false
set_option autoImplicit false

namespace FeaturePlan.Text

namespace CaseRun

/-! ### Single runs and pairs of runs -/

/-- A bound for the small letters of a run. -/
def lastTarget (run : CaseRun) : Nat := run.target + (run.last - run.first)

theorem image?_eq_some_iff {run : CaseRun} {n m : Nat} :
    run.image? n = some m ↔
      (run.first ≤ n ∧ n ≤ run.last ∧ (n - run.first) % run.stride = 0) ∧
        run.target + (n - run.first) = m := by
  rw [image?]
  split <;> simp_all

/-- No small letter of the run lies between `low` and `high`. -/
def avoids (run : CaseRun) (low high : Nat) : Bool :=
  run.lastTarget.blt low || high.blt run.target

theorem lt_or_lt_of_avoids {run : CaseRun} {low high n m : Nat}
    (h : run.avoids low high = true) (hm : run.image? n = some m) : m < low ∨ high < m := by
  obtain ⟨⟨hfirst, hlast, -⟩, rfl⟩ := image?_eq_some_iff.1 hm
  rw [avoids, Bool.or_eq_true, Nat.blt_eq, Nat.blt_eq, lastTarget] at h
  omega

theorem le_lastTarget {run : CaseRun} {n m : Nat} (hm : run.image? n = some m) :
    m ≤ run.lastTarget := by
  obtain ⟨⟨hfirst, hlast, -⟩, rfl⟩ := image?_eq_some_iff.1 hm
  rw [lastTarget]
  omega

/-- No small letter of `run` is a capital letter of `other`: the two lie apart, or `other` takes
every second code point and `run` has the ones between. -/
def misses (run other : CaseRun) : Bool :=
  run.avoids other.first other.last ||
    ((run.first == run.last || run.stride == 2) && other.stride == 2 &&
      (run.target + other.first) % 2 == 1)

theorem image?_eq_none_of_misses {run other : CaseRun} {n m : Nat}
    (h : run.misses other = true) (hm : run.image? n = some m) : other.image? m = none := by
  rw [misses, Bool.or_eq_true] at h
  rcases h with hapart | hbetween
  · have hout := lt_or_lt_of_avoids hapart hm
    exact if_neg fun hin => by omega
  · obtain ⟨⟨hfirst, hlast, hstride⟩, rfl⟩ := image?_eq_some_iff.1 hm
    simp only [Bool.and_eq_true, Bool.or_eq_true, beq_iff_eq] at hbetween
    obtain ⟨⟨hrun, hother⟩, hodd⟩ := hbetween
    -- the small letters of `run` are all as far from `other.first` as `run.target` is, modulo 2
    have heven : (n - run.first) % 2 = 0 := by
      rcases hrun with hone | htwo
      · omega
      · rwa [htwo] at hstride
    refine if_neg fun hin => ?_
    rw [hother] at hin
    omega

end CaseRun

/-! ### The whole mapping -/

theorem caseRuns_miss : (caseRuns.all fun run => caseRuns.all run.misses) = true := by
  decide +kernel

theorem caseRuns_avoid_blanks :
    (caseRuns.all fun run => blankRanges.all fun range => run.avoids range.1 range.2) = true := by
  decide

theorem caseRuns_avoid_surrogates :
    (caseRuns.all fun run => run.avoids 0xD800 0xDFFF && run.lastTarget.blt 0x110000) = true := by
  decide

/-- The only run that leads into ASCII is the one of the Kelvin sign. -/
theorem caseRuns_avoid_ascii :
    (caseRuns.all fun run => run.avoids 0 0x7F || run == ⟨0x212A, 0x212A, 1, 0x6B⟩) = true := by
  decide

/-- No run leads to `İ`, which is a capital letter although no run has it. -/
theorem caseRuns_avoid_dotted : (caseRuns.all fun run => run.avoids 0x130 0x130) = true := by
  decide

theorem exists_run_of_smallOf? {n m : Nat} (h : smallOf? n = some m) :
    ∃ run ∈ caseRuns, run.image? n = some m :=
  List.exists_of_findSome?_eq_some h

/-- A small letter is no capital letter. -/
theorem smallOf?_eq_none_of_smallOf? {n m : Nat} (h : smallOf? n = some m) :
    smallOf? m = none := by
  obtain ⟨run, hrun, hm⟩ := exists_run_of_smallOf? h
  refine List.findSome?_eq_none_iff.2 fun other hother => ?_
  have hmisses := List.all_eq_true.1 (List.all_eq_true.1 caseRuns_miss run hrun) other hother
  exact CaseRun.image?_eq_none_of_misses hmisses hm

/-- A small letter is a character. -/
theorem isValidChar_of_smallOf? {n m : Nat} (h : smallOf? n = some m) : m.isValidChar := by
  obtain ⟨run, hrun, hm⟩ := exists_run_of_smallOf? h
  obtain ⟨havoids, hbound⟩ :=
    Bool.and_eq_true_iff.1 (List.all_eq_true.1 caseRuns_avoid_surrogates run hrun)
  rw [Nat.blt_eq] at hbound
  have hout := CaseRun.lt_or_lt_of_avoids havoids hm
  have hle := CaseRun.le_lastTarget hm
  rw [Nat.isValidChar]
  omega

/-- The only small letter in ASCII of a capital outside is that of the Kelvin sign. -/
theorem kelvin_of_smallOf? {n m : Nat} (h : smallOf? n = some m) (hm : m < 0x80) :
    n = 0x212A ∧ m = 0x6B := by
  obtain ⟨run, hrun, himage⟩ := exists_run_of_smallOf? h
  rcases Bool.or_eq_true_iff.1 (List.all_eq_true.1 caseRuns_avoid_ascii run hrun) with
    havoids | hkelvin
  · have hout := CaseRun.lt_or_lt_of_avoids havoids himage
    omega
  · rw [beq_iff_eq] at hkelvin
    subst hkelvin
    obtain ⟨⟨hfirst, hlast, -⟩, htarget⟩ := CaseRun.image?_eq_some_iff.1 himage
    dsimp only at hfirst hlast htarget
    omega

theorem ne_dotted_of_smallOf? {n m : Nat} (h : smallOf? n = some m) : m ≠ 0x130 := by
  obtain ⟨run, hrun, hm⟩ := exists_run_of_smallOf? h
  have hout := CaseRun.lt_or_lt_of_avoids (List.all_eq_true.1 caseRuns_avoid_dotted run hrun) hm
  omega

/-- A small letter is not blank. -/
theorem not_blank_of_smallOf? {n m : Nat} (h : smallOf? n = some m) :
    ∀ range ∈ blankRanges, ¬(range.1 ≤ m ∧ m ≤ range.2) := by
  obtain ⟨run, hrun, hm⟩ := exists_run_of_smallOf? h
  intro range hrange hin
  have hranges := List.all_eq_true.1 caseRuns_avoid_blanks run hrun
  have havoids := List.all_eq_true.1 hranges range hrange
  have hout := CaseRun.lt_or_lt_of_avoids havoids hm
  omega

end FeaturePlan.Text
