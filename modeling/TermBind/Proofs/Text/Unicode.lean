import TermBind.Text.Unicode.Case
import TermBind.Text.Unicode.Identifier
import TermBind.Text.Unicode.Letter

/-! Upper case and identifiers: raising a character keeps it within what identifiers are made of, and
does not bring it there. -/
namespace TermBind.Unicode

theorem inRanges_of_mem {ranges : List (Nat × Nat)} {range : Nat × Nat} {code : Nat}
    (member : range ∈ ranges) (lower : range.1 ≤ code) (upper : code ≤ range.2) :
    inRanges ranges code = true :=
  List.any_eq_true.mpr ⟨range, member, by simp [lower, upper]⟩

/-- A stretch of code points lies in one of the ranges. -/
def spans (ranges : List (Nat × Nat)) (first last : Nat) : Bool :=
  ranges.any fun range => range.1.ble first && last.ble range.2

theorem inRanges_of_spans {ranges : List (Nat × Nat)} {first last code : Nat}
    (within : spans ranges first last = true) (lower : first ≤ code) (upper : code ≤ last) :
    inRanges ranges code = true := by
  obtain ⟨range, member, found⟩ := List.any_eq_true.mp within
  rw [Bool.and_eq_true, Nat.ble_eq, Nat.ble_eq] at found
  exact inRanges_of_mem member (Nat.le_trans found.1 lower) (Nat.le_trans upper found.2)

/-- Stretches in ascending order lie in ranges in ascending order. Each list is gone through once. -/
def coversInOrder : List (Nat × Nat) → List (Nat × Nat) → Bool
  | [], stretches => stretches.isEmpty
  | range :: ranges, stretches =>
    coversInOrder ranges <| stretches.dropWhile fun stretch =>
      range.1.ble stretch.1 && stretch.2.ble range.2

theorem inRanges_of_coversInOrder {ranges stretches : List (Nat × Nat)}
    (covers : coversInOrder ranges stretches = true) {stretch : Nat × Nat} (member : stretch ∈ stretches)
    {code : Nat} (lower : stretch.1 ≤ code) (upper : code ≤ stretch.2) :
    inRanges ranges code = true := by
  induction ranges generalizing stretches with
  | nil =>
    rw [coversInOrder, List.isEmpty_iff] at covers
    rw [covers] at member
    cases member
  | cons range ranges ih =>
    rw [coversInOrder] at covers
    rw [← List.takeWhile_append_dropWhile (l := stretches) (p := fun stretch =>
      range.1.ble stretch.1 && stretch.2.ble range.2)] at member
    rcases List.mem_append.mp member with taken | dropped
    · have found := List.all_eq_true.mp List.all_takeWhile stretch taken
      rw [Bool.and_eq_true, Nat.ble_eq, Nat.ble_eq] at found
      exact inRanges_of_mem List.mem_cons_self (Nat.le_trans found.1 lower)
        (Nat.le_trans upper found.2)
    · have later := ih covers dropped
      obtain ⟨range, listed, found⟩ := List.any_eq_true.mp later
      exact List.any_eq_true.mpr ⟨range, List.mem_cons_of_mem _ listed, found⟩

/-- What holds of the first code points holds of the characters of ASCII. -/
theorem forall_ascii {holds : Char → Prop} (c : Char) (low : c.toNat < 128)
    (each : ∀ code < 128, holds (Char.ofNat code)) : holds c := by
  have own := each c.toNat low
  rwa [Char.ofNat_toNat] at own

/-- A digit or capital of ASCII, or a character beyond it. -/
def IsCapital (c : Char) : Prop := c.isDigit = true ∨ c.isUpper = true ∨ 128 ≤ c.toNat

instance : DecidablePred IsCapital := fun c =>
  inferInstanceAs (Decidable (c.isDigit = true ∨ c.isUpper = true ∨ 128 ≤ c.toNat))

/-- The code points of the characters that identifiers are made of. -/
def isPartCode (code : Nat) : Bool :=
  (code.blt 128 && isXidContinue (Char.ofNat code)) || spans identifierParts code code

/-- The circled letters are the only ones with another case that no identifier can have. -/
def circledRun : Nat × Nat × Nat × Nat := (0x24d0, 0x24e9, 1, 0x24b6)

/-- Where a run leads is within identifiers as a stretch, or place by place where it has gaps. -/
def leadsToParts (run : Nat × Nat × Nat × Nat) : Bool :=
  spans identifierParts run.2.2.2 (run.2.2.2 + (run.2.1 - run.1)) ||
    (List.range (run.2.1 - run.1 + 1)).all fun step =>
      step % run.2.2.1 != 0 || isPartCode (run.2.2.2 + step)

/-- What the tables of upper case and of identifiers are checked for, entry by entry. -/
structure TablesAgree : Prop where
  asciiCapital : ∀ code < 128, isAlphanumeric (Char.ofNat code) = true →
    IsCapital (Char.ofNat code).toUpper
  asciiPart : ∀ code < 128,
    isXidContinue (Char.ofNat code).toUpper = isXidContinue (Char.ofNat code)
  textFilled : ∀ entry ∈ upperTexts, entry.2 ≠ []
  textCapital : ∀ entry ∈ upperTexts, ∀ code ∈ entry.2,
    code < 0xd800 ∧ (65 ≤ code ∧ code ≤ 90 ∨ 128 ≤ code)
  textCovered :
    coversInOrder identifierParts (upperTexts.map fun entry => (entry.1, entry.1)) = true
  textLeads : (upperTexts.all fun entry => entry.2.all isPartCode) = true
  runCapital : ∀ run ∈ upperRuns, 65 ≤ run.2.2.2 ∧ run.2.2.2 + (run.2.1 - run.1) ≤ 90 ∨
    128 ≤ run.2.2.2 ∧ (run.2.2.2 + (run.2.1 - run.1) < 0xd800 ∨
      0xdfff < run.2.2.2 ∧ run.2.2.2 + (run.2.1 - run.1) < 0x110000)
  runCovered : coversInOrder identifierParts
    ((upperRuns.filter (· != circledRun)).map fun run => (run.1, run.2.1)) = true
  runLeads : (upperRuns.all fun run => run == circledRun || leadsToParts run) = true
  startCovered : coversInOrder identifierParts identifierStarts = true
  partValid : ∀ range ∈ identifierParts,
    128 ≤ range.1 ∧ (range.2 < 0xd800 ∨ 0xdfff < range.1 ∧ range.2 < 0x110000)
  partApart : (identifierParts.all fun range =>
    !Nat.ble 0x24b6 range.2 || !Nat.ble range.1 0x24e9) = true

theorem tablesAgree : TablesAgree where
  asciiCapital := by decide +kernel
  asciiPart := by decide +kernel
  textFilled := by decide +kernel
  textCapital := by decide +kernel
  textCovered := by decide +kernel
  textLeads := by decide +kernel
  runCapital := by decide +kernel
  runCovered := by decide +kernel
  runLeads := by decide +kernel
  startCovered := by decide +kernel
  partValid := by decide +kernel
  partApart := by decide +kernel

/-- What a character is raised to: to its own upper case within ASCII; beyond it to a listed text, by the
distance of a run, or not at all. -/
inductive IsRaised (c : Char) : List Char → Prop
  | ascii (low : c.toNat < 128) : IsRaised c [c.toUpper]
  | text {codes : List Nat} (high : 128 ≤ c.toNat) (listed : (c.toNat, codes) ∈ upperTexts) :
      IsRaised c (codes.map Char.ofNat)
  | run {run : Nat × Nat × Nat × Nat} (high : 128 ≤ c.toNat) (listed : run ∈ upperRuns)
      (lower : run.1 ≤ c.toNat) (upper : c.toNat ≤ run.2.1)
      (stepped : (c.toNat - run.1) % run.2.2.1 = 0) :
      IsRaised c [Char.ofNat (run.2.2.2 + (c.toNat - run.1))]
  | same (high : 128 ≤ c.toNat) : IsRaised c [c]

theorem isRaised_upperCase (c : Char) : IsRaised c (upperCase c) := by
  rw [upperCase]
  split
  · exact .ascii ‹_›
  have high : 128 ≤ c.toNat := Nat.le_of_not_lt ‹_›
  split
  · rename_i codes found
    obtain ⟨before, after, whole, _⟩ := List.lookup_eq_some_iff.mp found
    exact .text high (by simp [whole])
  split
  · rename_i run found
    have within := List.find?_some found
    change (decide (run.1 ≤ c.toNat) && decide (c.toNat ≤ run.2.1) &&
      ((c.toNat - run.1) % run.2.2.1 == 0)) = true at within
    simp only [Bool.and_eq_true, decide_eq_true_eq, beq_iff_eq] at within
    exact .run high (List.mem_of_find?_eq_some found) within.1.1 within.1.2 within.2
  · exact .same high

theorem IsRaised.ne_nil {c : Char} {raised : List Char} (known : IsRaised c raised) : raised ≠ [] := by
  cases known with
  | ascii | run | same => simp
  | text high listed => simpa using tablesAgree.textFilled _ listed

theorem toNat_ofNat {code : Nat} (valid : code.isValidChar) : (Char.ofNat code).toNat = code := by
  rw [Char.ofNat, dif_pos valid]
  rfl

theorem isCapital_iff {c : Char} : IsCapital c ↔
    (48 ≤ c.toNat ∧ c.toNat ≤ 57) ∨ (65 ≤ c.toNat ∧ c.toNat ≤ 90) ∨ 128 ≤ c.toNat := by
  change (decide (c.val ≥ '0'.val) && decide (c.val ≤ '9'.val)) = true ∨
    decide (c.val ≥ 'A'.val ∧ c.val ≤ 'Z'.val) = true ∨ 128 ≤ c.toNat ↔ _
  rw [Bool.and_eq_true, decide_eq_true_eq, decide_eq_true_eq, decide_eq_true_eq]
  rfl

/-- The letters and digits of ASCII are raised to capitals and digits, and others stay beyond it. -/
theorem IsRaised.isCapital {c d : Char} {raised : List Char} (known : IsRaised c raised)
    (lettered : isAlphanumeric c = true) (member : d ∈ raised) : IsCapital d := by
  cases known with
  | ascii low =>
    have own : isAlphanumeric c = true → IsCapital c.toUpper := by
      apply forall_ascii c low
      exact tablesAgree.asciiCapital
    exact List.mem_singleton.mp member ▸ own lettered
  | text high listed =>
    obtain ⟨code, own, rfl⟩ := List.mem_map.mp member
    obtain ⟨valid, capital⟩ := tablesAgree.textCapital _ listed code own
    rw [isCapital_iff, toNat_ofNat (Or.inl valid)]
    exact Or.inr capital
  | @run run high listed lower upper stepped =>
    have own := tablesAgree.runCapital run listed
    have valid : (run.2.2.2 + (c.toNat - run.1)).isValidChar := by
      change _ < 0xd800 ∨ 0xdfff < _ ∧ _ < 0x110000
      omega
    rw [List.mem_singleton.mp member, isCapital_iff, toNat_ofNat valid]
    omega
  | same high =>
    rw [List.mem_singleton.mp member]
    exact Or.inr (Or.inr high)

theorem isXidContinue_of_isXidStart {c : Char} (starts : isXidStart c = true) :
    isXidContinue c = true := by
  rw [isXidStart, beyondAscii] at starts
  split at starts
  · rename_i low
    rw [isXidContinue, beyondAscii, if_pos low]
    simp [Char.isAlphanum, starts]
  · rename_i high
    obtain ⟨range, member, within⟩ := List.any_eq_true.mp starts
    rw [Bool.and_eq_true, decide_eq_true_eq, decide_eq_true_eq] at within
    rw [isXidContinue, beyondAscii, if_neg high]
    exact inRanges_of_coversInOrder tablesAgree.startCovered member within.1 within.2

theorem isXidContinue_of_high {c : Char} (high : 128 ≤ c.toNat) :
    isXidContinue c = inRanges identifierParts c.toNat :=
  if_neg (Nat.not_lt.mpr high)

theorem isXidContinue_ofNat {code : Nat} (known : inRanges identifierParts code = true) :
    isXidContinue (Char.ofNat code) = true := by
  obtain ⟨range, member, within⟩ := List.any_eq_true.mp known
  rw [Bool.and_eq_true, decide_eq_true_eq, decide_eq_true_eq] at within
  have bounds := tablesAgree.partValid range member
  have valid : code.isValidChar := by
    change code < 0xd800 ∨ 0xdfff < code ∧ code < 0x110000
    omega
  rw [isXidContinue_of_high, toNat_ofNat valid, known]
  exact (toNat_ofNat valid).symm ▸ Nat.le_trans bounds.1 within.1

theorem isXidContinue_of_isPartCode {code : Nat} (known : isPartCode code = true) :
    isXidContinue (Char.ofNat code) = true := by
  rw [isPartCode, Bool.or_eq_true, Bool.and_eq_true] at known
  rcases known with ⟨_, known⟩ | within
  · exact known
  · exact isXidContinue_ofNat (inRanges_of_spans within (Nat.le_refl _) (Nat.le_refl _))

theorem isXidContinue_ascii {c : Char} (low : c.toNat < 128) :
    isXidContinue c.toUpper = isXidContinue c := by
  apply forall_ascii c low
  exact tablesAgree.asciiPart

theorem inRanges_of_mem_upperTexts {entry : Nat × List Nat} (listed : entry ∈ upperTexts) :
    inRanges identifierParts entry.1 = true :=
  inRanges_of_coversInOrder tablesAgree.textCovered (List.mem_map_of_mem listed) (Nat.le_refl _)
    (Nat.le_refl _)

theorem isPartCode_of_mem_upperTexts : ∀ entry ∈ upperTexts, ∀ code ∈ entry.2,
    isPartCode code = true := by
  simpa only [List.all_eq_true] using tablesAgree.textLeads

theorem inRanges_of_mem_upperRuns {run : Nat × Nat × Nat × Nat} (listed : run ∈ upperRuns)
    (plain : run ≠ circledRun) {code : Nat} (lower : run.1 ≤ code) (upper : code ≤ run.2.1) :
    inRanges identifierParts code = true := by
  have kept : run ∈ upperRuns.filter (· != circledRun) :=
    List.mem_filter.mpr ⟨listed, by simpa using plain⟩
  exact inRanges_of_coversInOrder tablesAgree.runCovered (List.mem_map_of_mem kept) lower upper

theorem isXidContinue_of_leadsToParts {run : Nat × Nat × Nat × Nat} (leads : leadsToParts run = true)
    {code : Nat} (upper : code ≤ run.2.1) (stepped : (code - run.1) % run.2.2.1 = 0) :
    isXidContinue (Char.ofNat (run.2.2.2 + (code - run.1))) = true := by
  have within : code - run.1 ≤ run.2.1 - run.1 := Nat.sub_le_sub_right upper _
  rw [leadsToParts, Bool.or_eq_true] at leads
  rcases leads with stretch | each
  · exact isXidContinue_ofNat (inRanges_of_spans stretch (Nat.le_add_right ..)
      (Nat.add_le_add_left within _))
  · have own := List.all_eq_true.mp each (code - run.1) (List.mem_range.mpr (by omega))
    rw [stepped, bne_self_eq_false, Bool.false_or] at own
    exact isXidContinue_of_isPartCode own

theorem leadsToParts_of_mem {run : Nat × Nat × Nat × Nat} (listed : run ∈ upperRuns)
    (plain : run ≠ circledRun) : leadsToParts run = true := by
  have own := List.all_eq_true.mp tablesAgree.runLeads run listed
  rw [Bool.or_eq_true, beq_iff_eq] at own
  exact own.resolve_left plain

/-- The circled letters lie between two ranges, in either case. -/
theorem isXidContinue_circled {code : Nat} (lower : 0x24b6 ≤ code) (upper : code ≤ 0x24e9) :
    inRanges identifierParts code = false := by
  refine List.any_eq_false.mpr fun range member => ?_
  have own := List.all_eq_true.mp tablesAgree.partApart range member
  simp only [Bool.or_eq_true, Bool.not_eq_true', ← Bool.not_eq_true, Nat.ble_eq] at own
  rw [Bool.and_eq_true, decide_eq_true_eq, decide_eq_true_eq]
  omega

/-- The upper case of a character is within identifiers just if the character is. -/
theorem IsRaised.isXidContinue_iff {c : Char} {raised : List Char} (known : IsRaised c raised) :
    (∀ d ∈ raised, isXidContinue d = true) ↔ isXidContinue c = true := by
  cases known with
  | ascii low =>
    rw [List.forall_mem_singleton, isXidContinue_ascii low]
  | text high listed =>
    rw [isXidContinue_of_high high]
    refine iff_of_true ?_ (inRanges_of_mem_upperTexts listed)
    rw [List.forall_mem_map]
    exact fun code member =>
      isXidContinue_of_isPartCode (isPartCode_of_mem_upperTexts _ listed code member)
  | @run run high listed lower upper stepped =>
    rw [List.forall_mem_singleton, isXidContinue_of_high high]
    by_cases plain : run = circledRun
    · subst plain
      dsimp only [circledRun] at lower upper ⊢
      have code : (Char.ofNat (0x24b6 + (c.toNat - 0x24d0))).toNat = 0x24b6 + (c.toNat - 0x24d0) :=
        toNat_ofNat (Or.inl (by omega))
      rw [isXidContinue_circled (by omega) upper, isXidContinue_of_high (by omega), code,
        isXidContinue_circled (Nat.le_add_right ..) (by omega)]
    · exact iff_of_true (isXidContinue_of_leadsToParts (leadsToParts_of_mem listed plain) upper stepped)
        (inRanges_of_mem_upperRuns listed plain lower upper)
  | same high => rw [List.forall_mem_singleton]

end TermBind.Unicode
