/-
# The synthesis check reads one section

`check_synthesis_outcome` looks for the names of the sections anywhere in the text, and for its
verdict at the first Outcome section alone.  What other sections say does not matter, however
the text is laid out.

The function is `check_synthesis_outcome` of `src/model_council/protocol.py`; the headings are
compared after case folding, which is a parameter of the model.
-/

import CouncilLogic.Engine.Creation

namespace CouncilLogic
namespace Protocol

variable {rt : Runtime} {aggregate : Aggregate} {answer : Str}

/-! ### Sections -/

/-- The headings of a text, as the check reads them. -/
def sectionHeadings (answer : Str) : List Str := (lines answer).filterMap sectionHeading

/-- The line is the heading of an Outcome section. -/
def isOutcomeHeading (rt : Runtime) (line : Str) : Bool :=
  (sectionHeading line).map (headingKey rt) == some (lit "outcome")

/-- The lines of the first Outcome section among some lines. -/
def outcomeLines (rt : Runtime) (text : List Str) : List Str :=
  (text.dropWhile fun line => !isOutcomeHeading rt line).tail.takeWhile fun line =>
    (sectionHeading line).isNone

/-- The body of the first Outcome section. -/
def outcomeBody (rt : Runtime) (answer : Str) : List Str := outcomeLines rt (lines answer)

/-- The line after these is one of the first Outcome section. -/
def InOutcome (rt : Runtime) (before : List Str) : Prop :=
  ∃ p heading q, before = p ++ heading :: q ∧ (∀ line ∈ p, isOutcomeHeading rt line = false) ∧
    isOutcomeHeading rt heading = true ∧ ∀ line ∈ q, sectionHeading line = none

/-- The text that is looked at is the body of the first Outcome section. -/
theorem outcomeText_eq :
    outcomeText rt answer = Str.strip (Str.join [10] (outcomeBody rt answer)) := rfl

/-- A line that is no heading is no Outcome heading. -/
theorem not_isOutcomeHeading {line : Str} (h : sectionHeading line = none) :
    isOutcomeHeading rt line = false := by
  unfold isOutcomeHeading
  rw [h]
  rfl

/-- What is dropped from the front is dropped whatever follows. -/
theorem dropWhile_append_of_all {α : Type} {p : α → Bool} {l m : List α} (h : ∀ a ∈ l, p a = true) :
    (l ++ m).dropWhile p = m.dropWhile p := by
  induction l with
  | nil => rfl
  | cons a l ih =>
    rw [List.cons_append, List.dropWhile_cons_of_pos (h a List.mem_cons_self)]
    exact ih fun b hb => h b (List.mem_cons_of_mem a hb)

/-- What is taken from the front ends where it ends, whatever follows. -/
theorem takeWhile_append_of_exists {α : Type} {p : α → Bool} {l m : List α}
    (h : ∃ a ∈ l, p a = false) : (l ++ m).takeWhile p = l.takeWhile p := by
  induction l with
  | nil =>
    obtain ⟨a, ha, -⟩ := h
    cases ha
  | cons b l ih =>
    rw [List.cons_append, List.takeWhile_cons, List.takeWhile_cons]
    cases hb : p b with
    | false => rfl
    | true =>
      rw [if_pos rfl, if_pos rfl, ih]
      obtain ⟨a, ha, hpa⟩ := h
      rcases List.mem_cons.1 ha with rfl | ha
      · rw [hb] at hpa
        cases hpa
      · exact ⟨a, ha, hpa⟩

/-- **No text leaks into the Outcome section**: lines without a heading in another section do
not change its body. -/
theorem outcomeLines_append {before mid after : List Str}
    (hmid : ∀ line ∈ mid, sectionHeading line = none) (hplace : ¬ InOutcome rt before) :
    outcomeLines rt (before ++ mid ++ after) = outcomeLines rt (before ++ after) := by
  unfold outcomeLines
  by_cases hfirst : ∃ heading ∈ before, isOutcomeHeading rt heading = true
  · -- The first Outcome heading comes before the place, and so does the heading that ends it.
    obtain ⟨p, heading, q, hheading, rfl, hp⟩ : ∃ p heading q, isOutcomeHeading rt heading = true ∧
        before = p ++ heading :: q ∧ ∀ line ∈ p, isOutcomeHeading rt line = false := by
      obtain ⟨p, rest, hsplit, hp, hrest⟩ :
          ∃ p rest, before = p ++ rest ∧ (∀ line ∈ p, isOutcomeHeading rt line = false) ∧
            rest = before.dropWhile fun line => !isOutcomeHeading rt line := by
        refine ⟨_, _, (List.takeWhile_append_dropWhile).symm, fun line hline => ?_, rfl⟩
        simpa using List.mem_takeWhile_imp hline
      cases rest with
      | nil =>
        obtain ⟨heading, hmem, hheading⟩ := hfirst
        rw [hsplit, List.append_nil] at hmem
        rw [hp heading hmem] at hheading
        cases hheading
      | cons heading q =>
        refine ⟨p, heading, q, ?_, hsplit, hp⟩
        have hhead := List.head?_dropWhile_not (fun line => !isOutcomeHeading rt line) before
        rw [← hrest] at hhead
        simpa using hhead
    have hq : ∃ line ∈ q, (sectionHeading line).isNone = false := by
      by_contra hnone
      refine hplace ⟨p, heading, q, rfl, hp, hheading, fun line hline => ?_⟩
      by_contra hsome
      exact hnone ⟨line, hline, Option.isNone_eq_false_iff.2 (Option.isSome_iff_ne_none.2 hsome)⟩
    have hdrop : ∀ rest : List Str,
        ((p ++ heading :: q ++ rest).dropWhile fun line => !isOutcomeHeading rt line).tail =
          q ++ rest := by
      intro rest
      rw [List.append_assoc, dropWhile_append_of_all fun line hline => by rw [hp line hline]; rfl,
        List.cons_append, List.dropWhile_cons_of_neg (by rw [hheading]; decide), List.tail_cons]
    rw [List.append_assoc, hdrop, hdrop, takeWhile_append_of_exists hq,
      takeWhile_append_of_exists hq]
  · have hbefore : ∀ line ∈ before, (!isOutcomeHeading rt line) = true := fun line hline => by
      rw [Bool.not_eq_true', ← Bool.not_eq_true]
      exact fun h => hfirst ⟨line, hline, h⟩
    rw [List.append_assoc, dropWhile_append_of_all hbefore, dropWhile_append_of_all hbefore,
      dropWhile_append_of_all fun line hline => by rw [not_isOutcomeHeading (hmid line hline)]; rfl]

/-- Lines that are no headings add no heading. -/
theorem filterMap_headings {before mid after : List Str}
    (hmid : ∀ line ∈ mid, sectionHeading line = none) :
    (before ++ mid ++ after).filterMap sectionHeading =
      (before ++ after).filterMap sectionHeading := by
  have hnil : mid.filterMap sectionHeading = [] := List.filterMap_eq_nil_iff.2 hmid
  rw [List.filterMap_append, List.filterMap_append, List.filterMap_append, hnil, List.append_nil]

/-! ### The verdict -/

/-- The characters of a line are characters of the text. -/
theorem mem_of_mem_lines {s : Str} : ∀ line ∈ lines s, ∀ c ∈ line, c ∈ s := by
  induction s with
  | nil => simp [lines]
  | cons d s ih =>
    intro line hline c hc
    unfold lines at hline
    cases hlines : lines s with
    | nil =>
      rw [hlines] at hline
      rw [List.mem_singleton.1 hline, List.mem_singleton] at hc
      rw [hc]
      exact List.mem_cons_self
    | cons first more =>
      rw [hlines] at hline ih
      dsimp only at hline
      split at hline
      · rcases List.mem_cons.1 hline with rfl | hline
        · cases hc
        · exact List.mem_cons_of_mem d (ih line hline c hc)
      · rcases List.mem_cons.1 hline with rfl | hline
        · rcases List.mem_cons.1 hc with rfl | hc
          · exact List.mem_cons_self
          · exact List.mem_cons_of_mem d (ih first List.mem_cons_self c hc)
        · exact List.mem_cons_of_mem d (ih line (List.mem_cons_of_mem _ hline) c hc)

/-- A heading begins with a number sign. -/
theorem mem_of_sectionHeading {line heading : Str} (h : sectionHeading line = some heading) :
    35 ∈ line := by
  unfold sectionHeading at h
  split at h
  · exact List.mem_cons_self
  · cases h

/-- A text with a heading is not blank. -/
theorem isBlank_of_mem_headings {heading : Str} (h : heading ∈ sectionHeadings answer) :
    Str.isBlank answer = false := by
  obtain ⟨line, hline, hheading⟩ := List.mem_filterMap.1 h
  have hmem := mem_of_mem_lines line hline 35 (mem_of_sectionHeading hheading)
  rw [← Bool.not_eq_true]
  intro hblank
  exact absurd (List.all_eq_true.1 hblank 35 hmem) (by decide)

/-- The sections that a text has, by the key of their headings. -/
def headingKeys (rt : Runtime) (answer : Str) : List Str :=
  (sectionHeadings answer).map (headingKey rt)

/-- All four sections are present. -/
def HasSections (rt : Runtime) (answer : Str) : Prop :=
  ∀ name ∈ synthesisSections, rt.casefold (name.drop 3) ∈ headingKeys rt answer

/-- No section is missing exactly when all are there. -/
theorem missing_eq_nil :
    (synthesisSections.filter fun s => rt.casefold (s.drop 3) ∉ headingKeys rt answer) = [] ↔
      HasSections rt answer := by
  rw [List.filter_eq_nil_iff]
  simp only [decide_eq_true_eq, not_not]
  rfl

/-- An answer with its sections is not blank. -/
theorem HasSections.not_blank (h : HasSections rt answer) : Str.isBlank answer = false := by
  obtain ⟨heading, hheading, -⟩ := List.mem_map.1 (h _ List.mem_cons_self)
  exact isBlank_of_mem_headings hheading

/-- **What a consistent synthesis is.** -/
theorem consistent_iff :
    (checkSynthesisOutcome rt answer aggregate).consistent = true ↔ HasSections rt answer ∧
      (checkOutcome rt aggregate (outcomeText rt answer)
        (namedLabels (outcomeText rt answer).length (outcomeText rt answer))).1 = true := by
  unfold checkSynthesisOutcome
  dsimp only
  split
  · rename_i hblank
    constructor
    · intro h
      cases h
    · intro h
      exact absurd (hblank.symm.trans h.1.not_blank) (by decide)
  · split
    · rename_i hmissing
      constructor
      · intro h
        cases h
      · intro h
        exact absurd (missing_eq_nil.2 h.1) hmissing
    · rename_i hmissing
      rw [not_not] at hmissing
      exact (and_iff_right (missing_eq_nil.1 hmissing)).symm

/-- The report is read off the keys of the headings and the Outcome section. -/
theorem check_congr {answer' : Str}
    (hkeys : ∀ key, key ∈ headingKeys rt answer ↔ key ∈ headingKeys rt answer')
    (hbody : outcomeBody rt answer = outcomeBody rt answer')
    (hblank : Str.isBlank answer = Str.isBlank answer') :
    checkSynthesisOutcome rt answer aggregate = checkSynthesisOutcome rt answer' aggregate := by
  have htext : outcomeText rt answer = outcomeText rt answer' := by
    rw [outcomeText_eq, outcomeText_eq, hbody]
  have hmissing :
      (synthesisSections.filter fun s => rt.casefold (s.drop 3) ∉ headingKeys rt answer) =
        synthesisSections.filter fun s => rt.casefold (s.drop 3) ∉ headingKeys rt answer' :=
    List.filter_congr fun s _ => by rw [decide_eq_decide, hkeys]
  unfold headingKeys sectionHeadings at hmissing
  unfold checkSynthesisOutcome
  dsimp only
  rw [hmissing, htext, hblank]

/-! ### Labels -/

/-- The text has a label at a place: the prefix, and all label characters after it. -/
def LabelAt (text : Str) (i : ℕ) (label : Str) : Prop :=
  ∃ w rest, text.drop i = candidateLabelPrefix ++ (w ++ rest) ∧ w ≠ [] ∧
    (∀ c ∈ w, isLabelChar c = true) ∧ (∀ c ∈ rest.head?, isLabelChar c = false) ∧
    label = candidateLabelPrefix ++ w

/-- The first label of the text. -/
def LeadsWith (text label : Str) : Prop :=
  ∃ i, LabelAt text i label ∧ ∀ j < i, ∀ other, ¬ LabelAt text j other

/-- What is taken from the front stops where the rest begins. -/
theorem takeWhile_append_of_head {α : Type} {p : α → Bool} {w rest : List α}
    (hw : ∀ a ∈ w, p a = true) (hrest : ∀ a ∈ rest.head?, p a = false) :
    (w ++ rest).takeWhile p = w := by
  induction w with
  | nil =>
    cases rest with
    | nil => rfl
    | cons a rest => exact List.takeWhile_cons_of_neg (by rw [hrest a rfl]; decide)
  | cons a w ih =>
    rw [List.cons_append, List.takeWhile_cons_of_pos (hw a List.mem_cons_self),
      ih fun b hb => hw b (List.mem_cons_of_mem a hb)]

/-- A label at the front of a text is its prefix and the characters that follow it. -/
theorem labelAt_zero {text label : Str} : LabelAt text 0 label ↔
    (candidateLabelPrefix <+: text ∧
      (text.drop candidateLabelPrefix.length).takeWhile isLabelChar ≠ []) ∧
      label = candidateLabelPrefix ++
        (text.drop candidateLabelPrefix.length).takeWhile isLabelChar := by
  constructor
  · rintro ⟨w, rest, htext, hw, hall, hrest, rfl⟩
    rw [List.drop_zero] at htext
    have htail : (text.drop candidateLabelPrefix.length).takeWhile isLabelChar = w := by
      rw [htext, List.drop_left, takeWhile_append_of_head hall hrest]
    rw [htail]
    exact ⟨⟨⟨_, htext.symm⟩, hw⟩, rfl⟩
  · rintro ⟨⟨⟨tail, htail⟩, hne⟩, hlabel⟩
    rw [← htail, List.drop_left] at hne hlabel
    refine ⟨_, tail.dropWhile isLabelChar, ?_, hne, fun c hc => List.mem_takeWhile_imp hc, ?_,
      hlabel⟩
    · rw [List.drop_zero, List.takeWhile_append_dropWhile, htail]
    · intro c hc
      have hhead := List.head?_dropWhile_not isLabelChar tail
      rw [Option.mem_def.1 hc] at hhead
      exact hhead

/-- There is no label in an empty text. -/
theorem not_labelAt_nil {i : ℕ} {label : Str} : ¬ LabelAt [] i label := by
  rintro ⟨w, rest, htext, -⟩
  rw [List.drop_nil] at htext
  cases htext

/-- What `_LABEL_RE.findall` begins with is the first label of the text. -/
theorem head?_namedLabels {label : Str} : ∀ {fuel : ℕ} {text : Str}, text.length ≤ fuel →
    ((namedLabels fuel text).head? = some label ↔ LeadsWith text label)
  | 0, text, h => by
    obtain rfl := List.eq_nil_of_length_eq_zero (Nat.le_zero.1 h)
    constructor
    · intro hhead
      cases hhead
    · rintro ⟨i, hlabel, -⟩
      exact absurd hlabel not_labelAt_nil
  | fuel + 1, [], _ => by
    constructor
    · intro hhead
      cases hhead
    · rintro ⟨i, hlabel, -⟩
      exact absurd hlabel not_labelAt_nil
  | fuel + 1, c :: text, h => by
    unfold namedLabels
    dsimp only
    split
    · rename_i hlabel
      constructor
      · intro hhead
        rw [List.head?_cons] at hhead
        refine ⟨0, labelAt_zero.2 ⟨hlabel, (Option.some.inj hhead).symm⟩, ?_⟩
        intro j hj
        omega
      · rintro ⟨i, hat, hfirst⟩
        cases i with
        | zero => rw [(labelAt_zero.1 hat).2, List.head?_cons]
        | succ i => exact absurd (labelAt_zero.2 ⟨hlabel, rfl⟩) (hfirst 0 (Nat.succ_pos i) _)
    · rename_i hnone
      rw [head?_namedLabels (Nat.le_of_succ_le_succ h)]
      constructor
      · rintro ⟨i, hat, hfirst⟩
        refine ⟨i + 1, hat, fun j hj other hother => ?_⟩
        cases j with
        | zero => exact hnone (labelAt_zero.1 hother).1
        | succ j => exact hfirst j (Nat.lt_of_succ_lt_succ hj) other hother
      · rintro ⟨i, hat, hfirst⟩
        cases i with
        | zero => exact absurd (labelAt_zero.1 hat).1 hnone
        | succ i =>
          exact ⟨i, hat, fun j hj other hother =>
            hfirst (j + 1) (Nat.succ_lt_succ hj) other hother⟩

/-- A text with a label has a first one. -/
theorem LabelAt.leadsWith {text label : Str} {i : ℕ} (h : LabelAt text i label) :
    ∃ first, LeadsWith text first := by
  classical
  have hsome : ∃ i label, LabelAt text i label := ⟨i, label, h⟩
  obtain ⟨first, hfirst⟩ := Nat.find_spec hsome
  exact ⟨first, Nat.find hsome, hfirst, fun j hj other hother =>
    Nat.find_min hsome hj ⟨other, hother⟩⟩

/-- No label is found in a text only if there is none. -/
theorem namedLabels_eq_nil {text : Str} (h : namedLabels text.length text = []) (i : ℕ)
    (label : Str) : ¬ LabelAt text i label := by
  intro hat
  obtain ⟨first, hfirst⟩ := hat.leadsWith
  have hhead := (head?_namedLabels le_rfl).2 hfirst
  rw [h] at hhead
  cases hhead

/-- What the Outcome section says when the verdict is that it agrees with the aggregate. -/
theorem checkOutcome_true {text : Str}
    (h : (checkOutcome rt aggregate text (namedLabels text.length text)).1 = true) :
    (aggregate.outcome = .winner → ∃ winner, aggregate.winner = some winner ∧
        LeadsWith text winner ∧ claimsTie rt text = false) ∧
      (aggregate.outcome = .tie → claimsTie rt text = true ∧
        ∀ label ∈ namedLabels text.length text, label ∈ aggregate.tiedCandidates) ∧
      (aggregate.outcome = .abstained ∨ aggregate.outcome = .invalid →
        claimsNoWinner rt text = true ∧ ∀ i label, ¬ LabelAt text i label) := by
  unfold checkOutcome at h
  cases houtcome : aggregate.outcome with
  | winner =>
    rw [houtcome] at h
    refine ⟨fun _ => ?_, by rintro ⟨⟩, by rintro (h | h) <;> cases h⟩
    dsimp only at h
    cases hhead : (namedLabels text.length text).head? with
    | none =>
      rw [hhead] at h
      cases h
    | some first =>
      rw [hhead] at h
      dsimp only at h
      split_ifs at h with hwinner htie
      rw [not_not] at hwinner
      exact ⟨first, hwinner.symm, (head?_namedLabels le_rfl).1 hhead,
        Bool.eq_false_of_not_eq_true htie⟩
  | tie =>
    rw [houtcome] at h
    refine ⟨by rintro ⟨⟩, fun _ => ?_, by rintro (h | h) <;> cases h⟩
    dsimp only at h
    split_ifs at h with htie hnamed
    refine ⟨Bool.eq_true_of_not_eq_false htie, fun label hlabel => ?_⟩
    by_contra hnot
    exact hnamed (List.any_eq_true.2 ⟨label, hlabel, decide_eq_true hnot⟩)
  | abstained | invalid =>
    rw [houtcome] at h
    refine ⟨by rintro ⟨⟩, by rintro ⟨⟩, fun _ => ?_⟩
    dsimp only at h
    split_ifs at h with hclaims hnamed
    rw [not_not] at hnamed
    exact ⟨Bool.eq_true_of_not_eq_false hclaims, namedLabels_eq_nil hnamed⟩

/-! ### The guarantee -/

/-- **The synthesis check reads the Outcome section.**  Its verdict is a function of the set of
headings and of the body of the first Outcome section, and so is its report, as soon as there
is a heading.  Whatever stands in lines without a heading in other sections can be replaced
without changing either.  A text that passes has all four sections, and its Outcome section
names the winner first and claims no tie, or claims the tie and names only tied candidates, or
claims that nobody won and names nobody. -/
theorem synthesisCheck_outcomeOnly (rt : Runtime) (aggregate : Aggregate) :
    (∀ answer answer',
      (∀ heading, heading ∈ sectionHeadings answer ↔ heading ∈ sectionHeadings answer') →
      outcomeBody rt answer = outcomeBody rt answer' →
        (checkSynthesisOutcome rt answer aggregate).consistent =
            (checkSynthesisOutcome rt answer' aggregate).consistent ∧
          (sectionHeadings answer ≠ [] → checkSynthesisOutcome rt answer aggregate =
            checkSynthesisOutcome rt answer' aggregate)) ∧
      (∀ answer answer' before old new after, lines answer = before ++ old ++ after →
        lines answer' = before ++ new ++ after → (∀ line ∈ old, sectionHeading line = none) →
        (∀ line ∈ new, sectionHeading line = none) → ¬ InOutcome rt before →
          (checkSynthesisOutcome rt answer aggregate).consistent =
              (checkSynthesisOutcome rt answer' aggregate).consistent ∧
            (sectionHeadings answer ≠ [] → checkSynthesisOutcome rt answer aggregate =
              checkSynthesisOutcome rt answer' aggregate)) ∧
      ∀ answer, (checkSynthesisOutcome rt answer aggregate).consistent = true →
        HasSections rt answer ∧
          (aggregate.outcome = .winner → ∃ winner, aggregate.winner = some winner ∧
            LeadsWith (outcomeText rt answer) winner ∧
            claimsTie rt (outcomeText rt answer) = false) ∧
          (aggregate.outcome = .tie → claimsTie rt (outcomeText rt answer) = true ∧
            ∀ label ∈ namedLabels (outcomeText rt answer).length (outcomeText rt answer),
              label ∈ aggregate.tiedCandidates) ∧
          (aggregate.outcome = .abstained ∨ aggregate.outcome = .invalid →
            claimsNoWinner rt (outcomeText rt answer) = true ∧
              ∀ i label, ¬ LabelAt (outcomeText rt answer) i label) := by
  have hfunction : ∀ answer answer',
      (∀ heading, heading ∈ sectionHeadings answer ↔ heading ∈ sectionHeadings answer') →
      outcomeBody rt answer = outcomeBody rt answer' →
        (checkSynthesisOutcome rt answer aggregate).consistent =
            (checkSynthesisOutcome rt answer' aggregate).consistent ∧
          (sectionHeadings answer ≠ [] → checkSynthesisOutcome rt answer aggregate =
            checkSynthesisOutcome rt answer' aggregate) := by
    intro answer answer' hheadings hbody
    have hkeys : ∀ key, key ∈ headingKeys rt answer ↔ key ∈ headingKeys rt answer' := by
      intro key
      unfold headingKeys
      simp only [List.mem_map, hheadings]
    constructor
    · rw [Bool.eq_iff_iff, consistent_iff, consistent_iff, outcomeText_eq, outcomeText_eq, hbody]
      unfold HasSections
      simp only [hkeys]
    · intro hne
      obtain ⟨heading, hmem⟩ := List.exists_mem_of_ne_nil _ hne
      exact check_congr hkeys hbody ((isBlank_of_mem_headings hmem).trans
        (isBlank_of_mem_headings ((hheadings heading).1 hmem)).symm)
  refine ⟨hfunction, ?_, ?_⟩
  · intro answer answer' before old new after hlines hlines' hold hnew hplace
    refine hfunction answer answer' (fun heading => ?_) ?_
    · unfold sectionHeadings
      rw [hlines, hlines', filterMap_headings hold, filterMap_headings hnew]
    · unfold outcomeBody
      rw [hlines, hlines', outcomeLines_append hold hplace, outcomeLines_append hnew hplace]
  · intro answer hconsistent
    obtain ⟨hsections, hverdict⟩ := consistent_iff.1 hconsistent
    exact ⟨hsections, checkOutcome_true hverdict⟩

/-! ### An example -/

/-- The runtime of the examples, with capital letters folded. -/
def foldingRuntime : Runtime :=
  { exampleRuntime with
    casefold := fun s => s.map fun c => if 65 ≤ c ∧ c ≤ 90 then c + 32 else c }

/-- The lines of a synthesis before its dissent. -/
def beforeDissent : List Str :=
  [lit "## Outcome", lit "A tie of CANDIDATE_01 and CANDIDATE_02.", lit "## Consensus",
    lit "## Dissent"]

/-- A synthesis with some dissent. -/
def dissenting (dissent : String) : Str :=
  Str.join [10] (beforeDissent ++ [lit dissent] ++ [lit "## Verification needed"])

/-- Two answers that differ in their dissent section alone are judged alike. -/
theorem synthesisCheck_outcomeOnly_example :
    checkSynthesisOutcome foldingRuntime (dissenting "CANDIDATE_03 wins.")
        (Workload.projectedAggregate 2) =
      checkSynthesisOutcome foldingRuntime (dissenting "None.")
        (Workload.projectedAggregate 2) := by
  have hplace : ¬ InOutcome foldingRuntime beforeDissent := by
    rintro ⟨p, heading, q, hbefore, hp, -, hq⟩
    cases p with
    | nil =>
      obtain ⟨-, rfl⟩ := List.cons.inj hbefore
      exact absurd (hq (lit "## Dissent") (by decide +kernel)) (by decide +kernel)
    | cons line p =>
      obtain ⟨rfl, -⟩ := List.cons.inj hbefore
      exact absurd (hp (lit "## Outcome") List.mem_cons_self) (by decide +kernel)
  exact ((synthesisCheck_outcomeOnly foldingRuntime (Workload.projectedAggregate 2)).2.1 _ _
    beforeDissent [lit "CANDIDATE_03 wins."] [lit "None."] [lit "## Verification needed"]
    (by decide +kernel) (by decide +kernel) (by decide +kernel) (by decide +kernel) hplace).2
    (by decide +kernel)

/-- Both pass. -/
example : (checkSynthesisOutcome foldingRuntime (dissenting "None.")
    (Workload.projectedAggregate 2)).consistent = true := by
  decide +kernel

end Protocol
end CouncilLogic
