/-
# What is extracted from a response

`_extract_json_object` returns the object that the whole text is; or, if the text is no
JSON, the one object among its fenced blocks; or, if they hold none, the one object among
those at its braces (`extractJsonObject_iff`).  It is one object when all candidates have
the same canonical text; the last of them is returned.  A decoder that runs out of
recursion at any attempt ends the search (`extractJsonObject_error`).

The three ways of `_extract_json_object` in `src/model_council/protocol.py` are tried in that
order, and a later one is only reached when the earlier ones have found nothing at all; two
different objects among the candidates of one way are an error, and so is no object in the end.
`Finds` states the result without the search: which ways were exhausted, and that one object is
left.
-/

import CouncilLogic.Protocol.Fields
import CouncilLogic.Protocol.Scan

namespace CouncilLogic
namespace Decode

open Protocol

variable {rt : Runtime} {text name : Str} {d : Dict} {ds : List Dict}

/-! ### Candidates -/

/-- The text as a whole is no object, but the search goes on. -/
def Searches (rt : Runtime) (stripped : Str) : Prop :=
  decodeCompleteJson rt stripped = .error .value ∨ decodeCompleteJson rt stripped = .ok .null

/-- The objects that are compared: of the fenced blocks, or else at the braces. -/
def candidates (rt : Runtime) (stripped : Str) : Except DecodeErr (List Dict) :=
  match fencedObjects rt (fencedBlocks stripped.length stripped) with
  | .error e => .error e
  | .ok fenced =>
    if fenced = [] then braceObjects rt (stripped.length + 1) stripped else .ok fenced

/-- The text by which objects are told apart. -/
def canonicalText (d : Dict) : Str := (Json.canon (.obj d)).dumpsCompact

/-- All candidates are the same object, and this is the last of them. -/
def Sole (ds : List Dict) (d : Dict) : Prop :=
  ds.getLast? = some d ∧ ∀ d' ∈ ds, canonicalText d' = canonicalText d

/-- The object that is found in a text. -/
inductive Finds (rt : Runtime) (text : Str) : Dict → Prop
  | whole {d : Dict} (h : decodeCompleteJson rt (Str.strip text) = .ok (.obj d)) :
      Finds rt text d
  | sole {ds : List Dict} {d : Dict} (hsearch : Searches rt (Str.strip text))
      (h : candidates rt (Str.strip text) = .ok ds) (hsole : Sole ds d) : Finds rt text d

/-- An attempt to decode nests arrays and objects beyond the recursion limit. -/
def Exhausts (rt : Runtime) (text : Str) : Prop :=
  decodeCompleteJson rt (Str.strip text) = .error .recursion ∨
    Searches rt (Str.strip text) ∧ candidates rt (Str.strip text) = .error .recursion

/-- A complete text decodes to the value at its beginning when white space is left. -/
theorem decodeCompleteJson_ok {s : Str} {j : Json} : decodeCompleteJson rt s = .ok j ↔
    ∃ r, rawDecode rt (Str.lstrip s) = .ok (j, r) ∧ Str.strip r = [] := by
  unfold decodeCompleteJson
  cases hraw : rawDecode rt (Str.lstrip s) with
  | error e => exact ⟨nofun, fun ⟨_, h, _⟩ => nomatch h⟩
  | ok w =>
    obtain ⟨j', r⟩ := w
    change (if Str.strip r = [] then Except.ok j' else Except.error DecodeErr.value) = _ ↔ _
    split
    · rename_i hr
      rw [Except.ok.injEq]
      constructor
      · rintro rfl
        exact ⟨r, rfl, hr⟩
      · rintro ⟨r', heq, -⟩
        cases heq
        rfl
    · rename_i hr
      refine ⟨nofun, ?_⟩
      rintro ⟨r', heq, hr'⟩
      cases heq
      exact absurd hr' hr

/-- The unique objects are listed under the canonical texts of the candidates. -/
theorem mem_uniqueObjects_keys {k : Str} :
    k ∈ (uniqueObjects ds).map Prod.fst ↔ ∃ d ∈ ds, canonicalText d = k := by
  induction ds with
  | nil => simp [uniqueObjects]
  | cons d ds ih =>
    rw [uniqueObjects]
    simp only [List.exists_mem_cons_iff, ← ih]
    change k ∈ (if canonicalText d ∈ (uniqueObjects ds).map Prod.fst then uniqueObjects ds
      else (canonicalText d, d) :: uniqueObjects ds).map Prod.fst ↔ _
    split
    · rename_i hmem
      exact ⟨.inr, fun h => h.elim (fun heq => heq ▸ hmem) id⟩
    · rw [List.map_cons, List.mem_cons, eq_comm]

/-- There is no unique object only if there is no candidate. -/
theorem uniqueObjects_eq_nil : uniqueObjects ds = [] ↔ ds = [] := by
  constructor
  · intro h
    cases ds with
    | nil => rfl
    | cons d ds =>
      have hmem := mem_uniqueObjects_keys.2 ⟨d, List.mem_cons_self (l := ds), rfl⟩
      rw [h] at hmem
      cases hmem
  · rintro rfl
    rfl

/-- One entry is left when all objects are the same. -/
theorem uniqueObjects_eq_singleton {k : Str} :
    uniqueObjects ds = [(k, d)] ↔ Sole ds d ∧ canonicalText d = k := by
  induction ds generalizing k d with
  | nil => simp [uniqueObjects, Sole]
  | cons d₀ ds ih =>
    have hcons : uniqueObjects (d₀ :: ds) =
        if canonicalText d₀ ∈ (uniqueObjects ds).map Prod.fst then uniqueObjects ds
        else (canonicalText d₀, d₀) :: uniqueObjects ds := rfl
    rw [hcons]
    cases hds : ds with
    | nil =>
      rw [hds] at ih
      simp only [uniqueObjects, List.map_nil, List.not_mem_nil, if_false, List.cons.injEq,
        Prod.mk.injEq, and_true, Sole, List.getLast?_singleton, Option.some.injEq,
        List.mem_singleton, forall_eq]
      constructor
      · rintro ⟨rfl, rfl⟩
        exact ⟨⟨rfl, rfl⟩, rfl⟩
      · rintro ⟨⟨rfl, -⟩, rfl⟩
        exact ⟨rfl, rfl⟩
    | cons d₁ ds' =>
      rw [← hds]
      have hne : ds ≠ [] := hds ▸ List.cons_ne_nil _ _
      have hlast : (d₀ :: ds).getLast? = ds.getLast? := by
        rw [hds]
        rfl
      have hsole : Sole (d₀ :: ds) d ↔ Sole ds d ∧ canonicalText d₀ = canonicalText d := by
        unfold Sole
        rw [hlast, List.forall_mem_cons]
        exact ⟨fun ⟨h, h0, hall⟩ => ⟨⟨h, hall⟩, h0⟩, fun ⟨⟨h, hall⟩, h0⟩ => ⟨h, h0, hall⟩⟩
      rw [hsole]
      constructor
      · intro h
        split at h
        · rename_i hmem
          obtain ⟨hrest, rfl⟩ := ih.1 h
          obtain ⟨d', hd', heq⟩ := mem_uniqueObjects_keys.1 hmem
          exact ⟨⟨hrest, heq ▸ hrest.2 d' hd'⟩, rfl⟩
        · obtain ⟨-, htail⟩ := List.cons.inj h
          exact absurd (uniqueObjects_eq_nil.1 htail) hne
      · rintro ⟨⟨hrest, h0⟩, rfl⟩
        have hmem : canonicalText d₀ ∈ (uniqueObjects ds).map Prod.fst :=
          mem_uniqueObjects_keys.2 ⟨d, List.mem_of_getLast? hrest.1, h0.symm⟩
        rw [if_pos hmem]
        exact ih.2 ⟨hrest, rfl⟩

/-! ### The search -/

/-- The search of the fenced blocks raises nothing but `RecursionError`: every other failure is
skipped. -/
theorem fencedObjects_error {blocks : List Str} {e : DecodeErr}
    (h : fencedObjects rt blocks = .error e) : e = .recursion := by
  induction blocks with
  | nil => cases h
  | cons block blocks ih =>
    rw [fencedObjects] at h
    split at h
    · cases h
      rfl
    · exact ih h
    · cases hrest : fencedObjects rt blocks with
      | error e' =>
        rw [hrest] at h
        cases h
        exact ih hrest
      | ok ds =>
        rw [hrest] at h
        cases h
    · exact ih h

/-- The search at the braces raises nothing but `RecursionError`. -/
theorem braceObjects_error {fuel : ℕ} {s : Str} {e : DecodeErr}
    (h : braceObjects rt fuel s = .error e) : e = .recursion := by
  induction fuel generalizing s with
  | zero => cases h
  | succ fuel ih =>
    rw [braceObjects] at h
    split at h
    · cases h
    · split at h
      · cases h
        rfl
      · exact ih h
      · rename_i d after hdecode
        cases hrest : braceObjects rt fuel after with
        | error e' =>
          rw [hrest] at h
          cases h
          exact ih hrest
        | ok ds =>
          rw [hrest] at h
          cases h
      · exact ih h

/-- The object a fenced block holds. -/
def blockObject (rt : Runtime) (block : Str) : Option Dict :=
  match decodeCompleteJson rt (Str.strip block) with
  | .ok (.obj d) => some d
  | _ => none

/-- A block holds an object when its stripped text is JSON of one. -/
theorem blockObject_eq_some {block : Str} : blockObject rt block = some d ↔
    decodeCompleteJson rt (Str.strip block) = .ok (.obj d) := by
  unfold blockObject
  split
  · rename_i d' hd
    rw [hd, Option.some.injEq, Except.ok.injEq, Json.obj.injEq]
  · rename_i hne
    exact ⟨nofun, fun h => absurd h (hne d)⟩

/-- The fenced objects are those of the blocks, unless one exhausts the recursion. -/
theorem fencedObjects_ok {blocks : List Str} : fencedObjects rt blocks = .ok ds ↔
    (∀ block ∈ blocks, decodeCompleteJson rt (Str.strip block) ≠ .error .recursion) ∧
      blocks.filterMap (blockObject rt) = ds := by
  induction blocks generalizing ds with
  | nil =>
    rw [fencedObjects, Except.ok.injEq]
    exact ⟨fun h => ⟨(fun _ hb => nomatch hb), h⟩, And.right⟩
  | cons block blocks ih =>
    rw [List.forall_mem_cons, fencedObjects]
    split
    · rename_i hdecode
      exact ⟨nofun, fun h => absurd hdecode h.1.1⟩
    · rename_i hdecode
      have hblock : blockObject rt block = none := by
        unfold blockObject
        rw [hdecode]
      rw [List.filterMap_cons_none hblock, ih, hdecode]
      exact ⟨fun h => ⟨⟨nofun, h.1⟩, h.2⟩, fun h => ⟨h.1.2, h.2⟩⟩
    · rename_i d hdecode
      rw [List.filterMap_cons_some (blockObject_eq_some.2 hdecode), hdecode]
      cases hrest : fencedObjects rt blocks with
      | error e =>
        refine ⟨nofun, fun h => ?_⟩
        rw [ih.2 ⟨h.1.2, rfl⟩] at hrest
        cases hrest
      | ok rest =>
        obtain ⟨hall, rfl⟩ := ih.1 hrest
        change Except.ok _ = Except.ok _ ↔ _
        rw [Except.ok.injEq]
        exact ⟨fun h => ⟨⟨nofun, hall⟩, h⟩, And.right⟩
    · rename_i j hobj hdecode
      have hblock : blockObject rt block = none := by
        unfold blockObject
        rw [hdecode]
        split
        · rename_i d heq
          cases heq
          exact absurd rfl (hobj d)
        · rfl
      rw [List.filterMap_cons_none hblock, ih, hdecode]
      exact ⟨fun h => ⟨⟨nofun, h.1⟩, h.2⟩, fun h => ⟨h.1.2, h.2⟩⟩

/-- The collection of the candidates raises nothing but `RecursionError`. -/
theorem candidates_error {s : Str} {e : DecodeErr} (h : candidates rt s = .error e) :
    e = .recursion := by
  unfold candidates at h
  split at h
  · rename_i hfenced
    cases h
    exact fencedObjects_error hfenced
  · split at h
    · exact braceObjects_error h
    · cases h

/-- The search among the candidates of a text. -/
def search (rt : Runtime) (name stripped : Str) : Except PyErr Dict :=
  match candidates rt stripped with
  | .error _ => .error ⟨.recursionError, lit "maximum recursion depth exceeded"⟩
  | .ok ds =>
    match uniqueObjects ds with
    | [] => .error (.valueError (lit "no JSON object found in " ++ name))
    | [(_, d)] => .ok d
    | _ :: _ :: _ =>
      .error (.valueError (lit "multiple distinct JSON objects found in " ++ name))

/-- Unless the whole text is JSON, the candidates are searched. -/
theorem extractJsonObject_search (h : Searches rt (Str.strip text))
    (hblank : Str.isBlank text = false) :
    extractJsonObject rt name text = search rt name (Str.strip text) := by
  unfold extractJsonObject search candidates
  simp only [hblank, Bool.false_eq_true, if_false]
  rcases h with h | h
  · simp only [h]
    cases hfenced : fencedObjects rt (fencedBlocks (Str.strip text).length (Str.strip text)) with
    | error e => rfl
    | ok fenced => rfl
  · simp only [h]
    cases hfenced : fencedObjects rt (fencedBlocks (Str.strip text).length (Str.strip text)) with
    | error e => rfl
    | ok fenced => rfl

/-- The search returns an object when it is the only one among the candidates. -/
theorem search_ok {s : Str} : search rt name s = .ok d ↔
    ∃ ds, candidates rt s = .ok ds ∧ Sole ds d := by
  unfold search
  cases hc : candidates rt s with
  | error e => exact ⟨nofun, fun ⟨_, h, _⟩ => nomatch h⟩
  | ok ds =>
    have hsole : Sole ds d ↔ uniqueObjects ds = [(canonicalText d, d)] := by
      rw [uniqueObjects_eq_singleton, and_iff_left rfl]
    simp only [Except.ok.injEq, exists_eq_left', hsole]
    cases hu : uniqueObjects ds with
    | nil => exact ⟨nofun, nofun⟩
    | cons p rest =>
      cases rest with
      | nil =>
        obtain ⟨k, d'⟩ := p
        have hk := (uniqueObjects_eq_singleton.1 hu).2
        simp only [Except.ok.injEq, List.cons.injEq, Prod.mk.injEq, and_true]
        constructor
        · rintro rfl
          exact ⟨hk.symm, rfl⟩
        · exact And.right
      | cons q rest => exact ⟨nofun, nofun⟩

/-- An empty text holds nothing. -/
theorem searches_nil : Searches rt [] ∧ candidates rt [] = .ok [] := by
  refine ⟨.inl rfl, rfl⟩

/-- **The extractor** returns the object found in the text. -/
theorem extractJsonObject_iff : extractJsonObject rt name text = .ok d ↔ Finds rt text d := by
  cases hblank : Str.isBlank text with
  | true =>
    have hnil := Str.isBlank_iff.1 hblank
    have herror : ∃ e, extractJsonObject rt name text = .error e := by
      unfold extractJsonObject
      exact ⟨_, if_pos hblank⟩
    obtain ⟨e, herror⟩ := herror
    rw [herror]
    refine ⟨nofun, fun h => ?_⟩
    cases h with
    | whole h =>
      rw [hnil] at h
      cases h
    | sole hsearch h hsole =>
      rw [hnil, searches_nil.2] at h
      cases h
      cases hsole.1
  | false =>
    constructor
    · intro h
      by_cases hsearch : Searches rt (Str.strip text)
      · rw [extractJsonObject_search hsearch hblank, search_ok] at h
        obtain ⟨ds, hds, hsole⟩ := h
        exact .sole hsearch hds hsole
      · unfold extractJsonObject at h
        rw [if_neg (by rw [hblank]; decide)] at h
        dsimp only at h
        split at h
        · cases h
        · rename_i d' hdecode
          cases h
          exact .whole hdecode
        · rename_i hdecode
          exact absurd (.inr hdecode) hsearch
        · rename_i hdecode
          exact absurd (.inl hdecode) hsearch
        · cases h
    · intro h
      cases h with
      | whole h =>
        unfold extractJsonObject
        simp only [hblank, Bool.false_eq_true, if_false, h]
      | sole hsearch h hsole =>
        rw [extractJsonObject_search hsearch hblank, search_ok]
        exact ⟨_, h, hsole⟩

/-- Where the recursion runs out the extractor refuses. -/
theorem Exhausts.not_finds (h : Exhausts rt text) : ¬ Finds rt text d := by
  intro hfinds
  rcases h with h | ⟨hsearch, h⟩
  · cases hfinds with
    | whole hd =>
      rw [h] at hd
      cases hd
    | sole hsearch hds hsole => rcases hsearch with h' | h' <;> rw [h] at h' <;> cases h'
  · cases hfinds with
    | whole hd => rcases hsearch with h' | h' <;> rw [hd] at h' <;> cases h'
    | sole _ hds hsole =>
      rw [h] at hds
      cases hds

/-- At most one object is found. -/
theorem Finds.unique {d' : Dict} (h : Finds rt text d) (h' : Finds rt text d') : d = d' := by
  have hd : extractJsonObject rt [] text = .ok d := extractJsonObject_iff.2 h
  rw [extractJsonObject_iff.2 h'] at hd
  cases hd
  rfl

/-- Every object at a brace was decoded there. -/
theorem braceObjects_mem {fuel : ℕ} {s : Str} (h : braceObjects rt fuel s = .ok ds)
    (hd : d ∈ ds) : ∃ t r, t <:+ s ∧ rawDecode rt t = .ok (.obj d, r) := by
  induction fuel generalizing s ds with
  | zero =>
    cases h
    cases hd
  | succ fuel ih =>
    rw [braceObjects] at h
    split at h
    · cases h
      cases hd
    · rename_i start rest hstart
      have hsuffix : start :: rest <:+ s := hstart ▸ List.dropWhile_suffix _
      split at h
      · cases h
      · obtain ⟨t, r, ht, hr⟩ := ih h hd
        exact ⟨t, r, (ht.trans (List.suffix_cons _ _)).trans hsuffix, hr⟩
      · rename_i d' after hdecode
        have hafter : after <:+ start :: rest := (rawDecode_iff.1 hdecode).1.suffix
        cases hrest : braceObjects rt fuel after with
        | error e =>
          rw [hrest] at h
          cases h
        | ok ds' =>
          rw [hrest] at h
          cases h
          rcases List.mem_cons.1 hd with rfl | hd
          · exact ⟨_, _, hsuffix, hdecode⟩
          · obtain ⟨t, r, ht, hr⟩ := ih hrest hd
            exact ⟨t, r, (ht.trans hafter).trans hsuffix, hr⟩
      · rename_i j after hobj hdecode
        obtain ⟨t, r, ht, hr⟩ := ih h hd
        exact ⟨t, r, (ht.trans (rawDecode_iff.1 hdecode).1.suffix).trans hsuffix, hr⟩

/-- The object that is found was decoded at some place. -/
theorem Finds.decoded (h : Finds rt text d) : ∃ s r, rawDecode rt s = .ok (.obj d, r) := by
  cases h with
  | whole h =>
    obtain ⟨r, hr, -⟩ := decodeCompleteJson_ok.1 h
    exact ⟨_, r, hr⟩
  | sole _ hds hsole =>
    have hmem := List.mem_of_getLast? hsole.1
    unfold candidates at hds
    split at hds
    · cases hds
    rename_i objects hobjects
    obtain ⟨-, rfl⟩ := fencedObjects_ok.1 hobjects
    split at hds
    · obtain ⟨t, r, -, hr⟩ := braceObjects_mem hds hmem
      exact ⟨t, r, hr⟩
    · cases hds
      obtain ⟨block, -, hblock⟩ := List.mem_filterMap.1 hmem
      obtain ⟨r, hr, -⟩ := decodeCompleteJson_ok.1 (blockObject_eq_some.1 hblock)
      exact ⟨_, r, hr⟩

end Decode
end CouncilLogic
