/-
# What reports and engines are made of

The report on lineages has no mismatches exactly where no seat contradicts its model, and no
duplicates exactly where the live seats have different models; without mismatches it counts the
declared lineages.  The dictionary of an engine has every name of its configuration once.

The functions are those of `src/model_council/config.py` that `CouncilLogic.Config` models.  The
report is a fold over the seats, so each fact about it is proved for one seat and then for a list
of them (`reported`).
-/

import CouncilLogic.Config
import CouncilLogic.Lib.Transaction

namespace CouncilLogic
namespace Config

variable {rt : Runtime} {urlparse : Str → Except PyErr Url}
  {providers : List ProviderConfig} {l l' : Lineages} {p : ProviderConfig}

/-! ### Sequences -/

/-- What comes after a check is only reached when the check passes. -/
theorem unit_bind_ok_iff {β : Type} {x : Except PyErr Unit} {f : Unit → Except PyErr β} {b : β} :
    (x >>= f) = .ok b ↔ x = .ok () ∧ f () = .ok b := by
  rw [Except.bind_ok_iff]
  exact ⟨fun ⟨_, h⟩ => h, fun h => ⟨(), h⟩⟩

/-! ### Seats -/

/-- The endpoint of a live seat is one that `urlparse` accepts. -/
def Parsed (urlparse : Str → Except PyErr Url) (p : ProviderConfig) : Prop :=
  isMock p = false → ∃ url, urlparse (renderModel (lit "m") p.endpoint) = .ok url

/-- The model of the seat does not contradict its lineage. -/
def SeatTrue (rt : Runtime) (urlparse : Str → Except PyErr Url) (p : ProviderConfig) : Prop :=
  isMock p = false → isOpenrouterEndpoint rt urlparse p.endpoint = .ok true →
    ∀ derived, derivedLineage rt p = some derived → derived = p.lineage

/-- The model identities of the live seats. -/
def liveIdentities (rt : Runtime) (urlparse : Str → Except PyErr Url)
    (providers : List ProviderConfig) : List (Except PyErr Str) :=
  (providers.filter fun p => !isMock p).map (modelIdentity rt urlparse)

/-- An endpoint is told from the others exactly where it can be parsed. -/
theorem isOpenrouterEndpoint_ok_iff {endpoint : Str} :
    (∃ router, isOpenrouterEndpoint rt urlparse endpoint = .ok router) ↔
      ∃ url, urlparse (renderModel (lit "m") endpoint) = .ok url := by
  constructor
  · rintro ⟨router, h⟩
    obtain ⟨url, hurl, -⟩ := Except.bind_ok_iff.1 h
    exact ⟨url, hurl⟩
  · rintro ⟨url, hurl⟩
    exact ⟨_, Except.bind_ok_iff.2 ⟨url, hurl, rfl⟩⟩

/-- A seat whose endpoint can be parsed has a model identity. -/
theorem exists_modelIdentity {router : Bool}
    (h : isOpenrouterEndpoint rt urlparse p.endpoint = .ok router) :
    ∃ identity, modelIdentity rt urlparse p = .ok identity := by
  unfold modelIdentity
  rw [h]
  cases router with
  | true => exact ⟨_, rfl⟩
  | false => exact ⟨_, rfl⟩

/-! ### The report -/

/-- What becomes of the report when a live seat is judged. -/
structure Judged (rt : Runtime) (urlparse : Str → Except PyErr Url) (l : Lineages)
    (p : ProviderConfig) (l' : Lineages) (lineage : Str) : Prop where
  mismatches : ∃ found, l'.mismatches = l.mismatches ++ found ∧
    (found = [] ↔ SeatTrue rt urlparse p)
  lineage_eq : SeatTrue rt urlparse p → lineage = p.lineage
  seen : l'.seen = l.seen
  duplicates : l'.duplicates = l.duplicates
  lineages : l'.lineages = l.lineages

/-- What the report says of a live seat. -/
theorem judged {router : Bool} (hmock : isMock p = false)
    (hrouter : isOpenrouterEndpoint rt urlparse p.endpoint = .ok router) :
    Judged rt urlparse l p (l.judge rt p router).1 (l.judge rt p router).2 := by
  unfold Lineages.judge
  cases router with
  | false =>
    have htrue : SeatTrue rt urlparse p := fun _ h => by rw [hrouter] at h; cases h
    exact ⟨⟨[], (List.append_nil _).symm, iff_of_true rfl htrue⟩, fun _ => rfl, rfl, rfl, rfl⟩
  | true =>
    rw [if_pos rfl]
    cases hderived : derivedLineage rt p with
    | none =>
      have htrue : SeatTrue rt urlparse p := fun _ _ d h => by rw [hderived] at h; cases h
      exact ⟨⟨[], (List.append_nil _).symm, iff_of_true rfl htrue⟩, fun _ => rfl, rfl, rfl, rfl⟩
    | some derived =>
      dsimp only
      split
      · rename_i heq
        have htrue : SeatTrue rt urlparse p := fun _ _ d h => by
          rw [hderived] at h
          cases h
          exact heq
        exact ⟨⟨[], (List.append_nil _).symm, iff_of_true rfl htrue⟩, fun _ => rfl, rfl, rfl, rfl⟩
      · rename_i hne
        have hfalse : ¬ SeatTrue rt urlparse p := fun h => hne (h hmock hrouter derived hderived)
        exact ⟨⟨_, rfl, iff_of_false (by rintro ⟨⟩) hfalse⟩, fun h => absurd h hfalse,
          rfl, rfl, rfl⟩

/-- Seeing the identity of a seat adds no mismatch. -/
theorem see_mismatches (identity : Str) : (l.see p identity).mismatches = l.mismatches := by
  unfold Lineages.see
  split <;> rfl

/-- What a model identity does to those that have been seen, and to the duplicates. -/
theorem see_identity (identity : Str) :
    (identity ∈ l.seen.map Prod.fst → (l.see p identity).duplicates ≠ []) ∧
    (identity ∉ l.seen.map Prod.fst → (l.see p identity).duplicates = l.duplicates ∧
      (l.see p identity).seen = l.seen ++ [(identity, p.name)]) := by
  unfold Lineages.see
  cases hlookup : l.seen.lookup identity with
  | some other =>
    refine ⟨fun _ => by simp, fun hnew => ?_⟩
    obtain ⟨l₁, l₂, heq, -⟩ := List.lookup_eq_some_iff.1 hlookup
    rw [heq] at hnew
    simp at hnew
  | none =>
    refine ⟨fun hseen => ?_, fun _ => ⟨rfl, rfl⟩⟩
    obtain ⟨e, he, heq⟩ := List.mem_map.1 hseen
    exact absurd heq.symm (by simpa using List.lookup_eq_none_iff.1 hlookup e he)

/-- What a seat of the report does to it. -/
structure Seated (rt : Runtime) (urlparse : Str → Except PyErr Url) (p : ProviderConfig)
    (l l' : Lineages) : Prop where
  parsed : Parsed urlparse p
  mismatches : ∃ found, l'.mismatches = l.mismatches ++ found ∧
    (found = [] ↔ SeatTrue rt urlparse p)
  lineages : SeatTrue rt urlparse p → l'.lineages = l.lineages ++ [p.lineage]
  mock : isMock p = true → l'.duplicates = l.duplicates ∧ l'.seen = l.seen
  live : isMock p = false → ∃ identity, modelIdentity rt urlparse p = .ok identity ∧
    (identity ∈ l.seen.map Prod.fst → l'.duplicates ≠ []) ∧
    (identity ∉ l.seen.map Prod.fst → l'.duplicates = l.duplicates ∧
      l'.seen = l.seen ++ [(identity, p.name)])

/-- A seat that is reported has been judged, or is a mock. -/
theorem seated (h : l.seat rt urlparse p = .ok l') : Seated rt urlparse p l l' := by
  unfold Lineages.seat at h
  cases hmock : isMock p with
  | true =>
    rw [hmock, if_pos rfl] at h
    obtain rfl := Except.ok.inj h
    have htrue : SeatTrue rt urlparse p := fun hlive => by rw [hmock] at hlive; cases hlive
    exact {
      parsed := fun hlive => by rw [hmock] at hlive; cases hlive
      mismatches := ⟨[], (List.append_nil _).symm, iff_of_true rfl htrue⟩
      lineages := fun _ => rfl
      mock := fun _ => ⟨rfl, rfl⟩
      live := fun hlive => by rw [hmock] at hlive; cases hlive }
  | false =>
    rw [hmock, if_neg Bool.false_ne_true] at h
    obtain ⟨identity, hidentity, h⟩ := Except.bind_ok_iff.1 h
    obtain ⟨router, hrouter, h⟩ := Except.bind_ok_iff.1 h
    obtain rfl := Except.ok.inj h
    have hjudged := @judged rt urlparse l p router hmock hrouter
    have hsee := @see_identity (l.judge rt p router).1 p identity
    rw [hjudged.seen, hjudged.duplicates] at hsee
    exact {
      parsed := fun _ => isOpenrouterEndpoint_ok_iff.1 ⟨router, hrouter⟩
      mismatches := by
        obtain ⟨found, hfound, hiff⟩ := hjudged.mismatches
        exact ⟨found, (see_mismatches identity).trans hfound, hiff⟩
      lineages := fun htrue => by
        show (l.judge rt p router).1.lineages ++ [(l.judge rt p router).2] = _
        rw [hjudged.lineages, hjudged.lineage_eq htrue]
      mock := fun hlive => by rw [hmock] at hlive; cases hlive
      live := fun _ => ⟨identity, hidentity, hsee⟩ }

/-- A seat whose endpoint can be parsed is reported. -/
theorem exists_seat (h : Parsed urlparse p) : ∃ l', l.seat rt urlparse p = .ok l' := by
  unfold Lineages.seat
  cases hmock : isMock p with
  | true => exact ⟨_, rfl⟩
  | false =>
    obtain ⟨router, hrouter⟩ := isOpenrouterEndpoint_ok_iff.2 (h hmock)
    obtain ⟨identity, hidentity⟩ := exists_modelIdentity hrouter
    exact ⟨_, Except.bind_ok_iff.2 ⟨identity, hidentity, Except.bind_ok_iff.2 ⟨router, hrouter, rfl⟩⟩⟩

/-- What the whole report says of the seats, when it is continued from what is known. -/
structure Reported (rt : Runtime) (urlparse : Str → Except PyErr Url)
    (providers : List ProviderConfig) (l l' : Lineages) : Prop where
  parsed : ∀ p ∈ providers, Parsed urlparse p
  mismatches : ∃ found, l'.mismatches = l.mismatches ++ found ∧
    (found = [] ↔ ∀ p ∈ providers, SeatTrue rt urlparse p)
  lineages : (∀ p ∈ providers, SeatTrue rt urlparse p) →
    l'.lineages = l.lineages ++ providers.map ProviderConfig.lineage
  duplicates : l'.duplicates = [] ↔ l.duplicates = [] ∧
    (liveIdentities rt urlparse providers).Nodup ∧
      ∀ i ∈ l.seen.map Prod.fst, Except.ok i ∉ liveIdentities rt urlparse providers

/-- The identities of the report, one seat further. -/
theorem Seated.duplicates {l₁ : Lineages} (h : Seated rt urlparse p l l₁)
    (ih : l'.duplicates = [] ↔ l₁.duplicates = [] ∧
      (liveIdentities rt urlparse providers).Nodup ∧
        ∀ i ∈ l₁.seen.map Prod.fst, Except.ok i ∉ liveIdentities rt urlparse providers) :
    l'.duplicates = [] ↔ l.duplicates = [] ∧
      (liveIdentities rt urlparse (p :: providers)).Nodup ∧
        ∀ i ∈ l.seen.map Prod.fst, Except.ok i ∉ liveIdentities rt urlparse (p :: providers) := by
  rw [ih]
  unfold liveIdentities
  cases hmock : isMock p with
  | true =>
    obtain ⟨hduplicates, hseen⟩ := h.mock hmock
    rw [List.filter_cons_of_neg (by rw [hmock]; decide), hduplicates, hseen]
  | false =>
    obtain ⟨identity, hidentity, hold, hnew⟩ := h.live hmock
    rw [List.filter_cons_of_pos (by rw [hmock]; decide), List.map_cons, List.nodup_cons,
      hidentity]
    by_cases hmem : identity ∈ l.seen.map Prod.fst
    · exact iff_of_false (fun h => hold hmem h.1) fun h =>
        h.2.2 identity hmem List.mem_cons_self
    · obtain ⟨hduplicates, hseen⟩ := hnew hmem
      rw [hduplicates, hseen, List.map_append]
      constructor
      · rintro ⟨hnone, hnodup, hall⟩
        refine ⟨hnone, ⟨hall identity (by simp), hnodup⟩, fun i hi hi' => ?_⟩
        rcases List.mem_cons.1 hi' with heq | hi'
        · exact hmem (Except.ok.inj heq ▸ hi)
        · exact hall i (List.mem_append_left _ hi) hi'
      · rintro ⟨hnone, ⟨hfresh, hnodup⟩, hall⟩
        refine ⟨hnone, hnodup, fun i hi hi' => ?_⟩
        rcases List.mem_append.1 hi with hi | hi
        · exact hall i hi (List.mem_cons_of_mem _ hi')
        · obtain rfl := List.mem_singleton.1 hi
          exact hfresh hi'

/-- What the report says of a list of seats. -/
theorem reported (h : providers.foldlM (Lineages.seat rt urlparse) l = .ok l') :
    Reported rt urlparse providers l l' := by
  induction providers generalizing l with
  | nil =>
    obtain rfl := Except.ok.inj h
    exact {
      parsed := by simp
      mismatches := ⟨[], (List.append_nil _).symm, by simp⟩
      lineages := fun _ => (List.append_nil _).symm
      duplicates := by simp [liveIdentities] }
  | cons p providers ih =>
    rw [List.foldlM_cons] at h
    obtain ⟨l₁, hl₁, h⟩ := Except.bind_ok_iff.1 h
    have hseated := seated hl₁
    have hrest := ih h
    obtain ⟨found, hfound, hiff⟩ := hseated.mismatches
    obtain ⟨later, hlater, hiff'⟩ := hrest.mismatches
    exact {
      parsed := List.forall_mem_cons.2 ⟨hseated.parsed, hrest.parsed⟩
      mismatches := ⟨found ++ later, by rw [hlater, hfound, List.append_assoc], by
        rw [List.append_eq_nil_iff, hiff, hiff', List.forall_mem_cons]⟩
      lineages := fun htrue => by
        obtain ⟨hp, hall⟩ := List.forall_mem_cons.1 htrue
        rw [hrest.lineages hall, hseated.lineages hp, List.append_assoc]
        rfl
      duplicates := hseated.duplicates hrest.duplicates }

/-- There is a report when every endpoint can be parsed. -/
theorem exists_report (h : ∀ p ∈ providers, Parsed urlparse p) :
    ∃ l', providers.foldlM (Lineages.seat rt urlparse) l = .ok l' := by
  induction providers generalizing l with
  | nil => exact ⟨l, rfl⟩
  | cons p providers ih =>
    obtain ⟨hp, hall⟩ := List.forall_mem_cons.1 h
    obtain ⟨l₁, hl₁⟩ := @exists_seat rt urlparse l p hp
    obtain ⟨l', hl'⟩ := @ih l₁ hall
    exact ⟨l', by rw [List.foldlM_cons]; exact Except.bind_ok_iff.2 ⟨l₁, hl₁, hl'⟩⟩

/-- **The report is made** exactly where the endpoint of every live seat can be parsed. -/
theorem lineagesOf_ok_iff : (∃ l, lineagesOf rt urlparse providers = .ok l) ↔
    ∀ p ∈ providers, Parsed urlparse p :=
  ⟨fun ⟨_, h⟩ => (reported h).parsed, exists_report⟩

/-- What comes after the report is only reached when there is one. -/
theorem report_bind_ok_iff {α : Type} {f : Lineages → Except PyErr α} {a : α} :
    (lineagesOf rt urlparse providers >>= f) = .ok a ↔
      ∃ l, lineagesOf rt urlparse providers = .ok l ∧ f l = .ok a := Except.bind_ok_iff

/-- **The report has no mismatches** exactly where no seat contradicts its model. -/
theorem mismatches_eq_nil_iff (h : lineagesOf rt urlparse providers = .ok l) :
    l.mismatches = [] ↔ ∀ p ∈ providers, SeatTrue rt urlparse p := by
  obtain ⟨found, hfound, hiff⟩ := (reported h).mismatches
  rw [hfound, List.nil_append, hiff]

/-- **The report has no duplicates** exactly where the live seats have different models. -/
theorem duplicates_eq_nil_iff (h : lineagesOf rt urlparse providers = .ok l) :
    l.duplicates = [] ↔ (liveIdentities rt urlparse providers).Nodup := by
  rw [(reported h).duplicates]
  simp

/-- Without mismatches, the lineages that are counted are the declared ones. -/
theorem count_eq (h : lineagesOf rt urlparse providers = .ok l)
    (htrue : ∀ p ∈ providers, SeatTrue rt urlparse p) :
    l.count = (providers.map ProviderConfig.lineage).dedup.length := by
  unfold Lineages.count
  rw [(reported h).lineages htrue, List.nil_append]

/-! ### Refusals -/

/-- What comes after a refusal is only reached when its condition fails. -/
theorem refuse_bind_ok_iff {c : Prop} [Decidable c] {message : Str} {α : Type}
    {f : Unit → Except PyErr α} {a : α} :
    (refuse c message >>= f) = .ok a ↔ ¬ c ∧ f () = .ok a := by
  unfold refuse
  by_cases hc : c
  · rw [if_pos hc]
    exact iff_of_false (by rintro ⟨⟩) fun h => h.1 hc
  · rw [if_neg hc]
    exact (and_iff_right hc).symm

/-- A refusal passes when its condition fails. -/
theorem refuse_ok_iff {c : Prop} [Decidable c] {message : Str} :
    refuse c message = .ok () ↔ ¬ c := by
  unfold refuse
  by_cases hc : c
  · rw [if_pos hc]
    exact iff_of_false (by rintro ⟨⟩) (not_not.2 hc)
  · rw [if_neg hc]
    exact iff_of_true rfl hc

/-! ### Engines -/

variable {d : Deployment} {built built' : List ProviderConfig} {missing : List Str}

/-- The provider can be built: its key is found, and its constructor does not raise. -/
def Buildable (d : Deployment) (p : ProviderConfig) : Prop :=
  ∃ key, keyOf d p = .ok key ∧ key ≠ [] ∧ d.create p key = .ok ()

/-- A provider that is built replaces the one of its name, or is added. -/
theorem names_put : (put built p).map ProviderConfig.name =
    if p.name ∈ built.map ProviderConfig.name then built.map ProviderConfig.name
    else built.map ProviderConfig.name ++ [p.name] := by
  have hany : (built.any fun q => decide (q.name = p.name)) = true ↔
      p.name ∈ built.map ProviderConfig.name := by
    rw [List.any_eq_true, List.mem_map]
    simp only [decide_eq_true_iff]
  unfold put
  by_cases hmem : p.name ∈ built.map ProviderConfig.name
  · rw [if_pos (hany.2 hmem), if_pos hmem, List.map_map]
    refine List.map_congr_left fun q _ => ?_
    rw [Function.comp_apply]
    split
    · rename_i heq
      exact heq.symm
    · rfl
  · rw [if_neg (fun h => hmem (hany.1 h)), if_neg hmem, List.map_append]
    rfl

/-- The dictionary of providers has every name once. -/
theorem names_foldl_put (hbuilt : (built.map ProviderConfig.name).Nodup) :
    ((providers.foldl put built).map ProviderConfig.name).Nodup ∧
      ∀ name, name ∈ (providers.foldl put built).map ProviderConfig.name ↔
        name ∈ built.map ProviderConfig.name ∨ name ∈ providers.map ProviderConfig.name := by
  induction providers generalizing built with
  | nil => exact ⟨hbuilt, fun name => by simp⟩
  | cons p providers ih =>
    have hput : ((put built p).map ProviderConfig.name).Nodup ∧
        ∀ name, name ∈ (put built p).map ProviderConfig.name ↔
          name ∈ built.map ProviderConfig.name ∨ name = p.name := by
      rw [names_put]
      by_cases hmem : p.name ∈ built.map ProviderConfig.name
      · rw [if_pos hmem]
        refine ⟨hbuilt, fun name => (or_iff_left_of_imp ?_).symm⟩
        rintro rfl
        exact hmem
      · rw [if_neg hmem]
        exact ⟨List.nodup_append.2 ⟨hbuilt, List.nodup_singleton _, fun a ha b hb => by
          rintro rfl
          exact hmem (List.mem_singleton.1 hb ▸ ha)⟩, fun name => by simp⟩
    obtain ⟨hnodup, hmem⟩ := ih hput.1
    refine ⟨hnodup, fun name => (hmem name).trans ?_⟩
    rw [hput.2, List.map_cons, List.mem_cons, or_assoc]

/-- Providers that are missing are never forgotten. -/
theorem missing_prefix {result : List ProviderConfig × List Str}
    (h : buildProviders d providers (built, missing) = .ok result) : missing <+: result.2 := by
  induction providers generalizing built missing with
  | nil =>
    cases h
    exact List.prefix_refl _
  | cons p providers ih =>
    unfold buildProviders at h
    split at h
    · cases h
    · exact (List.prefix_append _ _).trans (ih h)
    · split at h
      · cases h
      · exact ih h

/-- All providers are built when each of them can be. -/
theorem buildProviders_ok_iff : buildProviders d providers (built, []) = .ok (built', []) ↔
    (∀ p ∈ providers, Buildable d p) ∧ built' = providers.foldl put built := by
  induction providers generalizing built with
  | nil =>
    unfold buildProviders
    rw [Except.ok.injEq, Prod.mk.injEq]
    exact ⟨fun h => ⟨by simp, h.1.symm⟩, fun h => ⟨h.2.symm, rfl⟩⟩
  | cons p providers ih =>
    rw [List.forall_mem_cons, List.foldl_cons]
    unfold buildProviders Buildable
    cases hkey : keyOf d p with
    | error e => exact iff_of_false (by rintro ⟨⟩) (by rintro ⟨⟨⟨key, ⟨⟩, -⟩, -⟩, -⟩)
    | ok key =>
      cases key with
      | nil =>
        refine iff_of_false (fun h => ?_) ?_
        · have hprefix := missing_prefix h
          rw [List.nil_append, List.prefix_nil] at hprefix
          cases hprefix
        · rintro ⟨⟨⟨key, hsame, hne, -⟩, -⟩, -⟩
          exact hne (Except.ok.inj hsame).symm
      | cons c key =>
        dsimp only
        cases hcreate : d.create p (c :: key) with
        | error e =>
          refine iff_of_false (by rintro ⟨⟩) ?_
          rintro ⟨⟨⟨key', hsame, -, hcreated⟩, -⟩, -⟩
          obtain rfl := Except.ok.inj hsame
          rw [hcreate] at hcreated
          cases hcreated
        | ok _ =>
          dsimp only
          rw [ih]
          exact and_congr_left fun _ =>
            (and_iff_right ⟨c :: key, rfl, by simp, hcreate⟩).symm

/-- The dictionary of an engine has the last provider of each name. -/
theorem providersOf_ok_iff : providersOf d providers = .ok built ↔
    (∀ p ∈ providers, Buildable d p) ∧ built = providers.foldl put [] := by
  rw [← buildProviders_ok_iff]
  unfold providersOf
  cases hbuild : buildProviders d providers ([], []) with
  | error e => exact iff_of_false (by rintro ⟨⟩) (by rintro ⟨⟩)
  | ok result =>
    obtain ⟨built', missing⟩ := result
    simp only [bind, Except.bind]
    rw [Except.ok.injEq, Prod.mk.injEq]
    split
    · rename_i hmissing
      exact iff_of_false (by rintro ⟨⟩) fun h => hmissing h.2
    · rename_i hmissing
      rw [Except.ok.injEq]
      exact ⟨fun h => ⟨h, not_not.1 hmissing⟩, And.left⟩

/-- An engine accepts what the policy allows. -/
theorem engineInit_ok_iff {config : RunConfig} (hnames : config.names.Nodup) :
    engineInit config = .ok () ↔ config.Accepted := by
  unfold engineInit
  simp only [refuse_bind_ok_iff, refuse_ok_iff, not_lt, ne_eq, not_not, List.filter_eq_nil_iff,
    decide_eq_true_iff]
  constructor
  · rintro ⟨hne, hnodup, havailable, hcalls⟩
    exact ⟨hne, hnames, hnodup, havailable, hcalls⟩
  · intro h
    exact ⟨h.providers_ne_nil, h.synthesis_nodup, h.synthesis_available, h.max_calls⟩

end Config
end CouncilLogic
