/-
# Seats that are checked, selected and read back

`validate_provider_config` accepts exactly the `Seat.Valid` seats.  A selection takes seats of the
loaded configuration, each at most once, and only shortens their timeouts.  What the lock of a
run stores of a seat is read back with its dictionaries sorted, which nothing that is derived
from the seat can tell.

The functions are those of `src/model_council/config.py` and `src/model_council/cli.py` that
`CouncilLogic.Selection` models.  The last part is about the lock: `Alike` is all that the report
on lineages, the policy check and the estimate look at, and a stored seat is alike to the one that
was stored.
-/

import CouncilLogic.Agent.Plans
import CouncilLogic.Guarantees.Configuration
import CouncilLogic.Selection

namespace CouncilLogic
namespace Config

variable {lib : Libraries} {rt : Runtime}
  {urlparse : Str → Except PyErr Url} {s s' : Seat} {seats : List Seat} {config : FullConfig}
  {args : RunArgs}

/-! ### Checks -/

/-- What `validate_provider_config` establishes. -/
structure Seat.Valid (urlparse : Str → Except PyErr Url) (s : Seat) : Prop where
  texts : ∀ f ∈ s.texts, Str.isBlank f.2 = false
  secret : isSecretName s.secretName = true
  tokens : 1 ≤ s.maxOutputTokens
  timeout : isPositive s.timeoutSeconds = true
  attempts : 1 ≤ s.maxAttempts ∧ s.maxAttempts ≤ 10
  stageTokens : ∀ e ∈ s.stageMaxOutputTokens, e.1 ∈ councilStages ∧ 0 < e.2
  stageTimeouts : ∀ e ∈ s.stageTimeoutSeconds, e.1 ∈ councilStages ∧ isPositive e.2 = true
  endpoint : validateEndpoint urlparse s = .ok ()

/-- A loop of checks passes when each of them does. -/
theorem checkEach_ok_iff {α : Type} {check : α → Except PyErr Unit} {l : List α} :
    checkEach check l = .ok () ↔ ∀ a ∈ l, check a = .ok () := by
  induction l with
  | nil => exact iff_of_true rfl (by simp)
  | cons a l ih =>
    rw [List.forall_mem_cons, ← ih]
    exact unit_bind_ok_iff

/-- Values by stage pass when each stage is one of the council and each value is positive. -/
theorem validateStages_ok_iff {α : Type} {field : Str} {positive : α → Bool}
    {values : List (Str × α)} : validateStages s field positive values = .ok () ↔
      ∀ e ∈ values, e.1 ∈ councilStages ∧ positive e.2 = true := by
  unfold validateStages
  simp only [unit_bind_ok_iff, checkEach_ok_iff, refuse_ok_iff, ne_eq, not_not,
    List.dedup_eq_nil, List.filter_eq_nil_iff, decide_eq_true_iff, Bool.not_eq_false]
  rw [List.forall_mem_map, ← forall₂_and]

/-- **Exactly the valid seats are accepted.** -/
theorem validateProviderConfig_ok_iff :
    validateProviderConfig urlparse s = .ok () ↔ s.Valid urlparse := by
  unfold validateProviderConfig
  simp only [unit_bind_ok_iff, checkEach_ok_iff, validateStages_ok_iff, refuse_ok_iff,
    Bool.not_eq_true, Bool.not_eq_false, not_lt, not_not, decide_eq_true_iff]
  constructor
  · rintro ⟨htexts, hsecret, htokens, htimeout, hattempts, hstage, htimeouts, hendpoint⟩
    exact ⟨htexts, hsecret, htokens, htimeout, hattempts, hstage, htimeouts, hendpoint⟩
  · intro h
    exact ⟨h.texts, h.secret, h.tokens, h.timeout, h.attempts, h.stageTokens, h.stageTimeouts,
      h.endpoint⟩

/-! ### Timeouts -/

/-- A time is positive when the number that it writes is. -/
theorem isPositive_iff {t : Str} :
    isPositive t = true ↔ ∃ d, secondsValue t = some d ∧ 0 < d.value := by
  unfold isPositive
  rw [Option.any_eq_true]
  refine exists_congr fun d => and_congr_right fun _ => ?_
  rw [decide_eq_true_iff, ne_eq, ← Decimal.value_eq_zero]
  exact (Decimal.value_nonneg d).lt_iff_ne'.symm

/-- The smaller one of two timeouts is one of them, and not greater than either. -/
theorem minSeconds_le {value seconds : Str} {x y : Decimal} (hx : secondsValue value = some x)
    (hy : secondsValue seconds = some y) :
    ∃ z, secondsValue (minSeconds value seconds) = some z ∧ z.value = min x.value y.value := by
  unfold minSeconds
  rw [hx, hy]
  dsimp only
  split
  · rename_i hlt
    exact ⟨y, hy, (min_eq_right (Decimal.lt_iff.1 hlt).le).symm⟩
  · rename_i hlt
    rw [Decimal.lt_iff, not_lt] at hlt
    exact ⟨x, hx, (min_eq_left hlt).symm⟩

/-- The smaller of two positive times is positive. -/
theorem isPositive_minSeconds {value seconds : Str} (hvalue : isPositive value = true)
    (hseconds : isPositive seconds = true) : isPositive (minSeconds value seconds) = true := by
  obtain ⟨x, hx, hxpos⟩ := isPositive_iff.1 hvalue
  obtain ⟨y, hy, hypos⟩ := isPositive_iff.1 hseconds
  obtain ⟨z, hz, hmin⟩ := minSeconds_le hx hy
  exact isPositive_iff.2 ⟨z, hz, hmin ▸ lt_min hxpos hypos⟩

/-- The seat with its timeouts capped. -/
def Seat.capped (seconds : Str) (s : Seat) : Seat :=
  { s with
    timeoutSeconds := minSeconds s.timeoutSeconds seconds
    stageTimeoutSeconds := s.stageTimeoutSeconds.map fun e => (e.1, minSeconds e.2 seconds) }

/-- A time for each call is applied when it is positive. -/
theorem applyCallTimeout_ok_iff {seconds : Str} : applyCallTimeout seconds s = .ok s' ↔
    isPositive seconds = true ∧ s.capped seconds = s' := by
  unfold applyCallTimeout
  simp only [refuse_bind_ok_iff, Bool.not_eq_false, Except.ok.injEq]
  rfl

/-- A seat with shorter times is as valid as it was. -/
theorem Seat.Valid.capped {seconds : Str} (h : s.Valid urlparse)
    (hseconds : isPositive seconds = true) : (s.capped seconds).Valid urlparse where
  texts := h.texts
  secret := h.secret
  tokens := h.tokens
  timeout := isPositive_minSeconds h.timeout hseconds
  attempts := h.attempts
  stageTokens := h.stageTokens
  stageTimeouts e he := by
    obtain ⟨e', he', rfl⟩ := List.mem_map.1 he
    obtain ⟨hstage, hpositive⟩ := h.stageTimeouts e' he'
    exact ⟨hstage, isPositive_minSeconds hpositive hseconds⟩
  endpoint := h.endpoint

/-- The seats with the cap that was asked for. -/
def cappedSeats (seats : List Seat) : Option Str → List Seat
  | none => seats
  | some seconds => seats.map (Seat.capped seconds)

/-- A time for each call is applied to all seats or to none. -/
theorem mapM_applyCallTimeout {seconds : Str} {capped : List Seat}
    (h : seats.mapM (applyCallTimeout seconds) = .ok capped) :
    (seats = [] ∨ isPositive seconds = true) ∧ capped = seats.map (Seat.capped seconds) := by
  induction seats generalizing capped with
  | nil =>
    cases h
    exact ⟨.inl rfl, rfl⟩
  | cons s seats ih =>
    rw [List.mapM_cons] at h
    simp only [bind, Except.bind] at h
    split at h
    · cases h
    rename_i first hfirst
    obtain ⟨hpositive, rfl⟩ := applyCallTimeout_ok_iff.1 hfirst
    split at h
    · cases h
    rename_i rest hrest
    cases h
    exact ⟨.inr hpositive, by rw [(ih hrest).2, List.map_cons]⟩

/-- A cap shortens the timeouts of valid seats and changes nothing else. -/
theorem capSeats_ok {timeout : Option Str} {capped : List Seat}
    (h : capSeats seats timeout = .ok capped) : capped = cappedSeats seats timeout ∧
      capped.map Seat.name = seats.map Seat.name ∧
      ∀ urlparse, (∀ s ∈ seats, s.Valid urlparse) → ∀ s ∈ capped, s.Valid urlparse := by
  cases timeout with
  | none =>
    cases h
    exact ⟨rfl, rfl, fun _ => id⟩
  | some seconds =>
    obtain ⟨hpositive, rfl⟩ := mapM_applyCallTimeout h
    refine ⟨rfl, List.map_map .., fun urlparse hvalid s hs => ?_⟩
    obtain ⟨s', hs', rfl⟩ := List.mem_map.1 hs
    rcases hpositive with rfl | hpositive
    · cases hs'
    · exact (hvalid s' hs').capped hpositive

/-! ### Rosters -/

/-- A seat that is available is one of the configuration, under its name. -/
theorem available_some {name : Str} (h : available seats name = some s) :
    s ∈ seats ∧ s.name = name := by
  unfold available at h
  exact ⟨List.mem_reverse.1 (List.mem_of_find?_eq_some h), by simpa using List.find?_some h⟩

/-- Looking up names that are available finds them in their order. -/
theorem names_filterMap_available {names : List Str}
    (h : ∀ name ∈ names, available seats name ≠ none) :
    (names.filterMap (available seats)).map Seat.name = names := by
  induction names with
  | nil => rfl
  | cons name names ih =>
    obtain ⟨hfirst, hrest⟩ := List.forall_mem_cons.1 h
    obtain ⟨s, hs⟩ := Option.ne_none_iff_exists'.1 hfirst
    rw [List.filterMap_cons_some hs, List.map_cons, ih hrest, (available_some hs).2]

/-- The names that a selection asks for: those that are listed, or all. -/
def requestedNames (seats : List Seat) (providers : Option Str) : List Str :=
  match providers with
  | none => seats.map Seat.name
  | some text => if text = [] then seats.map Seat.name else listed text

/-- **What is selected are seats of the configuration**, in the order that was asked for and none
of them twice. -/
theorem selectSeats_ok {providers : Option Str} {selected : List Seat}
    (hnames : (seats.map Seat.name).Nodup) (h : selectSeats seats providers = .ok selected) :
    selected ⊆ seats ∧ selected.map Seat.name = requestedNames seats providers ∧
      (selected.map Seat.name).Nodup := by
  cases providers with
  | none =>
    cases h
    exact ⟨List.Subset.refl _, rfl, hnames⟩
  | some text =>
    unfold selectSeats at h
    unfold requestedNames
    dsimp only at h ⊢
    split at h
    · rename_i hempty
      cases h
      rw [if_pos hempty]
      exact ⟨List.Subset.refl _, rfl, hnames⟩
    · rename_i hempty
      simp only [refuse_bind_ok_iff, not_not, ne_eq, List.filter_eq_nil_iff, decide_eq_true_iff,
        Except.ok.injEq] at h
      obtain ⟨hnodup, hknown, rfl⟩ := h
      rw [if_neg hempty, names_filterMap_available hknown]
      refine ⟨fun s hs => ?_, rfl, hnodup⟩
      obtain ⟨name, -, hs⟩ := List.mem_filterMap.1 hs
      exact (available_some hs).1

/-- **What a selection can do.** -/
structure Selected (lib : Libraries) (config : FullConfig) (args : RunArgs) (c : FullConfig) :
    Prop where
  roster : ∃ seats ⊆ config.seats, c.seats = cappedSeats seats args.callTimeoutSeconds
  names : c.names = requestedNames config.seats args.providers
  nodup : c.names.Nodup
  valid : (∀ s ∈ config.seats, s.Valid lib.urlparse) → ∀ s ∈ c.seats, s.Valid lib.urlparse
  checked : c.validate lib = .ok ()
  policy : c.policy = args.overrides.policy config.policy
  deadline : c.deadline = args.overrides.deadlineSeconds.getD config.deadline

/-- A configuration that is selected is a selection of the loaded one. -/
theorem selectRunConfig_ok {c : FullConfig} (hnames : config.names.Nodup)
    (h : selectRunConfig lib config args = .ok c) : Selected lib config args c := by
  unfold selectRunConfig at h
  simp only [Except.bind_ok_iff] at h
  obtain ⟨seats, hseats, capped, hcapped, chain, hchain, _, hchecked, h⟩ := h
  cases h
  obtain ⟨hsub, hselected, hnodup⟩ := selectSeats_ok hnames hseats
  obtain ⟨rfl, hsame, hvalid⟩ := capSeats_ok hcapped
  exact {
    roster := ⟨seats, hsub, rfl⟩
    names := hsame.trans hselected
    nodup := (congrArg List.Nodup hsame).mpr hnodup
    valid := fun h => hvalid lib.urlparse fun s hs => h s (hsub hs)
    checked := hchecked
    policy := rfl
    deadline := rfl }

/-! ### What a lock keeps of a seat -/

/-- A dictionary with its keys sorted. -/
def byKey {α : Type} (l : List (Str × α)) : List (Str × α) :=
  l.insertionSort fun a b => Str.le a.1 b.1 = true

/-- The seat that is read back. -/
def Seat.stored (s : Seat) : Seat :=
  { s with
    stageMaxOutputTokens := byKey s.stageMaxOutputTokens
    stageTimeoutSeconds := byKey s.stageTimeoutSeconds
    extra := Dict.canon s.extra }

/-- Sorting by keys keeps the entries. -/
theorem mem_byKey {α : Type} {l : List (Str × α)} {e : Str × α} : e ∈ byKey l ↔ e ∈ l :=
  (List.perm_insertionSort _ _).mem_iff

/-- A dictionary of atoms is stored with its keys sorted. -/
theorem canon_stages {α : Type} (f : α → Json) (hf : ∀ a, (f a).canon = f a)
    (l : List (Str × α)) : Json.canon (.obj (l.map fun e => (e.1, f e.2))) =
      .obj ((byKey l).map fun e => (e.1, f e.2)) := by
  have hfields : Json.canonFields (l.map fun e => (e.1, f e.2)) =
      l.map fun e => (e.1, f e.2) := by
    rw [Json.canonFields_eq_map, List.map_map]
    refine List.map_congr_left fun e _ => ?_
    simp only [Function.comp_apply, hf]
  show Json.obj (Json.sortFields (Json.canonFields _)) = _
  rw [hfields]
  unfold Json.sortFields byKey
  rw [List.map_insertionSort (fun a b : Str × α => Str.le a.1 b.1 = true)
    (fun a b : Str × Json => Str.le a.1 b.1 = true) _ l fun a _ b _ => Iff.rfl]

/-- Values by stage are read back as they were written. -/
theorem stageValues_map {α : Type} (convert : Json → Except PyErr α) (f : α → Json)
    (h : ∀ a, convert (f a) = .ok a) (l : List (Str × α)) :
    stageValues convert (l.map fun e => (e.1, f e.2)) = .ok l := by
  induction l with
  | nil => rfl
  | cons e l ih =>
    rw [List.map_cons]
    unfold stageValues
    rw [h, ih]
    rfl

/-- **A seat is read back** from the lock of a run. -/
theorem fromDict_canon (s : Seat) : Seat.fromDict (Dict.canon s.config.toDict) = .ok s.stored := by
  have hget : ∀ key, Dict.get? (Dict.canon s.config.toDict) key =
      (Dict.get? s.config.toDict key).map Json.canon := fun key => Dict.get?_canon_eq _ _
  have htokens := canon_stages Json.int (fun _ => rfl) s.stageMaxOutputTokens
  have htimeouts := canon_stages Json.float (fun _ => rfl) s.stageTimeoutSeconds
  have hextra : Json.canon (.obj s.extra) = .obj (Dict.canon s.extra) := Dict.canon_obj _
  unfold Seat.fromDict required optional
  simp only [hget]
  simp only [ProviderConfig.toDict, Seat.config, List.cons_append, List.nil_append, Dict.get?_cons,
    lit_inj, String.reduceEq, if_true, if_false, Option.map_some, htokens, htimeouts, hextra]
  simp only [Json.canon, asStr, asInt, asFloat, asBool, asDict, bind, Except.bind,
    stageValues_map asInt Json.int (fun _ => rfl),
    stageValues_map asFloat Json.float (fun _ => rfl)]
  rfl

/-! ### What cannot tell them apart -/

/-- What is looked up among converted values is converted. -/
theorem lookup_mapSnd {α β : Type} (f : α → β) (l : List (Str × α)) (key : Str) :
    (l.map fun e => (e.1, f e.2)).lookup key = (l.lookup key).map f := by
  induction l with
  | nil => rfl
  | cons e l ih =>
    rw [List.map_cons, List.lookup_cons, List.lookup_cons, ih]
    split <;> rfl

/-- The output limits of a stored seat are those of the seat. -/
theorem stored_outputTokensFor (s : Seat) (stage : Stage) :
    s.stored.config.outputTokensFor stage = s.config.outputTokensFor stage := by
  have hsorted := canon_stages Json.int (fun _ => rfl) s.stageMaxOutputTokens
  have hfields : Json.sortFields (Json.canonFields
      (s.stageMaxOutputTokens.map fun e => (e.1, Json.int e.2))) =
      (byKey s.stageMaxOutputTokens).map fun e => (e.1, Json.int e.2) := Json.obj.inj hsorted
  have hlookup := congrArg (List.lookup stage.name) hfields
  rw [Dict.lookup_sortFields, Json.canonFields_eq_map, List.map_map, lookup_mapSnd] at hlookup
  have hsame : (s.stageMaxOutputTokens.map
      ((fun f : Str × Json => (f.1, f.2.canon)) ∘ fun e => (e.1, Json.int e.2))).lookup stage.name =
      (s.stageMaxOutputTokens.lookup stage.name).map Json.int :=
    lookup_mapSnd Json.int s.stageMaxOutputTokens stage.name
  rw [hsame] at hlookup
  have hinj : Function.Injective (Option.map Json.int) :=
    Option.map_injective fun a b h => Json.int.inj h
  have heq : s.stageMaxOutputTokens.lookup stage.name =
      (byKey s.stageMaxOutputTokens).lookup stage.name := hinj hlookup
  unfold ProviderConfig.outputTokensFor
  show ((byKey s.stageMaxOutputTokens).lookup stage.name).getD _ = _
  rw [← heq]
  rfl

/-- The dictionary of a stored seat has the same canonical text. -/
theorem stored_toDict (s : Seat) :
    Json.canon (.obj s.stored.config.toDict) = Json.canon (.obj s.config.toDict) := by
  have htokens := canon_stages Json.int (fun _ => rfl) s.stageMaxOutputTokens
  have htimeouts := canon_stages Json.float (fun _ => rfl) s.stageTimeoutSeconds
  have hextra : Json.canon (.obj s.extra) = .obj (Dict.canon s.extra) := Dict.canon_obj _
  show Json.obj (Json.sortFields _) = Json.obj (Json.sortFields _)
  congr 2
  simp only [ProviderConfig.toDict, Seat.config, Seat.stored, List.cons_append, List.nil_append,
    Json.canonFields, ← htokens, ← htimeouts, ← hextra, Json.canon_canon]

/-- The configuration that is read back. -/
def FullConfig.stored (c : FullConfig) : FullConfig := { c with seats := c.seats.map Seat.stored }

/-- Storing a configuration keeps its names. -/
theorem stored_names (c : FullConfig) : c.stored.names = c.names := List.map_map ..

/-- Two providers that differ only in the order of their dictionaries. -/
structure Alike (p q : ProviderConfig) : Prop where
  name : p.name = q.name
  model : p.model = q.model
  lineage : p.lineage = q.lineage
  endpoint : p.endpoint = q.endpoint
  limits : ∀ stage, p.outputTokensFor stage = q.outputTokensFor stage
  dict : Json.canon (.obj p.toDict) = Json.canon (.obj q.toDict)

/-- A stored seat is alike to the one that was stored. -/
theorem stored_alike (s : Seat) : Alike s.stored.config s.config :=
  ⟨rfl, rfl, rfl, rfl, stored_outputTokensFor s, stored_toDict s⟩

/-- The seats of a stored configuration are alike to those that were stored, one by one. -/
theorem stored_providers (lib : Libraries) (c : FullConfig) :
    List.Forall₂ Alike (c.stored.app lib).providers (c.app lib).providers := by
  show List.Forall₂ Alike ((c.seats.map Seat.stored).map Seat.config) (c.seats.map Seat.config)
  rw [List.map_map, List.forall₂_map_left_iff, List.forall₂_map_right_iff, List.forall₂_same]
  exact fun s _ => stored_alike s

section Alike
variable {ps qs : List ProviderConfig}

/-- A list of what alike providers have in common. -/
theorem map_alike {α : Type} {f : ProviderConfig → α} (h : List.Forall₂ Alike ps qs)
    (hf : ∀ p q, Alike p q → f p = f q) : ps.map f = qs.map f := by
  induction h with
  | nil => rfl
  | cons hfirst _ ih => rw [List.map_cons, List.map_cons, hf _ _ hfirst, ih]

/-- Seats that are alike are reported alike. -/
theorem Alike.seat {p q : ProviderConfig} (h : Alike p q) (l : Lineages) :
    l.seat rt urlparse p = l.seat rt urlparse q := by
  unfold Lineages.seat isMock Lineages.judge derivedLineage Lineages.see modelIdentity
  rw [h.name, h.model, h.lineage, h.endpoint]

/-- The report on the lineages is the same. -/
theorem lineagesOf_alike (h : List.Forall₂ Alike ps qs) :
    lineagesOf rt urlparse ps = lineagesOf rt urlparse qs := by
  unfold lineagesOf
  generalize ({} : Lineages) = l
  induction h generalizing l with
  | nil => rfl
  | cons hfirst _ ih =>
    rw [List.foldlM_cons, List.foldlM_cons, hfirst.seat]
    exact congrArg _ (funext ih)

/-- Seats that are alike have the same names. -/
theorem names_alike (h : List.Forall₂ Alike ps qs) :
    ps.map ProviderConfig.name = qs.map ProviderConfig.name := map_alike h fun _ _ => Alike.name

/-- A policy is judged alike for seats that are alike. -/
theorem validateRunPolicy_alike {policy : RunPolicy} {n : ℕ} (h : List.Forall₂ Alike ps qs) :
    validateRunPolicy rt urlparse policy ps n = validateRunPolicy rt urlparse policy qs n := by
  have hlength := h.length_eq
  have hnil : ps = [] ↔ qs = [] := by rw [← List.length_eq_zero_iff, hlength,
    List.length_eq_zero_iff]
  unfold validateRunPolicy
  simp only [lineagesOf_alike h, hlength, hnil]

/-- A run is paid for alike with seats that are alike. -/
theorem isPaid_alike {c d : RunConfig} (h : List.Forall₂ Alike c.providers d.providers) :
    Approval.isPaid c = Approval.isPaid d := by
  have hany := congrArg
    (fun names : List Str => names.any fun name => !(lit "mock").isPrefixOf name) (names_alike h)
  simp only [List.any_map] at hany
  exact hany

/-- The costs of a run are estimated alike with seats that are alike. -/
theorem costEstimate_alike {c d : RunConfig} {workload : Workload.Plan}
    (h : List.Forall₂ Alike c.providers d.providers) (hpolicy : c.policy = d.policy) :
    Approval.costEstimate c workload = Approval.costEstimate d workload := by
  have hcaps : Approval.outputCaps c = Approval.outputCaps d := by
    unfold Approval.outputCaps
    rw [List.flatMap_def, List.flatMap_def]
    refine congrArg List.flatten (map_alike h fun p q hpq => ?_)
    exact List.map_congr_left fun stage _ => hpq.limits stage
  have hpairs : c.providers.map (fun p => (p.name, p.model)) =
      d.providers.map fun p => (p.name, p.model) :=
    map_alike h fun p q hpq => by rw [hpq.name, hpq.model]
  unfold Approval.costEstimate Approval.promptChars Approval.largestOutput
  rw [isPaid_alike h, hcaps, hpairs, hpolicy, h.length_eq]

/-- The stored dictionaries are the same. -/
theorem canon_dicts_alike (h : List.Forall₂ Alike ps qs) :
    Json.canon (.arr (ps.map fun p => .obj p.toDict)) =
      Json.canon (.arr (qs.map fun p => .obj p.toDict)) := by
  simp only [Json.canon, Json.canonItems_eq_map, List.map_map]
  exact congrArg Json.arr (map_alike h fun p q hpq => hpq.dict)

end Alike

/-! ### The plan of a stored configuration -/

/-- The material of a plan is the same but for the order of dictionaries. -/
theorem canonicalJson_planMaterial {question : Str} {workload : Workload.Plan}
    {diversity : Dict} (c : FullConfig) :
    Runs.canonicalJson (Agent.planMaterial rt (c.stored.app lib) question workload diversity) =
      Runs.canonicalJson (Agent.planMaterial rt (c.app lib) question workload diversity) := by
  have halike := stored_providers lib c
  have hproviders := canon_dicts_alike halike
  have hestimate : Approval.costEstimate (c.stored.app lib).toRunConfig workload =
      Approval.costEstimate (c.app lib).toRunConfig workload := costEstimate_alike halike rfl
  unfold Runs.canonicalJson
  refine congrArg Json.dumpsCompact ?_
  show Json.obj (Json.sortFields _) = Json.obj (Json.sortFields _)
  congr 2
  simp only [Agent.planMaterial, Json.canonFields, hproviders, hestimate]
  rfl

/-- **The plan of a stored configuration** is the plan of the configuration, its hash included. -/
theorem planRecord_stored (draws : Workload.PlanDraws) (c : FullConfig) (question : Str) :
    Agent.planRecord lib.toRuntime lib.urlparse draws (c.stored.app lib) question =
      Agent.planRecord lib.toRuntime lib.urlparse draws (c.app lib) question := by
  have halike := stored_providers lib c
  have hnames : (c.stored.app lib).names = (c.app lib).names := names_alike halike
  have hreport : lineageReport lib.toRuntime lib.urlparse (c.stored.app lib).providers =
      lineageReport lib.toRuntime lib.urlparse (c.app lib).providers := by
    unfold lineageReport
    rw [lineagesOf_alike halike]
  have hestimate : ∀ workload, Approval.costEstimate (c.stored.app lib).toRunConfig workload =
      Approval.costEstimate (c.app lib).toRunConfig workload := fun workload =>
    costEstimate_alike halike rfl
  unfold Agent.planRecord
  simp only [hnames, hreport, hestimate, canonicalJson_planMaterial]
  rfl

/-- The checks of a stored configuration are those of the configuration. -/
theorem validate_stored (c : FullConfig) : c.stored.validate lib = c.validate lib := by
  have halike := stored_providers lib c
  have hnames := names_alike halike
  have hsynthesis : validateSynthesisProviders (c.stored.app lib).synthesisProvider
      (c.stored.app lib).synthesisFallbacks (c.stored.app lib).providers =
      validateSynthesisProviders (c.app lib).synthesisProvider
        (c.app lib).synthesisFallbacks (c.app lib).providers := by
    unfold validateSynthesisProviders
    rw [hnames]
    rfl
  unfold FullConfig.validate Config.validate
  rw [hsynthesis]
  simp only [validateRunPolicy_alike halike]
  rfl

/-- A valid seat is valid when it is read back. -/
theorem Seat.Valid.stored (h : s.Valid urlparse) : s.stored.Valid urlparse where
  texts := h.texts
  secret := h.secret
  tokens := h.tokens
  timeout := h.timeout
  attempts := h.attempts
  stageTokens e he := h.stageTokens e (mem_byKey.1 he)
  stageTimeouts e he := h.stageTimeouts e (mem_byKey.1 he)
  endpoint := h.endpoint

/-! ### Reading the lock -/

/-- A dictionary is read as a dictionary. -/
theorem asDict_bind {α : Type} (d : Dict) (f : Dict → Except PyErr α) :
    (asDict (.obj d) >>= f) = f d := rfl

/-- A loop over values that can all be read. -/
theorem mapM_ok {α β γ : Type} {f : α → Except PyErr β} {g : γ → α} {r : γ → β}
    (h : ∀ c, f (g c) = .ok (r c)) (l : List γ) : (l.map g).mapM f = .ok (l.map r) := by
  induction l with
  | nil => rfl
  | cons c l ih =>
    rw [List.map_cons, List.mapM_cons, h, ih]
    rfl

/-- The seats are read back from the lock, with their dictionaries sorted. -/
theorem storedSeats_created (c : FullConfig) :
    storedSeats (Json.canon (.arr ((c.app lib).providers.map fun p => .obj p.toDict))) =
      .ok (c.seats.map Seat.stored) := by
  have hseat : ∀ s : Seat, (asDict (Json.canon (.obj s.config.toDict)) >>= Seat.fromDict) =
      .ok s.stored := fun s => by rw [Dict.canon_obj, asDict_bind, fromDict_canon]
  have hitems : Json.canon (.arr ((c.app lib).providers.map fun p => .obj p.toDict)) =
      .arr (c.seats.map fun s => Json.canon (.obj s.config.toDict)) := by
    simp only [FullConfig.app, Json.canon, Json.canonItems_eq_map, List.map_map]
    rfl
  rw [hitems]
  exact mapM_ok (f := fun j => asDict j >>= Seat.fromDict)
    (g := fun s : Seat => Json.canon (.obj s.config.toDict)) (r := Seat.stored) hseat c.seats

/-- The stored policy of a run. -/
theorem get?_storedPolicy (c : FullConfig) (question : Str) (key : Str) :
    Dict.get? (Dict.canon (Agent.runRequest rt (c.app lib) question).policy) key =
      (Dict.get? (Agent.runRequest rt (c.app lib) question).policy key).map Json.canon :=
  Dict.get?_canon_eq _ _

/-- The policy that is read back, whose deadline is read apart. -/
theorem policyFromDict_created (c : FullConfig) (question : Str) :
    policyFromDict (Dict.canon (Agent.runRequest rt (c.app lib) question).policy) =
      .ok ({ c.policy with deadlineSeconds := 900 }, c.deadline) := by
  unfold policyFromDict optional
  simp only [get?_storedPolicy]
  simp only [Agent.runRequest, RunPolicy.toDict, FullConfig.app, List.cons_append, List.nil_append,
    Dict.get?_cons, lit_inj, String.reduceEq, if_true, if_false, Option.map_some, Json.canon,
    asInt, asFloat, asBool, bind, Except.bind]

/-- The synthesis provider is read back from the lock. -/
theorem storedSynthesis_created (c : FullConfig) (question default : Str)
    (h : c.synthesisProvider ≠ []) :
    storedSynthesis (Dict.canon (Agent.runRequest rt (c.app lib) question).policy) default =
      .ok c.synthesisProvider := by
  unfold storedSynthesis
  rw [get?_storedPolicy]
  simp only [Agent.runRequest, RunPolicy.toDict, FullConfig.app, List.cons_append, List.nil_append,
    Dict.get?_cons, lit_inj, String.reduceEq, if_true, if_false, Option.map_some, Json.canon]
  split
  · rename_i heq
    cases heq
  · rename_i heq
    cases heq
  · rename_i heq
    rw [Option.some.injEq, Json.str.injEq] at heq
    exact absurd heq h
  · rename_i heq
    rw [Option.some.injEq] at heq
    rw [← heq]
    rfl

/-- The fallbacks of the synthesis are read back from the lock. -/
theorem storedFallbacks_created (c : FullConfig) (question : Str) :
    storedFallbacks (Dict.canon (Agent.runRequest rt (c.app lib) question).policy) =
      .ok c.synthesisFallbacks := by
  have hstrings := canon_strings c.synthesisFallbacks
  have hread : (Json.arr (c.synthesisFallbacks.map .str)).strings? = some c.synthesisFallbacks :=
    rankingLabels_map _
  unfold storedFallbacks
  rw [get?_storedPolicy]
  simp only [Agent.runRequest, RunPolicy.toDict, FullConfig.app, List.cons_append, List.nil_append,
    Dict.get?_cons, lit_inj, String.reduceEq, if_true, if_false, Option.map_some, hstrings,
    hread]

/-- **The lock of a run is read back.**  A resume by a deployment of the same mode gets the
configuration that the run was created from, but for the order of its dictionaries. -/
theorem lockedResumeConfig_created {base c : FullConfig} {row : Runs.Row} {question : Str}
    (hseats : row.providerConfigs =
      Json.canon (.arr (Agent.runRequest lib.toRuntime (c.app lib) question).providerConfigs))
    (hpolicy : row.policy =
      Dict.canon (Agent.runRequest lib.toRuntime (c.app lib) question).policy)
    (hmode : base.seats.all Seat.isMock = c.seats.all Seat.isMock)
    (hvalid : ∀ s ∈ c.seats, s.Valid lib.urlparse) (hchecked : c.validate lib = .ok ()) :
    ∃ locked, lockedResumeConfig lib base row = .ok locked ∧
      locked.app lib = c.stored.app lib ∧ locked.names = c.names := by
  have hsane := (validate_ok_iff lib.toRuntime lib.urlparse (c.app lib)).1 hchecked
  have hprimary : c.synthesisProvider ≠ [] := by
    intro hnil
    have hblank := hsane.chain_named c.synthesisProvider List.mem_cons_self
    rw [hnil] at hblank
    cases hblank
  have hstored : storedSeats row.providerConfigs = .ok (c.seats.map Seat.stored) :=
    hseats ▸ storedSeats_created c
  have hsame : (c.seats.map Seat.stored).all Seat.isMock = c.seats.all Seat.isMock := by
    rw [List.all_map]
    rfl
  have hchecks : checkEach (validateProviderConfig lib.urlparse) (c.seats.map Seat.stored) =
      .ok () := by
    refine checkEach_ok_iff.2 fun s hs => validateProviderConfig_ok_iff.2 ?_
    obtain ⟨s', hs', rfl⟩ := List.mem_map.1 hs
    exact (hvalid s' hs').stored
  refine ⟨{ c.stored with policy := { c.policy with deadlineSeconds := 900 } }, ?_, rfl,
    stored_names c⟩
  have hlocked : FullConfig.validate lib
      { c.stored with policy := { c.policy with deadlineSeconds := 900 } } = .ok () :=
    (validate_stored c).trans hchecked
  unfold lockedResumeConfig
  rw [hstored, hpolicy]
  simp only [bind, Except.bind, hsame, hmode, ne_eq, not_true_eq_false, refuse, if_false, hchecks,
    policyFromDict_created, storedSynthesis_created c question base.synthesisProvider hprimary,
    storedFallbacks_created]
  show (FullConfig.validate lib
    { c.stored with policy := { c.policy with deadlineSeconds := 900 } } >>= fun _ => _) = _
  rw [hlocked]
  rfl

end Config
end CouncilLogic
