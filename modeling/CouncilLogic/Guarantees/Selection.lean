/-
# What is loaded, selected and resumed

Whatever the environment, the file and the arguments say, the seats that a command gets are
distinct, each of them is checked, and each one's requests can only go to the hosts of its own
provider; mock and live seats are never mixed, so that no selection makes live work free.  Once
a run is locked, a resume by a deployment of its mode gets the configuration of the lock back,
with the plan that was approved for it, whatever its own configuration says.

The functions are `load_config` of `src/model_council/config.py`, `_select_run_config` and
`_locked_resume_config` of `src/model_council/cli.py`, and what `src/model_council/agent.py` makes
of a request.
-/

import CouncilLogic.Guarantees.Provenance
import CouncilLogic.Loading
import CouncilLogic.SelectionLaws

namespace CouncilLogic
namespace Config

variable {lib : Libraries} {environ environ' : Str → Option Str} {mock mock' : Bool}
  {raw raw' : Option RawConfig} {base base' c : FullConfig} {args : RunArgs} {s : Seat}

/-! ### Endpoints -/

/-- The requests of a seat go to a host. -/
structure Seat.Reaches (urlparse : Str → Except PyErr Url) (s : Seat) (url : Url) (host : Str) :
    Prop where
  parsed : urlparse (renderModel s.model s.endpoint) = .ok url
  hostname : url.hostname = some host
  allowed : host ∈ (allowedEndpointHosts.lookup
    (if s.isMock then lit "mock" else s.name)).getD []
  credentials : url.credentials = false
  secure : s.isMock = false → url.scheme = lit "https" ∧
    ∃ port, url.port = .ok port ∧ (port = none ∨ port = some 443)

/-- A valid seat reaches an allowed host only. -/
theorem Seat.Valid.reaches (h : s.Valid lib.urlparse) :
    ∃ url host, s.Reaches lib.urlparse url host := by
  have hendpoint := h.endpoint
  unfold validateEndpoint at hendpoint
  obtain ⟨url, hparsed, hendpoint⟩ := Except.bind_ok_iff.1 hendpoint
  dsimp only at hendpoint
  obtain ⟨hscheme, hendpoint⟩ := refuse_bind_ok_iff.1 hendpoint
  obtain ⟨hhost, hendpoint⟩ := refuse_bind_ok_iff.1 hendpoint
  obtain ⟨port, hport, hendpoint⟩ := Except.bind_ok_iff.1 hendpoint
  obtain ⟨hsecure, hcredentials⟩ := refuse_bind_ok_iff.1 hendpoint
  rw [refuse_ok_iff, Bool.not_eq_true] at hcredentials
  rw [not_not, Option.any_eq_true] at hhost
  obtain ⟨host, hhostname, hallowed⟩ := hhost
  refine ⟨url, host, hparsed, hhostname, of_decide_eq_true hallowed, hcredentials, fun hlive => ?_⟩
  have hkind : (if s.isMock = true then lit "mock" else s.name) ≠ lit "mock" := by
    rw [hlive, if_neg Bool.false_ne_true]
    intro hname
    rw [Seat.isMock, hname] at hlive
    cases hlive
  refine ⟨by_contra fun h => hscheme ⟨h, hkind⟩, port, hport, ?_⟩
  by_contra h
  rw [not_or] at h
  exact hsecure ⟨h.1, h.2, hkind⟩

/-! ### Loading -/

/-- What loading establishes, and every selection keeps. -/
structure Deployed (lib : Libraries) (mock : Bool) (c : FullConfig) : Prop where
  nodup : c.names.Nodup
  mode : ∀ s ∈ c.seats, s.isMock = mock
  known : mock = false → c.names ⊆ knownProviderNames
  valid : ∀ s ∈ c.seats, s.Valid lib.urlparse
  checked : c.validate lib = .ok ()

/-- The known providers have different names. -/
theorem knownProviderNames_nodup : knownProviderNames.Nodup := by decide

/-- No known provider is a mock. -/
theorem isMock_known : ∀ name ∈ knownProviderNames, (lit "mock").isPrefixOf name = false := by
  decide

/-- A seat that is routed elsewhere keeps its name. -/
theorem routeViaOpenrouter_name (s : Seat) (model : Option Str) :
    (routeViaOpenrouter environ s model).name = s.name := by
  unfold routeViaOpenrouter
  split <;> rfl

/-- A seat that a file describes keeps its name. -/
theorem routeSeat_name (s : Seat) (o : SeatSection) (route : Str) :
    (routeSeat environ s o route).name = s.name := by
  unfold routeSeat
  split
  · exact routeViaOpenrouter_name s o.openrouterModel
  · rfl

/-- A seat of a file has the name of its section and is checked. -/
theorem fileSeat_ok {raw : RawConfig} {runRoute name : Str}
    (h : fileSeat lib environ raw runRoute name = .ok (some s)) :
    s.name = name ∧ s.Valid lib.urlparse ∧
      (name ∈ providersAddedAfterV02 → raw.providers.lookup name ≠ none) := by
  unfold fileSeat at h
  dsimp only at h
  split at h
  · cases h
  rename_i hwritten
  obtain ⟨route, -, h⟩ := Except.bind_ok_iff.1 h
  split at h
  · obtain ⟨hvalid, h⟩ := unit_bind_ok_iff.1 h
    cases h
    exact ⟨routeSeat_name _ _ _, validateProviderConfig_ok_iff.1 hvalid,
      fun hadded hnone => hwritten ⟨hadded, hnone⟩⟩
  · cases h

/-- The seats of a file: each of the known providers once at most, in their order. -/
theorem fileSeats_ok {raw : RawConfig} {runRoute : Str} {names : List Str} {seats : List Seat}
    (h : fileSeats lib environ raw runRoute names = .ok seats) :
    (seats.map Seat.name).Sublist names ∧ ∀ s ∈ seats, s.Valid lib.urlparse := by
  induction names generalizing seats with
  | nil =>
    cases h
    exact ⟨.slnil, by rintro s ⟨⟩⟩
  | cons name names ih =>
    obtain ⟨first, hfirst, h⟩ := Except.bind_ok_iff.1 h
    obtain ⟨rest, hrest, h⟩ := Except.bind_ok_iff.1 h
    cases h
    obtain ⟨hnames, hvalid⟩ := ih hrest
    cases first with
    | none => exact ⟨hnames.cons name, hvalid⟩
    | some s =>
      obtain ⟨rfl, hs, -⟩ := fileSeat_ok hfirst
      exact ⟨hnames.cons_cons s.name, List.forall_mem_cons.2 ⟨hs, hvalid⟩⟩

/-- Seats of known providers are live. -/
theorem Deployed.of_known (hnames : c.names.Sublist knownProviderNames)
    (hvalid : ∀ s ∈ c.seats, s.Valid lib.urlparse) (hchecked : c.validate lib = .ok ()) :
    Deployed lib false c where
  nodup := hnames.nodup knownProviderNames_nodup
  mode s hs := isMock_known s.name (hnames.subset (List.mem_map_of_mem hs))
  known _ := hnames.subset
  valid := hvalid
  checked := hchecked

/-- What is loaded is a deployment of live seats. -/
theorem loadConfig_ok (h : loadConfig lib environ raw = .ok c) : Deployed lib false c := by
  unfold loadConfig at h
  obtain ⟨defaults, hdefaults, h⟩ := Except.bind_ok_iff.1 h
  cases raw with
  | none =>
    obtain ⟨hvalid, h⟩ := unit_bind_ok_iff.1 h
    obtain ⟨hchecked, h⟩ := unit_bind_ok_iff.1 h
    cases h
    refine .of_known ?_ (fun s hs => validateProviderConfig_ok_iff.1
      (checkEach_ok_iff.1 hvalid s hs)) hchecked
    obtain ⟨route, -, h⟩ := Except.bind_ok_iff.1 hdefaults
    cases h
    have hnames : ∀ name, (defaultProvider environ name).name = name := fun _ => rfl
    have hdefault : defaultLiveProviderNames.Sublist knownProviderNames :=
      List.sublist_append_left _ _
    unfold FullConfig.names
    dsimp only
    split
    · simpa only [List.map_map, Function.comp_def, routeViaOpenrouter_name, hnames,
        List.map_id'] using hdefault
    · simpa only [List.map_map, Function.comp_def, hnames, List.map_id'] using hdefault
  | some raw =>
    obtain ⟨runRoute, -, h⟩ := Except.bind_ok_iff.1 h
    obtain ⟨seats, hseats, h⟩ := Except.bind_ok_iff.1 h
    obtain ⟨hchecked, h⟩ := unit_bind_ok_iff.1 h
    cases h
    obtain ⟨hnames, hvalid⟩ := fileSeats_ok hseats
    exact .of_known hnames hvalid hchecked

/-- What is made for `--mock` is a deployment of mock seats. -/
theorem mockFull_ok (h : mockFull lib = .ok c) : Deployed lib true c := by
  unfold mockFull at h
  obtain ⟨hvalid, h⟩ := unit_bind_ok_iff.1 h
  obtain ⟨hchecked, h⟩ := unit_bind_ok_iff.1 h
  cases h
  exact {
    nodup := by decide
    mode := by decide
    known := by rintro ⟨⟩
    valid := fun s hs => validateProviderConfig_ok_iff.1 (checkEach_ok_iff.1 hvalid s hs)
    checked := hchecked }

/-- **What is loaded is checked**, and of one mode. -/
theorem configFor_ok (h : configFor lib environ mock raw = .ok c) : Deployed lib mock c := by
  cases mock with
  | false => exact loadConfig_ok h
  | true => exact mockFull_ok h

/-! ### Selections -/

/-- A selection of a deployment is one. -/
theorem Selected.deployed (h : Selected lib base args c) (hbase : Deployed lib mock base) :
    Deployed lib mock c := by
  obtain ⟨seats, hseats, hcapped⟩ := h.roster
  have hof : ∀ s ∈ c.seats, ∃ s' ∈ base.seats, s.name = s'.name := by
    intro s hs
    rw [hcapped] at hs
    cases hseconds : args.callTimeoutSeconds with
    | none =>
      rw [hseconds] at hs
      exact ⟨s, hseats hs, rfl⟩
    | some seconds =>
      rw [hseconds] at hs
      obtain ⟨s', hs', rfl⟩ := List.mem_map.1 hs
      exact ⟨s', hseats hs', rfl⟩
  refine ⟨h.nodup, fun s hs => ?_, fun hlive name hname => ?_, h.valid hbase.valid, h.checked⟩
  · obtain ⟨s', hs', hname⟩ := hof s hs
    rw [Seat.isMock, hname]
    exact hbase.mode s' hs'
  · obtain ⟨s, hs, rfl⟩ := List.mem_map.1 hname
    obtain ⟨s', hs', hname⟩ := hof s hs
    rw [hname]
    exact hbase.known hlive (List.mem_map_of_mem hs')

/-- A deployment has a seat. -/
theorem Deployed.seats_ne_nil (h : Deployed lib mock c) : c.seats ≠ [] := by
  have hsane := (validate_ok_iff lib.toRuntime lib.urlparse (c.app lib)).1 h.checked
  exact fun hnil => hsane.providers_ne_nil (congrArg (List.map Seat.config) hnil)

/-- The seats of a deployment are all mocks or all live. -/
theorem Deployed.all_isMock (h : Deployed lib mock c) : c.seats.all Seat.isMock = mock := by
  cases mock with
  | true => exact List.all_eq_true.2 h.mode
  | false =>
    obtain ⟨s, hs⟩ := List.exists_mem_of_ne_nil _ h.seats_ne_nil
    exact List.all_eq_false.2 ⟨s, hs, by rw [h.mode s hs]; exact Bool.false_ne_true⟩

/-- Work is paid exactly where it is not mock. -/
theorem Deployed.isPaid (h : Deployed lib mock c) :
    Approval.isPaid (c.app lib).toRunConfig = !mock := by
  have hany : Approval.isPaid (c.app lib).toRunConfig = c.seats.any fun s => !s.isMock :=
    List.any_map
  rw [hany]
  cases mock with
  | true => exact List.any_eq_false.2 fun s hs => by simp [h.mode s hs]
  | false =>
    obtain ⟨s, hs⟩ := List.exists_mem_of_ne_nil _ h.seats_ne_nil
    exact List.any_eq_true.2 ⟨s, hs, by simp [h.mode s hs]⟩

/-- **Selections are confined**: whatever the environment, the file and the arguments say, the
seats that are selected are distinct seats of the loaded configuration with their timeouts at
most shortened, each of them is checked and reaches the hosts of its own provider only, and the
work is paid exactly where the deployment is not a mock. -/
theorem selection_confined (hbase : configFor lib environ mock raw = .ok base)
    (hc : selectRunConfig lib base args = .ok c) :
    Selected lib base args c ∧ Deployed lib mock c ∧
      Approval.isPaid (c.app lib).toRunConfig = !mock ∧
      ∀ s ∈ c.seats, ∃ url host, s.Reaches lib.urlparse url host := by
  have hloaded := configFor_ok hbase
  have hselected := selectRunConfig_ok hloaded.nodup hc
  have hdeployed := hselected.deployed hloaded
  exact ⟨hselected, hdeployed, hdeployed.isPaid, fun s hs => (hdeployed.valid s hs).reaches⟩

def exampleLibraries : Libraries where
  toRuntime := exampleRuntime
  urlparse := exampleUrlparse
  ticks _ := 900

/-- One seat of the default deployment, with its timeouts cut. -/
def liveArgs : RunArgs where
  providers := some (lit "openai")
  overrides := {
    proposalQuorum := some 1
    juryQuorum := some 1
    minLineages := some 1 }
  callTimeoutSeconds := some (lit "120.5")

def liveBase : FullConfig where
  seats := defaultLiveProviderNames.map (defaultProvider fun _ => none)
  policy := { maxCalls := 20, juryRepairAttempts := 1 }
  deadline := lit "900.0"
  synthesisProvider := lit "openai"
  synthesisFallbacks := [lit "anthropic", lit "gemini"]

/-- Without the fallbacks that are not selected. -/
def liveSelected : FullConfig where
  seats := [(defaultProvider (fun _ => none) (lit "openai")).capped (lit "120.5")]
  policy := {
    proposalQuorum := 1
    juryQuorum := 1
    minLineages := 1
    maxCalls := 20
    juryRepairAttempts := 1 }
  deadline := lit "900.0"
  synthesisProvider := lit "openai"
  synthesisFallbacks := []

/-- The configuration without a file and with the two routes of the example. -/
theorem liveBase_loaded :
    configFor exampleLibraries (fun _ => none) false none = .ok liveBase := by decide +kernel

/-- The selection of the example: two live seats in another order, with shorter times. -/
theorem liveBase_selected :
    selectRunConfig exampleLibraries liveBase liveArgs = .ok liveSelected := by decide +kernel

/-- The live selection of the example: its seats are checked, confined to the hosts of their
providers, and paid for. -/
theorem selection_confined_example :
    (configFor exampleLibraries (fun _ => none) false none = .ok liveBase ∧
      selectRunConfig exampleLibraries liveBase liveArgs = .ok liveSelected) ∧
    Deployed exampleLibraries false liveSelected ∧
      Approval.isPaid (liveSelected.app exampleLibraries).toRunConfig = !false ∧
      ∀ s ∈ liveSelected.seats, ∃ url host, s.Reaches exampleUrlparse url host := by
  obtain ⟨-, hdeployed, hpaid, hreaches⟩ := selection_confined liveBase_loaded liveBase_selected
  exact ⟨⟨liveBase_loaded, liveBase_selected⟩, hdeployed, hpaid, hreaches⟩

/-! ### Resumption -/

open Agent (Lives planRecord Fits lockOf locks)
open Client (alone_bind_ok alone_perform)

/-- The platform on these libraries. -/
def Libraries.platform {K : Type} (lib : Libraries) (hmac : K → Str → Str) (emptyKey : K) :
    Agent.Platform K :=
  { lib.toRuntime with
    urlparse := lib.urlparse
    hmac := hmac
    emptyKey := emptyKey }

/-- A run is found again, with its lock. -/
theorem run_grows {t t' : Runs.Tables} {runId : Str} {row : Runs.Row}
    (h : locks t <+: locks t') (hrow : t.run runId = some row) :
    ∃ row', t'.run runId = some row' ∧ lockOf row' = lockOf row := by
  have hfind : ∀ t : Runs.Tables, (locks t).find? (fun l => l.identity.id = runId) =
      (t.run runId).map lockOf := fun t => List.find?_map ..
  obtain ⟨later, hlater⟩ := h
  have hfound := hfind t'
  rw [← hlater, List.find?_append, hfind, hrow, Option.map_some, Option.some_or] at hfound
  obtain ⟨row', hrow', hlock⟩ := Option.map_eq_some_iff.1 hfound.symm
  exact ⟨row', hrow', hlock⟩

/-- Whether an engine fits a run depends on the lock of the run alone. -/
theorem Fits.of_lock {rt : Runtime} {engine : AppConfig} {row row' : Runs.Row}
    (h : Fits rt engine row) (hlock : lockOf row' = lockOf row) : Fits rt engine row' where
  protocolId := (congrArg Agent.Locked.protocolId hlock).trans h.protocolId
  protocolHash := (congrArg Agent.Locked.protocolHash hlock).trans h.protocolHash
  providers := (congrArg Agent.Locked.providerConfigs hlock).trans h.providers
  policy := (congrArg Agent.Locked.policy hlock).trans h.policy

/-- The engine that is built from what is read back fits the run. -/
theorem Fits.stored {row : Runs.Row} (h : Fits lib.toRuntime (c.app lib) row) :
    Fits lib.toRuntime (c.stored.app lib) row where
  protocolId := h.protocolId
  protocolHash := h.protocolHash
  providers := h.providers.trans (canon_dicts_alike (stored_providers lib c)).symm
  policy := h.policy

/-- A configuration of the other mode is refused. -/
theorem lockedResumeConfig_mode {row : Runs.Row} {question : Str}
    (hseats : row.providerConfigs =
      Json.canon (.arr (Agent.runRequest lib.toRuntime (c.app lib) question).providerConfigs))
    (hmode : base.seats.all Seat.isMock ≠ c.seats.all Seat.isMock) :
    lockedResumeConfig lib base row =
      .error (.valueError (lit "Stored run mode differs from the requested deployment mode")) := by
  have hstored : storedSeats row.providerConfigs = .ok (c.seats.map Seat.stored) :=
    hseats ▸ storedSeats_created c
  have hsame : (c.seats.map Seat.stored).all Seat.isMock = c.seats.all Seat.isMock := by
    rw [List.all_map]
    rfl
  unfold lockedResumeConfig
  rw [hstored]
  simp only [bind, Except.bind, hsame, refuse, ne_eq, hmode, not_false_eq_true, if_true]

/-- **A resume keeps the plan.**  Once the engine of a selected configuration fits a run, then
at every later moment of the data directory's life, and whatever configuration a resume has
loaded then, it either is of the other mode and refused, or reads the same plan back from the
lock of the run, the hash included that a human approved, with an engine that the run accepts. -/
theorem resume_same_plan {K : Type} {hmac : K → Str → Str} {emptyKey : K}
    {x y : Agent.Vault K × List (Agent.Program K Agent.Answer)} {v : Agent.Vault K} {runId : Str}
    (hx : Lives (lib.platform hmac emptyKey) ({}, []) x)
    (hy : Lives (lib.platform hmac emptyKey) x y)
    (hbase : configFor lib environ mock raw = .ok base)
    (hc : selectRunConfig lib base args = .ok c)
    (hfits : (Agent.beginResume lib.toRuntime (c.app lib) runId).run x.1 = (.ok (), v))
    (hlater : configFor lib environ' mock' raw' = .ok base') :
    ∃ row, y.1.tables.run runId = some row ∧
      (mock' ≠ mock → lockedResumeConfig lib base' row =
        .error (.valueError
          (lit "Stored run mode differs from the requested deployment mode"))) ∧
      (mock' = mock → ∃ locked, lockedResumeConfig lib base' row = .ok locked ∧
        locked.names = c.names ∧
        (∀ draws question,
          planRecord lib.toRuntime lib.urlparse draws (locked.app lib) question =
            planRecord lib.toRuntime lib.urlparse draws (c.app lib) question) ∧
        (Agent.beginResume lib.toRuntime (locked.app lib) runId).run y.1 =
          (.ok (), { y.1 with resumed := y.1.resumed ++ [runId] })) := by
  obtain ⟨-, hdeployed, -⟩ := selection_confined hbase hc
  have hloaded := configFor_ok hlater
  have hlives := Agent.lives_disciplined hx
  obtain ⟨-, hgrows⟩ := Agent.lives_turns hy hlives
  rcases Agent.beginResume_cases hfits with ⟨e, hraise, -⟩ | ⟨-, row, hrow, hrowfits, -⟩
  · cases hraise
  obtain ⟨row', hrow', hlock⟩ := run_grows hgrows.locks hrow
  have hfits' := Fits.of_lock hrowfits hlock
  have hmodes : base'.seats.all Seat.isMock = c.seats.all Seat.isMock ↔ mock' = mock := by
    rw [hloaded.all_isMock, hdeployed.all_isMock]
  refine ⟨row', hrow', fun hother => ?_, fun hsame => ?_⟩
  · exact lockedResumeConfig_mode hfits'.providers fun h => hother (hmodes.1 h)
  obtain ⟨locked, hread, happ, hnames⟩ := lockedResumeConfig_created hfits'.providers
    hfits'.policy (hmodes.2 hsame) hdeployed.valid hdeployed.checked
  refine ⟨locked, hread, hnames, fun draws question => ?_, ?_⟩
  · rw [happ]
    exact planRecord_stored draws c question
  · have hid : Columns.bindTexts [runId] = .ok () := by
      obtain ⟨hmem, rfl⟩ := Rows.find_some hrow
      refine Runs.bindTexts_ok_iff.2 ?_
      rintro _ hid
      obtain rfl := List.mem_singleton.1 hid
      exact (hlives.1.identities.named row.identity (List.mem_map_of_mem hmem)).2
    rw [happ]
    exact Agent.beginResume_ok hid hrow' (Fits.stored hfits')

/-! ### A run of the mock deployment -/

def exampleArgs : RunArgs where
  providers := some (lit " mock-1,")
  overrides := {
    proposalQuorum := some 1
    juryQuorum := some 1
    minLineages := some 1
    maxStagePromptChars := some exampleMaxChars }
  callTimeoutSeconds := some (lit "5.5")

def exampleBase : FullConfig where
  seats := [1, 2, 3, 4].map mockSeat
  policy := {}
  deadline := lit "900.0"
  synthesisProvider := lit "mock-1"
  synthesisFallbacks := []

/-- The first seat, with its timeout cut. -/
def exampleSelected : FullConfig where
  seats := [(mockSeat 1).capped (lit "5.5")]
  policy := exampleEngine.policy
  deadline := lit "900.0"
  synthesisProvider := lit "mock-1"
  synthesisFallbacks := []

/-- The mock configuration of the example. -/
theorem exampleBase_loaded :
    configFor exampleLibraries (fun _ => none) true none = .ok exampleBase := rfl

/-- The longest prompt of the example has a length. -/
theorem exampleMaxChars_pos : 1 ≤ exampleMaxChars := by
  unfold exampleMaxChars
  omega

/-- The selection of the example passes the checks. -/
theorem exampleSelected_checked : exampleSelected.validate exampleLibraries = .ok () := by
  refine (validate_ok_iff _ _ _).2 {
    providers_ne_nil := by rintro ⟨⟩
    policy := ⟨by decide, by decide, by decide, by decide, by decide, by decide,
      exampleMaxChars_pos, by decide, by decide, by decide, by decide⟩
    endpoints := ?_
    lineages := ?_
    identities := List.nodup_nil
    chain_named := by decide
    chain_nodup := by decide
    chain_available := by decide }
  · intro p hp hlive
    obtain rfl := List.mem_singleton.1 hp
    cases hlive
  · intro p hp hlive
    obtain rfl := List.mem_singleton.1 hp
    cases hlive

/-- The mock selection of the example. -/
theorem exampleBase_selected :
    selectRunConfig exampleLibraries exampleBase exampleArgs = .ok exampleSelected :=
  Except.bind_ok_iff.2 ⟨[mockSeat 1], rfl, Except.bind_ok_iff.2 ⟨exampleSelected.seats, rfl,
    Except.bind_ok_iff.2 ⟨(lit "mock-1", []), rfl, unit_bind_ok_iff.2 ⟨exampleSelected_checked, rfl⟩⟩⟩⟩

/-- The names of a workload do not matter to its limits. -/
theorem estimateWorkload_names {rt : Runtime} {draws : Workload.PlanDraws} {question : Str}
    {names names' chain : List Str} {policy : RunPolicy} {w : Workload.Plan}
    (hnames : names'.length = names.length) (chain' : List Str)
    (h : Workload.estimateWorkload rt draws question names policy chain = .ok w)
    (hlimits : Workload.requireWorkloadWithinLimits w = .ok ()) :
    ∃ w', Workload.estimateWorkload rt draws question names' policy chain' = .ok w' ∧
      Workload.requireWorkloadWithinLimits w' = .ok () := by
  unfold Workload.estimateWorkload at h ⊢
  rw [hnames]
  obtain ⟨chars, hchars, h⟩ := Except.bind_ok_iff.1 h
  obtain ⟨capacity, hcapacity, h⟩ := Except.bind_ok_iff.1 h
  obtain rfl := Except.ok.inj h
  exact ⟨_, Except.bind_ok_iff.2 ⟨chars, hchars, Except.bind_ok_iff.2 ⟨capacity, hcapacity, rfl⟩⟩, hlimits⟩

/-- The configuration of the engine. -/
def exampleApp : AppConfig := exampleSelected.app exampleLibraries

def exampleLocal : Agent.Platform ℕ := exampleLibraries.platform Agent.exampleHmac 0

/-- The workload of the example can be estimated, and is within its limits. -/
theorem exampleApp_workload : ∃ w, Workload.estimateWorkload exampleRuntime ninesDraws
    (lit "Why?") exampleApp.names exampleApp.policy exampleApp.synthesisProviders = .ok w ∧
      Workload.requireWorkloadWithinLimits w = .ok () := by
  obtain ⟨w, hw, hlimits⟩ := Agent.example_workload
  have hticks : deadlineTicks exampleLibraries (lit "900.0") = 900 := by decide
  have hpolicy : exampleApp.policy = Agent.exampleConfig.policy := by
    show { exampleEngine.policy with
      deadlineSeconds := deadlineTicks exampleLibraries (lit "900.0") } = exampleEngine.policy
    rw [hticks]
    rfl
  have hlength : exampleApp.names.length = Agent.exampleConfig.names.length := by decide
  rw [hpolicy]
  exact estimateWorkload_names hlength _
    ((Agent.estimateWorkload_eq exampleRuntime _ rfl).trans hw) hlimits

/-- The plan of the example needs no approval. -/
theorem exampleApp_plan : ∃ plan, planRecord exampleLocal.toRuntime exampleLocal.urlparse
    ninesDraws exampleApp (lit "Why?") = .ok plan ∧ plan.approvalRequired = false := by
  obtain ⟨w, hw, hlimits⟩ := exampleApp_workload
  obtain ⟨hmax, hlargest⟩ := Agent.largestPrompt_le hw hlimits exampleMaxChars_nonneg
  obtain ⟨hmandatory, hrecovery⟩ := Agent.estimateWorkload_calls hw
  have hchars : Approval.tooLarge (Approval.promptChars exampleApp.toRunConfig w) = false := by
    refine Agent.not_tooLarge (by decide) ?_ ?_ hlargest
    · rw [hmax]
      show 16 * exampleMaxChars < 2 ^ 53
      have hsmall := exampleMaxChars_lt
      omega
    · rw [hmandatory, hrecovery]
      decide
  have hdiversity : lineageReport exampleLocal.toRuntime exampleLocal.urlparse
      exampleApp.providers =
        .ok (Lineages.toDict { lineages := [lit "mock-lineage-1"] }) := by decide +kernel
  have hmaterial : Json.fieldsWritable (Agent.planMaterial exampleLocal.toRuntime
      exampleApp (lit "Why?") w (Lineages.toDict { lineages := [lit "mock-lineage-1"] })) =
        true := by
    have hworkload := Agent.writable_workload hw (by decide) (by decide)
    have hestimate : Json.fieldsWritable
        (Approval.costEstimate exampleApp.toRunConfig w).toDict = true := by
      have hproviders : (Approval.costEstimate exampleApp.toRunConfig w).providers =
          [(lit "mock-1", lit "mock-model-1")] := by rfl
      unfold Approval.CostEstimate.toDict
      simp only [hproviders, List.map_cons, List.map_nil, Json.fieldsWritable, Json.writable,
        Json.itemsWritable, encodable_lit, Bool.and_true]
    simp only [Agent.planMaterial, Json.fieldsWritable, Json.writable, hworkload, hestimate,
      Bool.and_true]
    decide
  exact ⟨_, Agent.planRecord_ok hw hchars (by decide) hdiversity hmaterial, rfl⟩

/-- The row of the run. -/
def exampleLocked : Runs.Row :=
  Runs.createdRow exampleLocal.toRuntime Agent.exampleStamp (lit "1")
    (Agent.runRequest exampleLocal.toRuntime exampleApp (lit "Why?")) none

def exampleDirectory : Agent.Vault ℕ where
  tables := { runs := [exampleLocked] }

/-- The engine of the example fits the run that was created from it. -/
theorem exampleLocked_fits : Fits exampleLibraries.toRuntime exampleApp exampleLocked :=
  ⟨rfl, rfl, rfl, rfl⟩

/-- The request of the run is accepted. -/
theorem exampleLocked_checks : (Agent.runRequest exampleLocal.toRuntime exampleApp
    (lit "Why?")).checks exampleLocal.toRuntime = .ok () :=
  Runs.Request.checks_ok (by decide) (by decide) (by decide) (by decide) (by decide +kernel)
    (by decide +kernel)
    (Agent.runRequest_encodes (by decide) Agent.example_policy_dumpable rfl (by decide +kernel))

/-- The run of the example is created. -/
theorem exampleDirectory_created : (Agent.createRun exampleLocal Agent.exampleEnv exampleApp
    (lit "Why?") none).alone {} = (.ok (lit "1"), exampleDirectory) := by
  obtain ⟨w, hw, hlimits⟩ := exampleApp_workload
  have hstrip : Str.strip (lit "Why?") = lit "Why?" := by decide
  have hchecked : Agent.checkRun exampleLocal.toRuntime Agent.exampleEnv.run exampleApp
      (lit "Why?") = .ok () := Agent.checkRun_ok (by decide) (hstrip.symm ▸ hw) hlimits
  have hcreated : (Runs.createRun exampleLocal.toRuntime
      { now := Agent.exampleStamp
        uuid := Agent.exampleUuid
        request := Agent.runRequest exampleLocal.toRuntime exampleApp (lit "Why?")
        idempotencyKey := none }).run {} = (.ok (lit "1"), { runs := [exampleLocked] }) :=
    Runs.createRun_ok_iff.2 ⟨⟨exampleLocked_checks, by decide, by decide, by decide⟩,
      .inserted rfl (by decide) rfl⟩
  have huuid : (Agent.look fun v => Agent.exampleEnv.draw v.tables).alone ({} : Agent.Vault ℕ) =
      (.ok Agent.exampleUuid, {}) := rfl
  unfold Agent.createRun
  refine (alone_bind_ok (Agent.alone_computed hchecked)).trans ((alone_bind_ok huuid).trans ?_)
  refine (Agent.alone_onTables (v := {}) hcreated rfl).trans ?_
  rfl

/-- The directory after the work. -/
def exampleWorked : Agent.Vault ℕ := { exampleDirectory with resumed := [lit "1"] }

/-- The work on the example's run is begun. -/
theorem exampleDirectory_resumed : (Agent.resume exampleLocal exampleApp (lit "1")).alone
    exampleDirectory = (.ok (), exampleWorked) :=
  (alone_perform _ _).trans (Agent.beginResume_ok (by decide) rfl exampleLocked_fits)

/-- The guarded run of the example, from its creation to its work. -/
theorem exampleDirectory_ran : (Agent.guardedRun exampleLocal Agent.exampleEnv ninesDraws
    { config := exampleApp
      question := lit "Why?" }).alone {} = (.ok (.ran (lit "1")), exampleWorked) := by
  obtain ⟨plan, hplan, hrequired⟩ := exampleApp_plan
  have hengine : engineOf Agent.exampleEnv.deployment exampleApp = .ok exampleApp := rfl
  unfold Agent.guardedRun
  refine (alone_bind_ok (Agent.alone_computed hplan)).trans ?_
  rw [hrequired, if_neg Bool.false_ne_true]
  refine (alone_bind_ok (Agent.alone_computed hengine)).trans ?_
  refine (alone_bind_ok exampleDirectory_created).trans ?_
  exact (alone_bind_ok exampleDirectory_resumed).trans rfl

/-- What is there after the work, and what was answered. -/
def exampleRan : Agent.Vault ℕ × List (Agent.Program ℕ Agent.Answer) :=
  (exampleWorked, [.done (.ok (.ran (lit "1")))])

/-- The life of the run. -/
theorem exampleRan_lives :
    Lives (exampleLibraries.platform Agent.exampleHmac 0) ({}, []) exampleRan :=
  Agent.lives_task (.run Agent.exampleEnv ninesDraws
    { config := exampleApp
      question := lit "Why?" }) exampleDirectory_ran

/-- The run of the example can be taken up again by the selected engine. -/
theorem exampleRan_resumes : (Agent.beginResume exampleLibraries.toRuntime
    (exampleSelected.app exampleLibraries) (lit "1")).run exampleRan.1 =
      (.ok (), { exampleRan.1 with resumed := exampleRan.1.resumed ++ [lit "1"] }) :=
  Agent.beginResume_ok (by decide) rfl exampleLocked_fits

/-- The directory after an event of the run's work. -/
def exampleLater : Agent.Vault ℕ := { exampleWorked with
  tables := {
    runs := [exampleLocked]
    events := [⟨1, lit "1", lit "run_started", [], Agent.exampleStamp⟩]
    nextEventId := 2 } }

/-- Another program writes to the log of the example's run. -/
theorem exampleLater_written :
    ((Agent.Task.write (.event Agent.exampleStamp (lit "1") (lit "run_started") [])).program
      (exampleLibraries.platform Agent.exampleHmac 0)).alone exampleWorked =
        (.ok .wrote, exampleLater) := by
  have hevent : (Agent.appendEvent exampleRuntime Agent.exampleStamp (lit "1")
      (lit "run_started") []).run { runs := [exampleLocked] } =
        (.ok (), exampleLater.tables) := rfl
  exact (alone_bind_ok (Agent.alone_onTables hevent rfl)).trans rfl

/-- What is there later: another program has written to the run. -/
def exampleEnd : Agent.Vault ℕ × List (Agent.Program ℕ Agent.Answer) :=
  (exampleLater, .done (.ok .wrote) :: exampleRan.2)

/-- The life of the example goes on to a second resume. -/
theorem exampleEnd_lives :
    Lives (exampleLibraries.platform Agent.exampleHmac 0) exampleRan exampleEnd :=
  Agent.lives_task (.write (.event Agent.exampleStamp (lit "1") (lit "run_started") []))
    exampleLater_written

/-- A run is created and worked on, others write to its log, and a resume by the deployment reads
the configuration of the lock back, with the same plan. -/
theorem resume_same_plan_example :
    (Lives (exampleLibraries.platform Agent.exampleHmac 0) ({}, []) exampleRan ∧
      Lives (exampleLibraries.platform Agent.exampleHmac 0) exampleRan exampleEnd ∧
      configFor exampleLibraries (fun _ => none) true none = .ok exampleBase ∧
      configFor exampleLibraries (fun _ => none) false none = .ok liveBase ∧
      selectRunConfig exampleLibraries exampleBase exampleArgs = .ok exampleSelected) ∧
    (∃ row, exampleEnd.1.tables.run (lit "1") = some row ∧
      ∃ locked, lockedResumeConfig exampleLibraries exampleBase row = .ok locked ∧
        locked.names = exampleSelected.names) ∧
    ∃ row, exampleEnd.1.tables.run (lit "1") = some row ∧
      lockedResumeConfig exampleLibraries liveBase row = .error (.valueError
        (lit "Stored run mode differs from the requested deployment mode")) := by
  refine ⟨⟨exampleRan_lives, exampleEnd_lives, exampleBase_loaded, liveBase_loaded,
    exampleBase_selected⟩, ?_, ?_⟩
  · obtain ⟨row, hrow, -, hsame⟩ := resume_same_plan exampleRan_lives exampleEnd_lives
      exampleBase_loaded exampleBase_selected exampleRan_resumes exampleBase_loaded
    obtain ⟨locked, hread, hnames, -, -⟩ := hsame rfl
    exact ⟨row, hrow, locked, hread, hnames⟩
  · obtain ⟨row, hrow, hother, -⟩ := resume_same_plan exampleRan_lives exampleEnd_lives
      exampleBase_loaded exampleBase_selected exampleRan_resumes liveBase_loaded
    exact ⟨row, hrow, hother (by decide)⟩

end Config
end CouncilLogic
