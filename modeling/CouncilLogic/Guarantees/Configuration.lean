/-
# What validated configurations are

`validate_synthesis_providers` and `validate_run_policy` accept a configuration exactly when it is
`Sane`: the numbers of its policy fit its providers, no OpenRouter seat declares a lineage that
its model contradicts, the endpoints of the live seats can be parsed and their models are
different, and the chain names different seats.  An engine that can be built from it is never
refused by its own constructor.

Both functions are in `src/model_council/config.py`; the constructor is `CouncilEngine.__init__`
in `src/model_council/engine.py`, which checks the numbers once more.
-/

import CouncilLogic.ConfigLaws
import CouncilLogic.Engine.Creation

namespace CouncilLogic
namespace Config

variable {rt : Runtime} {urlparse : Str → Except PyErr Url} {config : AppConfig}
  {providers : List ProviderConfig}

/-! ### What is required -/

/-- What a run needs of the configuration it is created from. -/
structure Sane (rt : Runtime) (urlparse : Str → Except PyErr Url) (config : AppConfig) : Prop where
  providers_ne_nil : config.providers ≠ []
  policy : config.policy.Valid config.providers.length
    (config.providers.map ProviderConfig.lineage).dedup.length config.synthesisProviders.length
  endpoints : ∀ p ∈ config.providers, Parsed urlparse p
  lineages : ∀ p ∈ config.providers, SeatTrue rt urlparse p
  identities : (liveIdentities rt urlparse config.providers).Nodup
  chain_named : ∀ name ∈ config.synthesisProviders, Str.isBlank name = false
  chain_nodup : config.synthesisProviders.Nodup
  chain_available : config.synthesisProviders ⊆ config.names

/-! ### The checks -/

/-- **A policy is accepted** when its numbers fit the providers and the report on the lineages has
neither a mismatch nor a duplicate. -/
theorem validateRunPolicy_ok_iff {policy : RunPolicy} {s : ℕ} :
    validateRunPolicy rt urlparse policy providers s = .ok () ↔ providers ≠ [] ∧ 1 ≤ s ∧
      policy.Valid providers.length (providers.map ProviderConfig.lineage).dedup.length s ∧
      (∀ p ∈ providers, Parsed urlparse p) ∧ (∀ p ∈ providers, SeatTrue rt urlparse p) ∧
      (liveIdentities rt urlparse providers).Nodup := by
  unfold validateRunPolicy
  simp only [refuse_bind_ok_iff, refuse_ok_iff, report_bind_ok_iff, not_lt, not_le, ne_eq, not_not]
  constructor
  · rintro ⟨hne, hproposal, hjury, hlineages, hdeadline, hparallel, hquestion, hprompt, hrepair,
      htruncation, hrecovery, hproposal', hjury', l, hl, hmismatches, hduplicates, hcount, hs,
      hcalls⟩
    have htrue := (mismatches_eq_nil_iff hl).1 hmismatches
    rw [count_eq hl htrue] at hcount
    exact ⟨hne, hs, ⟨⟨hproposal, hproposal'⟩, ⟨hjury, hjury'⟩, ⟨hlineages, hcount⟩, hdeadline,
      hparallel, hquestion, hprompt, hrepair, htruncation, hrecovery, hcalls⟩,
      lineagesOf_ok_iff.1 ⟨l, hl⟩, htrue, (duplicates_eq_nil_iff hl).1 hduplicates⟩
  · rintro ⟨hne, hs, hvalid, hparsed, htrue, hdistinct⟩
    obtain ⟨l, hl⟩ : ∃ l, lineagesOf rt urlparse providers = .ok l :=
      lineagesOf_ok_iff.2 hparsed
    have hcount := hvalid.min_lineages.2
    rw [← count_eq hl htrue] at hcount
    exact ⟨hne, hvalid.proposal_quorum.1, hvalid.jury_quorum.1, hvalid.min_lineages.1,
      hvalid.deadline, hvalid.max_parallel_calls, hvalid.max_question_chars,
      hvalid.max_stage_prompt_chars, hvalid.jury_repair_attempts, hvalid.truncation_retries,
      hvalid.max_recovery_output_tokens, hvalid.proposal_quorum.2, hvalid.jury_quorum.2, l, hl,
      (mismatches_eq_nil_iff hl).2 htrue, (duplicates_eq_nil_iff hl).2 hdistinct, hcount, hs,
      hvalid.max_calls⟩

/-- **A chain is accepted** when it names different seats of the configuration, none of them
blank. -/
theorem validateSynthesisProviders_ok_iff {first : Str} {fallbacks chain : List Str} :
    validateSynthesisProviders first fallbacks providers = .ok chain ↔
      chain = first :: fallbacks ∧ (∀ name ∈ chain, Str.isBlank name = false) ∧ chain.Nodup ∧
        chain ⊆ providers.map ProviderConfig.name := by
  unfold validateSynthesisProviders
  simp only [refuse_bind_ok_iff, Except.ok.injEq, ne_eq, not_not, List.filter_eq_nil_iff,
    decide_eq_true_iff, Bool.not_eq_true, List.any_eq_false]
  constructor
  · rintro ⟨hnamed, hnodup, havailable, rfl⟩
    exact ⟨rfl, hnamed, hnodup, havailable⟩
  · rintro ⟨rfl, hnamed, hnodup, havailable⟩
    exact ⟨hnamed, hnodup, havailable, rfl⟩

/-- **Exactly the sane configurations are validated.** -/
theorem validate_ok_iff (rt : Runtime) (urlparse : Str → Except PyErr Url) (config : AppConfig) :
    validate rt urlparse config = .ok () ↔ Sane rt urlparse config := by
  unfold validate
  cases hchain : validateSynthesisProviders config.synthesisProvider config.synthesisFallbacks
      config.providers with
  | error e =>
    refine iff_of_false (by rintro ⟨⟩) fun h => ?_
    have hok := validateSynthesisProviders_ok_iff.2
      ⟨rfl, h.chain_named, h.chain_nodup, h.chain_available⟩
    rw [hchain] at hok
    cases hok
  | ok chain =>
    obtain ⟨rfl, hnamed, hnodup, havailable⟩ := validateSynthesisProviders_ok_iff.1 hchain
    exact (validateRunPolicy_ok_iff (s := config.synthesisProviders.length)).trans
      ⟨fun ⟨hne, _, hvalid, hparsed, htrue, hdistinct⟩ =>
        ⟨hne, hvalid, hparsed, htrue, hdistinct, hnamed, hnodup, havailable⟩,
        fun h => ⟨h.providers_ne_nil, Nat.succ_pos _, h.policy, h.endpoints, h.lineages,
          h.identities⟩⟩

/-! ### Engines -/

/-- **A validated configuration builds an engine** exactly when each of its providers can be
built: the constructor of the engine never refuses it, and the engine has the names, the policy
and the chain of the configuration. -/
theorem validated_builds (rt : Runtime) (urlparse : Str → Except PyErr Url) (d : Deployment)
    {config : AppConfig} (h : validate rt urlparse config = .ok ()) :
    (∀ p ∈ config.providers, Buildable d p) ↔ ∃ engine, engineOf d config = .ok engine ∧
      engine.toRunConfig.Accepted ∧ (∀ name, name ∈ engine.names ↔ name ∈ config.names) ∧
      engine = { config with providers := engine.providers } := by
  have hsane := (validate_ok_iff rt urlparse config).1 h
  obtain ⟨hnodup, hmem⟩ := @names_foldl_put config.providers [] List.nodup_nil
  simp only [List.map_nil, List.not_mem_nil, false_or] at hmem
  constructor
  · intro hbuild
    have hproviders := providersOf_ok_iff.2 ⟨hbuild, rfl⟩
    have haccepted : RunConfig.Accepted
        ⟨config.providers.foldl put [], config.policy, config.synthesisProvider,
          config.synthesisFallbacks⟩ := by
      refine ⟨fun hnil => ?_, hnodup, hsane.chain_nodup,
        fun name hname => (hmem name).2 (hsane.chain_available hname), ?_⟩
      · obtain ⟨p, rest, hp⟩ := List.exists_cons_of_ne_nil hsane.providers_ne_nil
        have hname : p.name ∈ config.providers.map ProviderConfig.name := by
          rw [hp]
          exact List.mem_cons_self
        have hbuilt := (hmem _).2 hname
        rw [show config.providers.foldl put [] = [] from hnil] at hbuilt
        cases hbuilt
      · have hlength : (config.providers.foldl put []).length ≤ config.providers.length := by
          have hsub := (hnodup.subperm fun name hname => (hmem name).1 hname).length_le
          rwa [List.length_map, List.length_map] at hsub
        have hcalls := hsane.policy.max_calls
        show ((config.providers.foldl put []).length : ℤ) * 2 + config.synthesisProviders.length ≤
          config.policy.maxCalls
        omega
    refine ⟨{ config with providers := config.providers.foldl put [] }, ?_, haccepted, hmem, rfl⟩
    unfold engineOf
    rw [hproviders]
    simp only [bind, Except.bind]
    rw [(engineInit_ok_iff haccepted.names_nodup).2 haccepted]
  · rintro ⟨engine, hengine, -⟩
    unfold engineOf at hengine
    cases hproviders : providersOf d config.providers with
    | error e =>
      rw [hproviders] at hengine
      cases hengine
    | ok built => exact (providersOf_ok_iff.1 hproviders).1

/-- `urlparse` of a text with a scheme and a host that is followed by a slash. -/
def exampleUrlparse (url : Str) : Except PyErr Url :=
  .ok ⟨url.takeWhile fun c => decide (c ≠ 58),
    some (((url.dropWhile fun c => decide (c ≠ 58)).drop 3).takeWhile fun c => decide (c ≠ 47)),
    .ok none, none, none, [], []⟩

/-- The configuration of mock seats is accepted, and the engine that is built from it is not
refused. -/
theorem validated_builds_example :
    validate exampleRuntime exampleUrlparse mockConfig = .ok () ∧
      ∃ engine, engineOf ⟨fun _ => .ok none, fun _ _ => .ok ()⟩ mockConfig = .ok engine ∧
        engine.toRunConfig.Accepted := by
  have hvalid : validate exampleRuntime exampleUrlparse mockConfig = .ok () := by decide +kernel
  have hbuild := validated_builds exampleRuntime exampleUrlparse
    ⟨fun _ => .ok none, fun _ _ => .ok ()⟩ hvalid
  have hmock : ∀ p ∈ mockConfig.providers,
      Buildable ⟨fun _ => .ok none, fun _ _ => .ok ()⟩ p := by
    intro p hp
    have hkey : ∀ q ∈ mockConfig.providers,
        keyOf ⟨fun _ => .ok none, fun _ _ => .ok ()⟩ q = .ok (lit "mock-only-sentinel") := by
      decide +kernel
    exact ⟨_, hkey p hp, by decide, rfl⟩
  obtain ⟨engine, hengine, haccepted, -⟩ := hbuild.1 hmock
  exact ⟨hvalid, engine, hengine, haccepted⟩

end Config
end CouncilLogic
