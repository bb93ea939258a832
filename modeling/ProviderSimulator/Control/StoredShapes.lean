/-
**The shapes that a stored block is known to have.**

Most fields of a stored block may hold any JSON value. Four are checked when they are given, and so they
are known in every state that a run reaches: `fail_first_n` is a count, `error_probability` a number, a
chosen field is null or an object, and `responses` is an object whose canned bodies are objects with a
status of the HTTP range. `Shaped` is what the request flow relies on of these.

* `normaliseResponses_shape` — what the rules of `responses` leave true of it;
* `run_shaped` — every run.
-/

import Mathlib.Tactic.Common
import ProviderSimulator.Control.ChosenMetadata

namespace ProviderSimulator.Control

open ProviderSimulator.Lib ProviderSimulator.Python ProviderSimulator.Domain

/-- A stored `responses`: an object, in which each canned body under a method name passes its rules. -/
def ResponsesShape (responses : Value) : Prop :=
  ∃ entries, responses = .dict entries ∧ ∀ name cfg, Dict.get entries (.text name) = some (.dict cfg) →
    badCannedBody name cfg = .ok ()

/-- What is known of a stored block. -/
structure Shaped (values : Scenario) : Prop where
  counted : Counted values
  probability : isProbability (values .errorProbability) = true
  headers : isChosen (values .replyHeaders) = true
  trailers : isChosen (values .replyTrailers) = true
  responses : ResponsesShape (values .responses)

theorem Shaped.default : Shaped ScenarioConfig.default.values :=
  ⟨Counted.default, by decide, rfl, rfl, [], rfl, nofun⟩

/-! ### The rules of `responses` -/

/-- The pairs of a REST list name routes only. -/
theorem normaliseRoutes_text {pairs : List Value} {out stored : Dict Key Value}
    (passed : normaliseRoutes pairs out = .ok stored) (name : String)
    (absent : out.get (.text name) = none) : stored.get (.text name) = none := by
  induction pairs generalizing out with
  | nil =>
      cases passed
      exact absent
  | cons pair rest ih =>
      have route : ∀ verb template cfg, (do
          let first ← routePart verb
          let second ← routePart template
          normaliseRoutes rest (Dict.set out (.pair first second) cfg)) = .ok stored →
            stored.get (.text name) = none := by
        intro verb template cfg later
        obtain ⟨first, -, later⟩ := bind_eq_ok later
        obtain ⟨second, -, later⟩ := bind_eq_ok later
        have other : Key.pair first second ≠ .text name := nofun
        refine ih later ?_
        rw [Dict.get_set_of_ne _ other]
        exact absent
      unfold normaliseRoutes at passed
      split at passed
      · next same => cases same
      · next _ _ verb template cfg others same =>
          cases same
          dsimp only at passed
          split at passed
          · obtain ⟨_, -, later⟩ := bind_eq_ok passed
            exact route verb template _ later
          · exact route verb template _ passed
      · cases passed
      · cases passed

/-- The methods of an object pass their rules one by one. -/
theorem normaliseMethods_canned {entries : List (Key × Value)} (passed : normaliseMethods entries = .ok ())
    {name : String} {cfg : List (Key × Value)} (member : (.text name, .dict cfg) ∈ entries) :
    badCannedBody name cfg = .ok () := by
  induction entries with
  | nil => cases member
  | cons item rest ih =>
      obtain ⟨key, value⟩ := item
      have later : normaliseMethods rest = .ok () := by
        unfold normaliseMethods at passed
        dsimp only at passed
        split at passed
        · obtain ⟨_, -, passed⟩ := bind_eq_ok passed
          split at passed
          · obtain ⟨_, -, passed⟩ := bind_eq_ok passed
            exact passed
          · exact passed
        · exact passed
      rcases List.mem_cons.mp member with here | there
      · cases here
        unfold normaliseMethods at passed
        obtain ⟨_, -, canned⟩ := bind_eq_ok passed
        obtain ⟨_, canned, -⟩ := bind_eq_ok canned
        exact canned
      · exact ih later there

/-- **What the rules of `responses` leave true of it.** -/
theorem normaliseResponses_shape {value stored : Value} (passed : normaliseResponses value = .ok stored) :
    ResponsesShape stored := by
  unfold normaliseResponses at passed
  split at passed
  · obtain ⟨out, routes, same⟩ := bind_eq_ok passed
    cases same
    refine ⟨out, rfl, fun name cfg found => ?_⟩
    rw [normaliseRoutes_text routes name rfl] at found
    cases found
  · obtain ⟨_, methods, same⟩ := bind_eq_ok passed
    cases same
    exact ⟨_, rfl, fun name cfg found => normaliseMethods_canned methods (Dict.get_mem found)⟩
  · cases passed

/-! ### Every run -/

theorem Shaped.over {layout : Layout} {state : Stored} {key : String} {entries : List (Key × Value)}
    {staged : Staged} (passed : Passed layout state key entries staged) {old : Scenario}
    (shaped : Shaped old) : Shaped (staged.scenario.over old) := by
  have chosen : ∀ field, validateChosen staged.scenario field = .ok () → isChosen (old field) = true →
      isChosen (staged.scenario.over old field) = true := by
    intro field valid before
    rcases staged.scenario.over_given old field with new | same
    · rw [new]
      exact validateChosen_eq_ok valid
    · rw [same]
      exact before
  have valid := passed.scenario
  obtain ⟨_, -, valid⟩ := bind_eq_ok valid
  obtain ⟨_, -, valid⟩ := bind_eq_ok valid
  obtain ⟨_, -, valid⟩ := bind_eq_ok valid
  obtain ⟨_, -, valid⟩ := bind_eq_ok valid
  obtain ⟨_, -, valid⟩ := bind_eq_ok valid
  obtain ⟨_, headers, trailers⟩ := bind_eq_ok valid
  refine ⟨Counted.over passed shaped.counted, ?_, chosen _ headers shaped.headers,
    chosen _ trailers shaped.trailers, ?_⟩
  · rw [Block.over_eq]
    cases given : staged.scenario.items.get .errorProbability with
    | none => exact shaped.probability
    | some value => exact badNumber_errorProbability (passed.numbers .errorProbability value nofun given)
  · have read := passed.reads.scenario .responses
    rw [Block.over_eq]
    split at read
    · rw [read]
      exact shaped.responses
    · obtain ⟨stored, given, form⟩ := read
      rw [given]
      exact normaliseResponses_shape form

/-- **Every stored block has these shapes.** -/
theorem run_shaped {layout : Layout} {actions : List WriteAction} {final : Stored}
    (done : run (writeStep layout) (initial layout) actions = some final) (key : ProviderKey) :
    Shaped (final key).scenario.values := by
  have start : ∀ key, Shaped (initial layout key).scenario.values := by
    intro key
    rw [initial_values]
    exact Shaped.default
  refine run_invariant (fun state : Stored => ∀ key, Shaped (state key).scenario.values) ?_ done start key
  intro state action next stepped held
  exact writeStep_keeps Shaped.default (fun _ _ _ _ passed _ => Shaped.over passed) stepped held

end ProviderSimulator.Control
