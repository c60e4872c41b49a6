import WorkerAdvisor.Proofs.Analysis
import WorkerAdvisor.Proofs.Signal.Specifier

/-!
The findings of the rules against modules.

The default catalog has one rule for each module that is not available, and the ids of these rules begin alike. So their
findings are those of the modules that are referred to, in the order of the catalog (`Analysis.moduleFindings_eq`). No
name of such a module holds quotes, begins with a scheme, or is found again where it stands behind a scheme. A specifier
therefore names one module at most (`Catalog.eq_of_names`), and the module findings of a source are given by its
specifiers (`Analysis.moduleFindings_by_specifiers`).
-/

set_option autoImplicit false

namespace WorkerAdvisor

open Source

namespace Catalog

/-! ### The modules of the catalog -/

/-- What the ids of the rules against modules begin with. -/
def modulePrefix : List Char := "node-module-".toList

/-- The ids of module rules have a common beginning. -/
theorem modulePrefix_isPrefix (module : String) : modulePrefix <+: (moduleRule module).id.toList := by
  change modulePrefix <+: ("node-module-" ++ module).toList
  rw [String.toList_append]
  exact List.prefix_append _ _

/-- The rules against modules are those whose ids begin so. -/
theorem filter_default :
    default.filter (fun rule ↦ modulePrefix.isPrefixOf rule.id.toList) = unavailableModules.map moduleRule := by
  have hmodules : (unavailableModules.map moduleRule).filter (fun rule ↦ modulePrefix.isPrefixOf rule.id.toList) =
      unavailableModules.map moduleRule := by
    refine List.filter_eq_self.2 fun rule hrule ↦ ?_
    obtain ⟨module, -, rfl⟩ := List.mem_map.1 hrule
    exact List.isPrefixOf_iff_prefix.2 (modulePrefix_isPrefix module)
  rw [default, List.filter_append, hmodules]
  refine (congrArg _ (List.filter_eq_nil_iff.2 ?_)).trans (List.append_nil _)
  simp only [List.forall_mem_cons]
  decide

theorem nodup_unavailableModules : unavailableModules.Nodup := by
  have hids := nodup_ids
  rw [default, List.map_append, List.nodup_append, List.map_map] at hids
  exact hids.1.of_map _

/-- No name of an unavailable module holds a quote. -/
theorem quote_not_mem_unavailable :
    ∀ module ∈ unavailableModules, ∀ quote ∈ quotes, quote ∉ module.toList := by
  have hplain : ∀ module ∈ unavailableModules, '\'' ∉ module.toList ∧ '"' ∉ module.toList := by decide
  intro module hmodule
  simpa [quotes] using hplain module hmodule

/-- No name of an unavailable module is another one with a scheme, nor begins its own name with a scheme. -/
theorem not_prefix_scheme :
    (∀ module ∈ unavailableModules, ¬ "node:".toList <+: module.toList) ∧
      ∀ module ∈ unavailableModules, ¬ module.toList <+: "node:".toList ++ module.toList := by
  decide

/-- A specifier names one unavailable module at most. -/
theorem eq_of_names {specifier : List Char} {module other : String} (hmodule : module ∈ unavailableModules)
    (hother : other ∈ unavailableModules) (hnames : Names specifier module) (hnames' : Names specifier other) :
    module = other := by
  obtain ⟨scheme, hscheme, rfl⟩ := hnames
  obtain ⟨scheme', hscheme', hsame⟩ := hnames'
  simp only [schemes, List.mem_cons, List.not_mem_nil, or_false] at hscheme hscheme'
  rcases hscheme with rfl | rfl
  · rcases hscheme' with rfl | rfl
    · exact String.toList_inj.1 hsame
    · exact absurd ⟨other.toList, hsame.symm⟩ (not_prefix_scheme.1 module hmodule)
  · rcases hscheme' with rfl | rfl
    · exact absurd ⟨module.toList, hsame⟩ (not_prefix_scheme.1 other hother)
    · exact String.toList_inj.1 (List.append_cancel_left hsame)

/-- A specifier that names an unavailable module and begins with its name is its name. -/
theorem eq_of_names_of_isPrefix {specifier : List Char} {module : String} (hmodule : module ∈ unavailableModules)
    (hnames : Names specifier module) (hbegins : module.toList <+: specifier) : specifier = module.toList := by
  obtain ⟨scheme, hscheme, rfl⟩ := hnames
  simp only [schemes, List.mem_cons, List.not_mem_nil, or_false] at hscheme
  rcases hscheme with rfl | rfl
  · rfl
  · exact absurd hbegins (not_prefix_scheme.2 module hmodule)

end Catalog

namespace Source

/-- A specifier is never shorter than the name of a module that it names. -/
theorem Names.eq_of_isPrefix {specifier : List Char} {module : String} (hnames : Names specifier module)
    (hbegins : specifier <+: module.toList) : specifier = module.toList := by
  obtain ⟨scheme, -, rfl⟩ := hnames
  exact hbegins.eq_of_length_le (by simp)

end Source

namespace Analysis

open Catalog

/-! ### Findings -/

/-- The findings of the rules against modules. -/
def moduleFindings (code : String) : List Finding :=
  (findings Catalog.default code).filter fun finding ↦ modulePrefix.isPrefixOf finding.ruleId.toList

/-- The module findings are those of the modules that are referred to, in the order of the catalog. -/
theorem moduleFindings_eq (code : String) :
    moduleFindings code =
      (unavailableModules.filter (Signal.moduleReference · |>.detects code)).map (Finding.ofRule ∘ moduleRule) := by
  calc moduleFindings code
      = ((Catalog.default.filter fun rule ↦ modulePrefix.isPrefixOf rule.id.toList).filter
          fun rule ↦ rule.trigger code).map Finding.ofRule := by
        rw [moduleFindings, findings, List.filter_map, List.filter_filter, List.filter_filter]
        simp only [Function.comp_def, Bool.and_comm]
        rfl
    _ = _ := by
        rw [filter_default, List.filter_map, List.map_map]
        rfl

/-- A module is referred to exactly if its name, perhaps with a scheme, stands between two quotes of the same kind behind
a lead. The findings of the rules against modules are those of the unavailable modules that the specifiers of the source
name, in the order of the catalog and once each. A specifier names one of these modules at most, and none that it goes
beyond or falls short of. -/
theorem moduleFindings_by_specifiers (code : String) :
    (∀ module : String, (Signal.moduleReference module).detects code = true ↔
      ∃ before lead quote scheme after,
        code.toList = before ++ lead ++ [quote] ++ scheme ++ module.toList ++ [quote] ++ after ∧
          ¬ EndsInWord before ∧ IsLead lead ∧ quote ∈ quotes ∧ scheme ∈ schemes) ∧
      (∃ modules : List String, modules.Sublist unavailableModules ∧ modules.Nodup ∧
        (∀ module, module ∈ modules ↔
          module ∈ unavailableModules ∧ ∃ specifier, IsSpecifier code.toList specifier ∧ Names specifier module) ∧
        moduleFindings code = modules.map (Finding.ofRule ∘ moduleRule)) ∧
      ∀ specifier, IsSpecifier code.toList specifier → ∀ module ∈ unavailableModules, Names specifier module →
        (∀ other ∈ unavailableModules, Names specifier other → other = module) ∧
          (module.toList <+: specifier ∨ specifier <+: module.toList → specifier = module.toList) := by
  refine ⟨fun module ↦ occursIn_moduleReference_iff, ?_, fun specifier _ module hmodule hnames ↦ ⟨?_, ?_⟩⟩
  · refine ⟨_, List.filter_sublist, nodup_unavailableModules.filter _, fun module ↦ ?_, moduleFindings_eq code⟩
    rw [List.mem_filter]
    exact and_congr_right fun hmodule ↦ occursIn_moduleReference_iff_exists (quote_not_mem_unavailable module hmodule)
  · exact fun other hother hnames' ↦ eq_of_names hother hmodule hnames' hnames
  · rintro (hbeyond | hshort)
    · exact eq_of_names_of_isPrefix hmodule hnames hbeyond
    · exact hnames.eq_of_isPrefix hshort

/-- A specifier with a scheme, whose module begins like another one. -/
theorem moduleFindings_of_scheme :
    let code := "import 'node:https'"
    (moduleFindings code).map (·.ruleId) = ["node-module-https"] ∧
      IsSpecifier code.toList "node:https".toList ∧ Names "node:https".toList "https" ∧
      ∀ other ∈ unavailableModules, Names "node:https".toList other → other = "https" := by
  intro code
  have hlead : IsLead ("import".toList ++ [' '] ++ [] ++ []) :=
    .intro (by decide) (by decide) (by decide) (by decide)
  have hspecifier : IsSpecifier code.toList "node:https".toList :=
    ⟨[], _, '\'', [], by decide, by decide, hlead, by decide, by decide⟩
  have hnames : Names "node:https".toList "https" := ⟨"node:".toList, by decide, by decide⟩
  obtain ⟨-, -, hone⟩ := moduleFindings_by_specifiers code
  exact ⟨by decide, hspecifier, hnames, (hone _ hspecifier "https" (by decide) hnames).1⟩

end Analysis

end WorkerAdvisor
