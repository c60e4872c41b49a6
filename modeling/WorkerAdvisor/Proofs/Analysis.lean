import Mathlib.Data.List.Nodup
import WorkerAdvisor.Analysis

/-!
The findings of a catalog in two sources, and of the default catalog rule by rule.

Two sources have the same findings if no rule of the catalog tells them apart (`Analysis.findings_congr`). The ids of
the default catalog differ from each other, so that an id is among those of the findings exactly if its rule applies
(`Analysis.ruleId_mem_iff`).
-/

set_option autoImplicit false

namespace WorkerAdvisor

/-- If the elements of a list have different keys, the key of one of them tells whether it is selected. -/
theorem key_mem_filter_iff {α κ : Type} {key : α → κ} {all : List α} (hkeys : (all.map key).Nodup)
    (selected : α → Bool) {element : α} (hmem : element ∈ all) :
    key element ∈ (all.filter selected).map key ↔ selected element = true := by
  simp only [List.mem_map, List.mem_filter]
  constructor
  · rintro ⟨other, ⟨hother, hchosen⟩, hkey⟩
    rwa [List.inj_on_of_nodup_map hkeys hother hmem hkey] at hchosen
  · exact fun hchosen ↦ ⟨element, ⟨hmem, hchosen⟩, rfl⟩

/-- No two rules of the catalog have the same id. -/
theorem Catalog.nodup_ids : (Catalog.default.map (·.id)).Nodup := by decide +kernel

namespace Analysis

/-- Two sources with the same triggers have the same findings. -/
theorem findings_congr {catalog : List Rule} {first second : String}
    (htrigger : ∀ rule ∈ catalog, rule.trigger first = rule.trigger second) :
    findings catalog first = findings catalog second := by
  rw [findings, findings, List.filter_congr htrigger]

/-- An id of the catalog is found exactly if its rule is triggered, since it belongs to no other rule. -/
theorem ruleId_mem_iff {rule : Rule} (hrule : rule ∈ Catalog.default) {code : String} :
    rule.id ∈ (findings Catalog.default code).map (·.ruleId) ↔ rule.trigger code = true := by
  rw [findings, List.map_map]
  exact key_mem_filter_iff Catalog.nodup_ids (fun rule ↦ rule.trigger code) hrule

end Analysis

end WorkerAdvisor
