import FlopCensus.Proofs.Log
import FlopCensus.Settings

set_option autoImplicit false
set_option relaxedAutoImplicit false

/-!
# What settings satisfy

Settings that can be had at all have passed the checks of their values, wherever they come from. The
checks stand in the middle of a computation that may fail, so each lemma takes apart a computation
that has not failed.

## Main results

* `FlopCensus.Settings.one_le_cacheSize_of_load` — a cache for loaded settings has room for a
  result.
-/

namespace FlopCensus

namespace Settings

/-- The section about the cache gives it room for a result. -/
lemma one_le_cacheSize_withCache {settings result : Settings} {s : Part}
    (h : 1 ≤ settings.cacheSize) (hresult : settings.withCache s = .ok result) :
    1 ≤ result.cacheSize := by
  rw [withCache] at hresult
  obtain ⟨enabled, -, hresult⟩ := bind_eq_ok.1 hresult
  obtain ⟨size, -, hresult⟩ := bind_eq_ok.1 hresult
  split at hresult
  · cases hresult
  · rename_i hsize
    obtain ⟨given, -, hresult⟩ := bind_eq_ok.1 hresult
    obtain ⟨lifetime, -, hresult⟩ := bind_eq_ok.1 hresult
    split at hresult
    · cases hresult
    · cases hresult
      cases size with
      | none => exact h
      | some i => simpa using hsize

/-- A section gives the cache room for a result. -/
lemma one_le_cacheSize_ofPart {settings : Settings} {s : Part} (h : ofPart s = .ok settings) :
    1 ≤ settings.cacheSize := by
  rw [ofPart] at h
  obtain ⟨tool, -, h⟩ := bind_eq_ok.1 h
  obtain ⟨paths, -, h⟩ := bind_eq_ok.1 h
  obtain ⟨timeout, -, h⟩ := bind_eq_ok.1 h
  obtain ⟨seconds, -, h⟩ := bind_eq_ok.1 h
  obtain ⟨extensions, -, h⟩ := bind_eq_ok.1 h
  obtain ⟨jobs, -, h⟩ := bind_eq_ok.1 h
  obtain ⟨cache, -, h⟩ := bind_eq_ok.1 h
  obtain ⟨settings', hsettings, h⟩ := bind_eq_ok.1 h
  obtain ⟨logging, -, h⟩ := bind_eq_ok.1 h
  obtain ⟨level, -, h⟩ := bind_eq_ok.1 h
  cases h
  have husual : (1 : Int) ≤ 500 := by decide
  have hroom : 1 ≤ settings'.cacheSize := one_le_cacheSize_withCache husual hsettings
  exact hroom

/-- A document gives the cache room for a result. -/
lemma one_le_cacheSize_ofDocument {settings : Settings} {path : String} {d : Yaml.Document}
    (h : (ofDocument path d).outcome.value = .ok settings) : 1 ≤ settings.cacheSize := by
  rw [ofDocument] at h
  split at h
  · cases h
    decide
  · cases h
  · obtain ⟨-, -, h⟩ := Attempt.value_bind_eq_ok.1 h
    exact one_le_cacheSize_ofPart h

/-- **A cache for loaded settings has room for a result.** -/
theorem one_le_cacheSize_of_load {host : Host} {path : Option String} {settings : Settings}
    (h : (load host path).outcome.value = .ok settings) : 1 ≤ settings.cacheSize := by
  unfold load at h
  generalize (path.filter (· != "")).or (usualFile? host) = place at h
  cases path
  case' some p => by_cases hfile : host.files.isFile p = true <;> simp only [hfile] at h
  on_goal 2 => cases h -- there is no document at the path
  all_goals
    cases place
    case none =>
      cases h
      exact (by decide : (1 : Int) ≤ 500)
    case some file =>
      obtain ⟨d, -, h⟩ := Attempt.value_bind_eq_ok.1 h
      obtain ⟨settings', hsettings, h⟩ := Attempt.value_bind_eq_ok.1 h
      obtain ⟨-, -, h⟩ := Attempt.value_bind_eq_ok.1 h
      cases h
      have hroom : 1 ≤ settings'.cacheSize := one_le_cacheSize_ofDocument hsettings
      exact hroom

end Settings

end FlopCensus
