import IdlLint.Rules.Catalog
import Mathlib.Logic.Basic

/-! Which rules some settings enable. The two passes over the entries come to this: the longest entry
for a rule decides, and of two entries of the same length the one that disables. -/
namespace IdlLint

/-- An entry is about a rule: it is the rule, or the rule goes on after it with a full stop. -/
def Text.Covers (entry rule : String) : Prop :=
  rule = entry ∨ ∃ rest, rule = entry ++ "." ++ rest

private theorem Text.refines_iff {entry rule : String} :
    refines rule entry = true ↔ Covers entry rule := by
  rw [refines, Bool.or_eq_true, beq_iff_eq, List.isPrefixOf_iff_prefix, Covers]
  refine or_congr_right ⟨?_, ?_⟩
  · rintro ⟨rest, same⟩
    exact ⟨String.ofList rest, String.toList_inj.mp (by simpa using same.symm)⟩
  · rintro ⟨rest, rfl⟩
    exact ⟨rest.toList, by simp⟩

instance (entry rule : String) : Decidable (Text.Covers entry rule) :=
  decidable_of_iff _ Text.refines_iff

namespace Config.Settings

open Text

variable {rule : String}

namespace Verdict

variable (entries : List String) (v : Verdict)

private theorem enable_eq (entry : String) :
    v.enable rule entry =
      if Covers entry rule ∧ v.length < entry.length then ⟨entry.length, true⟩ else v := by
  simp only [enable, Bool.and_eq_true, refines_iff, decide_eq_true_eq]

private theorem disable_eq (entry : String) :
    v.disable rule entry =
      if Covers entry rule ∧ v.length ≤ entry.length then ⟨entry.length, false⟩ else v := by
  simp only [disable, Bool.and_eq_true, refines_iff, decide_eq_true_eq]

private theorem enabled_enable (on : v.enabled = true) :
    (entries.foldl (enable rule) v).enabled = true := by
  induction entries generalizing v with
  | nil => exact on
  | cons entry rest ih =>
    rw [List.foldl_cons, enable_eq]
    split
    · exact ih _ rfl
    · exact ih v on

/-- After the first pass the entry that decides is a longest one. -/
theorem lt_length_enable (n : Int) :
    n < (entries.foldl (enable rule) v).length ↔
      n < v.length ∨ ∃ entry ∈ entries, Covers entry rule ∧ n < entry.length := by
  induction entries generalizing v with
  | nil => simp
  | cons entry rest ih =>
    simp only [List.foldl_cons, ih, enable_eq, List.mem_cons, exists_eq_or_imp, ← or_assoc]
    refine or_congr_left ?_
    split
    · rename_i longer
      have through : n < v.length → n < entry.length := fun shorter => Int.lt_trans shorter longer.2
      simp only [longer.1, true_and]
      exact ⟨.inr, fun either => either.elim through id⟩
    · rename_i shorter
      refine ⟨.inl, fun either => either.elim id fun covering => ?_⟩
      have bound : (entry.length : Int) ≤ v.length :=
        Int.not_lt.mp fun longer => shorter ⟨covering.1, longer⟩
      exact Int.lt_of_lt_of_le covering.2 bound

/-- The second pass leaves a rule enabled if all its entries are shorter than the one that decided
before. What an entry of the second pass decides no later one takes back. -/
theorem enabled_disable :
    (entries.foldl (disable rule) v).enabled = true ↔
      v.enabled = true ∧ ∀ entry ∈ entries, Covers entry rule → entry.length < v.length := by
  induction entries generalizing v with
  | nil => simp
  | cons entry rest ih =>
    rw [List.foldl_cons, ih, disable_eq, List.forall_mem_cons]
    split
    · rename_i decides
      have refused : ¬(Covers entry rule → (entry.length : Int) < v.length) :=
        fun shorter => absurd (shorter decides.1) (Int.not_lt.mpr decides.2)
      simp [refused]
    · rename_i passed
      have shorter : Covers entry rule → (entry.length : Int) < v.length :=
        fun covering => Int.not_le.mp fun longer => passed ⟨covering, longer⟩
      rw [and_iff_right shorter]

end Verdict

/-- A rule has an entry that disables it, and none that enables it is longer. -/
def Disables (s : Settings) (rule : String) : Prop :=
  ∃ entry ∈ s.disabled, Covers entry rule ∧
    ∀ other ∈ s.enabled, Covers other rule → other.length ≤ entry.length

instance (s : Settings) (rule : String) : Decidable (s.Disables rule) :=
  inferInstanceAs (Decidable (∃ entry ∈ s.disabled, Covers entry rule ∧
    ∀ other ∈ s.enabled, Covers other rule → other.length ≤ entry.length))

private theorem isEnabled_iff (s : Settings) : s.isEnabled rule = true ↔ ¬s.Disables rule := by
  have first := @Verdict.enabled_enable rule s.enabled {} rfl
  rw [isEnabled, Verdict.enabled_disable, and_iff_right first, Disables]
  simp only [Verdict.lt_length_enable, not_exists, not_and, not_forall, Nat.not_le]
  refine forall₂_congr fun entry _ => imp_congr_right fun _ => ?_
  have started : ¬(entry.length : Int) < -1 := by omega
  simp only [started, false_or, Int.ofNat_lt, exists_prop]

private theorem Disables.congr {s t : Settings}
    (enabled : ∀ entry, entry ∈ s.enabled ↔ entry ∈ t.enabled)
    (disabled : ∀ entry, entry ∈ s.disabled ↔ entry ∈ t.disabled) :
    s.Disables rule ↔ t.Disables rule := by
  simp only [Disables, enabled, disabled]

end Config.Settings

open IdlLint.Config

/-- The longest entry for a rule decides, and one that disables wins a tie. The order of the entries
does not matter, nor how often they stand there. -/
theorem Rules.selection (settings : Settings) :
    (∀ rule, settings.isEnabled rule = false ↔
      ∃ entry ∈ settings.disabled, Text.Covers entry rule ∧
        ∀ other ∈ settings.enabled, Text.Covers other rule → other.length ≤ entry.length) ∧
    (∀ other : Settings, (∀ entry, entry ∈ settings.enabled ↔ entry ∈ other.enabled) →
      (∀ entry, entry ∈ settings.disabled ↔ entry ∈ other.disabled) →
        ∀ rule, settings.isEnabled rule = other.isEnabled rule) ∧
    Rules.enabled settings =
      (Rules.all settings).filter fun check => ¬settings.Disables check.ruleId := by
  refine ⟨fun rule => ?_, fun other enabled disabled rule => ?_, ?_⟩
  · rw [← Bool.not_eq_true, Settings.isEnabled_iff, not_not]
    rfl
  · apply Bool.eq_iff_iff.mpr
    rw [Settings.isEnabled_iff, Settings.isEnabled_iff, Settings.Disables.congr enabled disabled]
  · refine List.filter_congr fun check _ => ?_
    apply Bool.eq_iff_iff.mpr
    rw [Settings.isEnabled_iff, decide_eq_true_iff]

end IdlLint
