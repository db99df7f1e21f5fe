import HexIam.MergeLaws
import HexIam.SettingsRefinement

/-!
# The laws of `_merge_settings`

A call returns a new dict whose document is the deep merge of the documents it is
given, in whatever state the process is.  So its leaves are those of the overrides
and the ones of the defaults that these leave free; a second call with the same
overrides changes nothing; and calls can be regrouped where objects meet objects.
-/

namespace HexIam

open JsonDocument

namespace SettingsMerge

open TenantSettings

/-- A dict, in which each key is there once, as in the dicts it holds. -/
structure SettingsDict where
  id : Nat
  entries : Dict
  wellFormed : (Value.dict id entries).plain.WellFormed

def SettingsDict.value (dict : SettingsDict) : Value :=
  .dict dict.id dict.entries

def SettingsDict.document (dict : SettingsDict) : Json :=
  dict.value.plain

/-- A call of `_merge_settings` in this state of the process returns the value. -/
def Returns (service : Service) (defaults overrides merged : Value) : Prop :=
  ∃ after, mergeSettings defaults overrides service = .ok merged after

/-- The leaves of a merged document. -/
structure LeafLaws (defaults overrides merged : Json) : Prop where
  overridden : ∀ path leaf, overrides.at path = some (.leaf leaf) →
    merged.at path = some (.leaf leaf)
  kept : ∀ path leaf, defaults.at path = some (.leaf leaf) →
    overrides.Free path → merged.at path = some (.leaf leaf)
  replaced : ∀ path leaf, defaults.at path = some (.leaf leaf) →
    ¬ overrides.Free path → merged.at path = overrides.at path
  noOther : ∀ path leaf, merged.at path = some (.leaf leaf) →
    overrides.at path = some (.leaf leaf) ∨
      defaults.at path = some (.leaf leaf) ∧ overrides.Free path

theorem leafLaws_mergeItem {defaults overrides : Json}
    (wellFormed : overrides.WellFormed) :
    LeafLaws defaults overrides (mergeItem (some defaults) overrides) where
  overridden _ _ isLeaf := (at_mergeItem_eq_leaf wellFormed).mpr (.inl isLeaf)
  kept _ _ isLeaf free := (at_mergeItem_eq_leaf wellFormed).mpr (.inr ⟨free, isLeaf⟩)
  replaced _ _ isLeaf taken := at_mergeItem_of_not_free wellFormed isLeaf taken
  noOther _ _ isLeaf :=
    ((at_mergeItem_eq_leaf wellFormed).mp isLeaf).imp_right And.symm

theorem exists_returns (service : Service) (defaults : Value) {overrides : Value}
    {entries : List (String × Json)} (isDict : overrides.plain = .object entries) :
    ∃ merged, Returns service defaults overrides merged ∧
      merged.plain = mergeItem (some defaults.plain) overrides.plain := by
  cases overrides with
  | leaf value => cases isDict
  | dict id held => exact ⟨_, ⟨_, rfl⟩, plain_mergedItem _ _ _⟩

theorem exists_returns_dict (service : Service) (defaults : Value)
    (overrides : SettingsDict) :
    ∃ merged, Returns service defaults overrides.value merged ∧
      merged.plain = mergeItem (some defaults.plain) overrides.document :=
  exists_returns service defaults rfl

/-- The leaves of a merge, a repeated merge, and two groupings of three dicts. -/
theorem mergeSettings_laws (defaults overrides patch : SettingsDict)
    (first second third fourth : Service) :
    ∃ merged, Returns first defaults.value overrides.value merged ∧
      LeafLaws defaults.document overrides.document merged.plain ∧
      (∃ again, Returns second merged overrides.value again ∧
        again.plain = merged.plain) ∧
      (defaults.document.Alike overrides.document →
        overrides.document.Alike patch.document →
        defaults.document.Alike patch.document →
        ∃ left inner right, Returns second merged patch.value left ∧
          Returns third overrides.value patch.value inner ∧
          Returns fourth defaults.value inner right ∧ left.plain = right.plain) := by
  obtain ⟨merged, isMerged, mergedPlain⟩ :=
    exists_returns_dict first defaults.value overrides
  refine ⟨merged, isMerged, ?_, ?_, fun baseAlike lastAlike _ => ?_⟩
  · rw [mergedPlain]
    exact leafLaws_mergeItem overrides.wellFormed
  · obtain ⟨again, isAgain, againPlain⟩ :=
      exists_returns_dict second merged overrides
    refine ⟨again, isAgain, ?_⟩
    rw [againPlain, mergedPlain]
    exact mergeItem_idempotent (fun _ same => Option.some.inj same ▸ defaults.wellFormed)
      overrides.wellFormed
  · obtain ⟨left, isLeft, leftPlain⟩ :=
      exists_returns_dict second merged patch
    obtain ⟨inner, isInner, innerPlain⟩ :=
      exists_returns_dict third overrides.value patch
    obtain ⟨right, isRight, rightPlain⟩ :=
      exists_returns fourth defaults.value innerPlain
    refine ⟨left, inner, right, isLeft, isInner, isRight, ?_⟩
    rw [leftPlain, mergedPlain, rightPlain, innerPlain]
    exact mergeItem_assoc
      (fun _ same => Option.some.inj same ▸ defaults.wellFormed)
      overrides.wellFormed patch.wellFormed
      (fun _ same => Option.some.inj same ▸ baseAlike) lastAlike

end SettingsMerge

end HexIam
