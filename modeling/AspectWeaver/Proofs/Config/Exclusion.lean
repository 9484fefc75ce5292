import AspectWeaver.Config.Weaver

/-!
# Exclusion by whole segments

The names of types and namespaces are read by their segments: a namespace excludes the types whose segments begin
with its own (`WeaverConfig.covers_iff_segments`). Every text has segments, also one that is empty or has dots at an
end or side by side, and the rule is the same for all of them. The top is `WeaverConfig.isExcluded_segments`.
-/

set_option autoImplicit false

namespace AspectWeaver.WeaverConfig

open Text (segments)

/-- The same weaver with other namespaces excluded. -/
def excluding (c : WeaverConfig) (namespaces : List String) : WeaverConfig :=
  { c with excludedNamespaces := namespaces }

/-- A namespace covers a name that begins with it exactly if nothing follows, or a dot. -/
theorem covers_append_iff {excluded rest : String} : covers excluded.toList (excluded ++ rest).toList = true ↔
    rest = "" ∨ ∃ below, rest = "." ++ below := by
  rw [covers_iff, String.toList_append]
  constructor
  · rintro (hself | ⟨below, hbelow⟩)
    · left
      rwa [List.append_right_eq_self, String.toList_eq_nil_iff] at hself
    · right
      refine ⟨String.ofList below, ?_⟩
      rw [← String.toList_inj, List.append_cancel_left hbelow]
      simp
  · rintro (rfl | ⟨below, rfl⟩)
    · left
      simp
    · right
      exact ⟨below.toList, by simp⟩

/-- A namespace covers the names whose segments begin with its own. -/
theorem covers_iff_segments {excluded typeName : String} :
    covers excluded.toList typeName.toList = true ↔ segments excluded <+: segments typeName := by
  rw [covers_iff, segments, segments, Text.split_prefix_split_iff]

/-- A type is excluded exactly if its segments begin with those of an excluded namespace. -/
theorem isExcluded_iff (c : WeaverConfig) (typeName : String) : c.isExcluded typeName = true ↔
    ∃ excluded ∈ c.excludedNamespaces, segments excluded <+: segments typeName := by
  simp only [isExcluded, List.any_eq_true, covers_iff_segments]

/-- A type is excluded exactly if the segments of some excluded namespace are the first segments of its name. So all
that lies below an excluded name is excluded. Of the names that begin with the text of one more namespace it
excludes those that end there or go on with a dot, and the others stay as they were. More namespaces never take an
exclusion back. -/
theorem isExcluded_segments (c : WeaverConfig) (typeName : String) :
    (c.isExcluded typeName = true ↔
      ∃ excluded ∈ c.excludedNamespaces, segments excluded <+: segments typeName) ∧
    (c.isExcluded typeName = true → ∀ below, c.isExcluded (typeName ++ "." ++ below) = true) ∧
    (∀ excluded rest, (c.excluding (excluded :: c.excludedNamespaces)).isExcluded (excluded ++ rest) = true ↔
      (rest = "" ∨ ∃ below, rest = "." ++ below) ∨ c.isExcluded (excluded ++ rest) = true) ∧
    (c.isExcluded typeName = true → ∀ namespaces, c.excludedNamespaces ⊆ namespaces →
      (c.excluding namespaces).isExcluded typeName = true) := by
  refine ⟨c.isExcluded_iff typeName, ?_, ?_, ?_⟩
  · intro hexcluded below
    rw [isExcluded_iff] at hexcluded ⊢
    obtain ⟨excluded, hlisted, hfirst⟩ := hexcluded
    refine ⟨excluded, hlisted, hfirst.trans ?_⟩
    rw [Text.segments_append_dot]
    exact List.prefix_append _ _
  · intro excluded rest
    have hcons : (c.excluding (excluded :: c.excludedNamespaces)).isExcluded (excluded ++ rest) =
        (covers excluded.toList (excluded ++ rest).toList || c.isExcluded (excluded ++ rest)) := rfl
    rw [hcons, Bool.or_eq_true, covers_append_iff]
  · intro hexcluded namespaces hmore
    rw [isExcluded_iff] at hexcluded ⊢
    obtain ⟨excluded, hlisted, hfirst⟩ := hexcluded
    exact ⟨excluded, hmore hlisted, hfirst⟩

/-- A namespace with a dot at its end excludes names that have two dots there. -/
theorem isExcluded_segments_dots :
    let c : WeaverConfig := { excludedNamespaces := ["shop", "a."] }
    c.isExcluded "a..b" = true ∧ c.isExcluded ("a..b" ++ "." ++ "C") = true ∧
      ["shop", "a."] ⊆ ["", "a.", "a..", "shop"] ∧
      (c.excluding ["", "a.", "a..", "shop"]).isExcluded "a..b" = true := by
  intro c
  have hexcluded : c.isExcluded "a..b" = true := by decide
  have hmore : ["shop", "a."] ⊆ ["", "a.", "a..", "shop"] := by decide
  obtain ⟨-, hbelow, -, hkept⟩ := isExcluded_segments c "a..b"
  exact ⟨hexcluded, hbelow hexcluded "C", hmore, hkept hexcluded _ hmore⟩

-- the text of a namespace at the front of a name is not enough
example : (WeaverConfig.excluding default ["a.b"]).isExcluded "a.bc.D" = false := by decide

end AspectWeaver.WeaverConfig
