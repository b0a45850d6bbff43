import LayeredSettings.Proofs.Json.Layers

/-! Laying a value once more over the values that it was merged with, or once more below them. Main
statement: this changes nothing. -/
namespace LayeredSettings.Json

lemma Ordered.keysIncrease {members : List (String × Json)} (h : (object members).Ordered) :
    KeysIncrease members := by
  rw [Ordered] at h
  exact h.1

/-- What holds of every value that is no object, and of an object as soon as it holds of what stands
under its keys, holds of every ordered value. -/
theorem Ordered.induction {motive : ∀ v : Json, v.Ordered → Prop}
    (plain : ∀ v h, ¬ v.isObject = true → motive v h)
    (object : ∀ members (h : (object members).Ordered),
      (∀ key inner (hinner : members.lookup key = some inner),
        motive inner (ordered_of_get? h hinner)) → motive (.object members) h)
    (v : Json) (h : v.Ordered) : motive v h := by
  by_cases hv : v.isObject = true
  · obtain ⟨members,rfl⟩ := exists_of_isObject hv
    exact object members h fun key inner hinner =>
      Ordered.induction plain object inner (ordered_of_get? h hinner)
  · exact plain v h hv
termination_by sizeOf v
decreasing_by
  subst_vars
  exact sizeOf_lt_of_get? hinner

/-- Two objects are merged into the one that holds under every key what they hold there, merged. -/
lemma merge_object_eq {base overlay result : List (String × Json)} (hb : KeysIncrease base)
    (ho : KeysIncrease overlay) (hr : KeysIncrease result)
    (h : ∀ key, Option.merge merge (base.lookup key) (overlay.lookup key) = result.lookup key) :
    merge (.object base) (.object overlay) = .object result := by
  refine congrArg object (keysIncrease_ext (keysIncrease_mergeMembers hb) hr fun key => ?_)
  rw [lookup_mergeMembers (nodup_keys ho), h key]

theorem merge_self {a : Json} (ha : a.Ordered) : merge a a = a := by
  induction a, ha using Ordered.induction with
  | plain a _ hplain =>
    rcases merge_plain (ne_object_of_not_isObject hplain) with hkeeps | hreplaces
    · exact hkeeps a
    · exact hreplaces a
  | object members ha ih =>
    refine merge_object_eq ha.keysIncrease ha.keysIncrease ha.keysIncrease fun key => ?_
    cases hkey : members.lookup key with
    | none => rfl
    | some inner => exact congrArg some (ih key inner hkey)

/-- The overlay once more on top. Both sides hold the same under every key: where only the overlay
holds something, it is laid over itself. -/
theorem merge_merge_overlay {a b : Json} (ha : a.Ordered) (hb : b.Ordered) :
    merge (merge a b) b = merge a b := by
  induction b, hb using Ordered.induction generalizing a with
  | plain b _ hplain =>
    rcases merge_plain (ne_object_of_not_isObject hplain) with hkeeps | hreplaces
    · rw [hkeeps, hkeeps]
    · rw [hreplaces, hreplaces]
  | object above hb ih =>
    by_cases hobject : a.isObject = true
    · obtain ⟨below,rfl⟩ := exists_of_isObject hobject
      have hmerged : KeysIncrease (mergeMembers below above) :=
        keysIncrease_mergeMembers ha.keysIncrease
      refine merge_object_eq hmerged hb.keysIncrease hmerged fun key => ?_
      rw [lookup_mergeMembers (nodup_keys hb.keysIncrease)]
      cases hover : above.lookup key with
      | none => cases below.lookup key <;> rfl
      | some y =>
        cases hunder : below.lookup key with
        | none => exact congrArg some (merge_self (ordered_of_get? hb hover))
        | some x => exact congrArg some (ih key y hover (ordered_of_get? ha hunder))
    · rw [merge_plain_object hobject rfl, merge_self hb]

/-- The base once more below. Where only the base holds something, it is laid over itself. -/
theorem merge_base_merge {a b : Json} (ha : a.Ordered) (hb : b.Ordered) :
    merge a (merge a b) = merge a b := by
  induction a, ha using Ordered.induction generalizing b with
  | plain a ha hplain =>
    by_cases hnull : b = .null
    · subst hnull
      rw [merge_null_right, merge_self ha]
    · have hover : merge a b = b :=
        merge_eq_overlay hnull (.inl (ne_object_of_not_isObject hplain))
      rw [hover, hover]
  | object below ha ih =>
    by_cases hobject : b.isObject = true
    · obtain ⟨above,rfl⟩ := exists_of_isObject hobject
      have hmerged : KeysIncrease (mergeMembers below above) :=
        keysIncrease_mergeMembers ha.keysIncrease
      refine merge_object_eq ha.keysIncrease hmerged hmerged fun key => ?_
      rw [lookup_mergeMembers (nodup_keys hb.keysIncrease)]
      cases hunder : below.lookup key with
      | none => cases above.lookup key <;> rfl
      | some x =>
        cases hover : above.lookup key with
        | none => exact congrArg some (merge_self (ordered_of_get? ha hunder))
        | some y => exact congrArg some (ih key x hunder (ordered_of_get? hb hover))
    · rcases merge_plain (ne_object_of_not_isObject hobject) with hkeeps | hreplaces
      · rw [hkeeps, merge_self ha]
      · rw [hreplaces, hreplaces]

/-- A value laid over itself, or once more on top of or below what it was merged with, changes
nothing, and null changes nothing on either side. -/
theorem merge_reapplied {a b : Json} (ha : a.Ordered) (hb : b.Ordered) :
    merge a a = a ∧
    merge (merge a b) b = merge a b ∧
    merge a (merge a b) = merge a b ∧
    merge a .null = a ∧ merge .null a = a :=
  ⟨merge_self ha,merge_merge_overlay ha hb,merge_base_merge ha hb,merge_null_right a,
    merge_null_left a⟩

/-- A base and an overlay that say nothing under some of their keys. -/
def sampleBase : Json := object [("a",object [("x",null),("y",bool true)]),("b",null)]

def sampleOverlay : Json := object [("a",object [("x",string "s"),("y",null)]),("c",null)]

/-- The overlay's null is kept under a key that only it has, and is passed over elsewhere; neither
changes when a value is laid on a second time. -/
theorem merge_reapplied_sampleOverlay :
    sampleBase.Ordered ∧ sampleOverlay.Ordered ∧
    merge sampleBase sampleOverlay =
      object [("a",object [("x",string "s"),("y",bool true)]),("b",null),("c",null)] ∧
    merge (merge sampleBase sampleOverlay) sampleOverlay = merge sampleBase sampleOverlay ∧
    merge sampleBase (merge sampleBase sampleOverlay) = merge sampleBase sampleOverlay := by
  have hbase : sampleBase.Ordered := by
    simp only [sampleBase, Ordered, OrderedMembers]
    exact ⟨by decide,⟨by decide,trivial,trivial,trivial⟩,trivial,trivial⟩
  have hoverlay : sampleOverlay.Ordered := by
    simp only [sampleOverlay, Ordered, OrderedMembers]
    exact ⟨by decide,⟨by decide,trivial,trivial,trivial⟩,trivial,trivial⟩
  obtain ⟨-,hon,hbelow,-⟩ := merge_reapplied hbase hoverlay
  exact ⟨hbase,hoverlay,rfl,hon,hbelow⟩

end LayeredSettings.Json
