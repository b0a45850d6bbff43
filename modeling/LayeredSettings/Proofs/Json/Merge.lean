import LayeredSettings.Json.Merge
import LayeredSettings.Proofs.Dictionary

/-! Merging, key by key, and what becomes of it when nulls are left out below: the merged value
lacks some nulls as well, and is otherwise the same. -/
namespace LayeredSettings.Json

/-- A merged object holds under a key what the two objects hold there, merged. -/
theorem lookup_mergeMembers {base overlay : List (String × Json)}
    (h : (overlay.map (·.1)).Nodup) (key : String) :
    (mergeMembers base overlay).lookup key =
      Option.merge merge (base.lookup key) (overlay.lookup key) := by
  induction overlay generalizing base with
  | nil =>
    rw [mergeMembers, List.lookup_nil]
    cases base.lookup key <;> rfl
  | cons member rest ih =>
    obtain ⟨k,value⟩ := member
    rw [List.map_cons, List.nodup_cons] at h
    rw [mergeMembers, ih h.2, Dictionary.lookup_insertEntry, Dictionary.lookup_cons_if]
    by_cases hk : key = k
    · have hrest : rest.lookup key = none := lookup_eq_none_iff_notMem.2 (hk ▸ h.1)
      rw [if_pos hk, if_pos hk, hrest, hk]
      cases base.lookup k <;> rfl
    · rw [if_neg hk, if_neg hk]

lemma keysIncrease_mergeMembers {base overlay : List (String × Json)} (h : KeysIncrease base) :
    KeysIncrease (mergeMembers base overlay) := by
  induction overlay generalizing base with
  | nil => exact h
  | cons member rest ih => exact ih (keysIncrease_insertEntry h)

/-- Two values that are not both objects are not mixed: an overlay that says something stays. -/
lemma merge_eq_overlay {base overlay : Json} (hnull : overlay ≠ .null)
    (h : (∀ members, base ≠ .object members) ∨ ∀ members, overlay ≠ .object members) :
    merge base overlay = overlay := by
  cases overlay with
  | null => exact absurd rfl hnull
  | object members =>
    cases base with
    | object below =>
      rcases h with h | h
      · exact absurd rfl (h below)
      · exact absurd rfl (h members)
    | _ => rfl
  | _ => cases base <;> rfl

/-- An overlay that is no object leaves every base as it is, or replaces every base. -/
lemma merge_plain {overlay : Json} (h : ∀ members, overlay ≠ .object members) :
    (∀ base, merge base overlay = base) ∨ ∀ base, merge base overlay = overlay := by
  by_cases hnull : overlay = .null
  · subst hnull
    exact .inl merge_null_right
  · exact .inr fun base => merge_eq_overlay hnull (.inr h)

/-- The documents of the tiers, as far as they are there, are merged like members. -/
lemma mergeAll_toList (base overlay : Option Json) :
    mergeAll (base.toList ++ overlay.toList) = (Option.merge merge base overlay).getD .null := by
  cases base <;> cases overlay <;> simp [mergeAll]

/-- What stands at a place before and after nulls are left out: nothing, related values, or a null
of a kind that may go. -/
inductive NullLeftOut (goes : Prop) (inner : Json → Json → Prop) : Option Json → Option Json → Prop
  | absent : NullLeftOut goes inner none none
  | kept {x y : Json} (h : inner x y) : NullLeftOut goes inner (some x) (some y)
  | gone (h : goes) : NullLeftOut goes inner (some .null) none

/-- A null stands for nothing, so merging leads from places with nulls left out to such places. -/
theorem NullLeftOut.merge {goes : Prop} {inner : Json → Json → Prop} {a a' b b' : Option Json}
    (hinner : ∀ x x' y y', inner x x' → inner y y' → inner (x.merge y) (x'.merge y'))
    (ha : NullLeftOut goes inner a a') (hb : NullLeftOut goes inner b b') :
    NullLeftOut goes inner (Option.merge Json.merge a b) (Option.merge Json.merge a' b') := by
  cases ha with
  | absent => cases hb <;> constructor <;> assumption
  | kept hx =>
    cases hb with
    | absent => exact .kept hx
    | kept hy => exact .kept (hinner _ _ _ _ hx hy)
    | gone =>
      change NullLeftOut goes inner (some (Json.merge _ .null)) _
      rw [merge_null_right]
      exact .kept hx
  | gone hgoes =>
    cases hb with
    | absent => exact .gone hgoes
    | kept hy =>
      change NullLeftOut goes inner (some (Json.merge .null _)) _
      rw [merge_null_left]
      exact .kept hy
    | gone => exact .gone hgoes

/-- An object before and after nulls are left out, member by member; a value of another sort stays
as it is. -/
inductive NullsLeftOut (goes : String → Prop) (inner : String → Json → Json → Prop) :
    Json → Json → Prop
  | plain {x : Json} (h : ∀ members, x ≠ .object members) : NullsLeftOut goes inner x x
  | object {members fewer : List (String × Json)} (ordered : KeysIncrease members)
      (ordered' : KeysIncrease fewer)
      (h : ∀ key, NullLeftOut (goes key) (inner key) (members.lookup key) (fewer.lookup key)) :
      NullsLeftOut goes inner (.object members) (.object fewer)

/-- Merging leads from objects with nulls left out to such objects. -/
theorem NullsLeftOut.merge {goes : String → Prop} {inner : String → Json → Json → Prop}
    {x x' y y' : Json}
    (hinner : ∀ key x x' y y', inner key x x' → inner key y y' →
      inner key (x.merge y) (x'.merge y'))
    (hx : NullsLeftOut goes inner x x') (hy : NullsLeftOut goes inner y y') :
    NullsLeftOut goes inner (x.merge y) (x'.merge y') := by
  -- The overlay's sort comes first: only an object over an object leads into the members.
  cases hy with
  | plain hy =>
    rcases merge_plain hy with hkeeps | hreplaces
    · rw [hkeeps, hkeeps]
      exact hx
    · rw [hreplaces, hreplaces]
      exact .plain hy
  | @object above above' ha ha' habove =>
    cases hx with
    | plain hx =>
      rw [merge_eq_overlay Json.noConfusion (.inl hx), merge_eq_overlay Json.noConfusion (.inl hx)]
      exact .object ha ha' habove
    | @object below below' hb hb' hbelow =>
      change NullsLeftOut goes inner (.object (mergeMembers below above))
        (.object (mergeMembers below' above'))
      refine .object (keysIncrease_mergeMembers hb) (keysIncrease_mergeMembers hb') fun key => ?_
      rw [lookup_mergeMembers (nodup_keys ha), lookup_mergeMembers (nodup_keys ha')]
      exact (hbelow key).merge (hinner key) (habove key)

lemma NullsLeftOut.eq_null {goes : String → Prop} {inner : String → Json → Json → Prop} {x : Json}
    (h : NullsLeftOut goes inner .null x) : x = .null := by
  cases h
  rfl

end LayeredSettings.Json
