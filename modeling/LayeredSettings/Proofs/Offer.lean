import Mathlib.Data.List.Induction
import LayeredSettings.Proofs.Dictionary
import LayeredSettings.Proofs.Outcome
import LayeredSettings.Proofs.Registry.Access

/-! One loop behind four: items under names are offered to fields, one after the other, up to the
first that is refused. Its closed form speaks of the registry that the loop starts from only. -/
namespace LayeredSettings

/-- What a field makes of an item: events, and a refusal, nothing, or a value to hold. -/
abbrev Rule (α : Type) := α → Field → Logged (Except ConfigError (Option Value))

variable {α : Type}

namespace Registry

/-- Offer an item to the field of a name. -/
def offer (rule : Rule α) (name : String) (item : α) (r : Registry) : Outcome Unit :=
  match r.lookup name with
  | .error e => .failed r e
  | .ok f =>
    match rule item f with
    | ⟨events,.error e⟩ => (Outcome.failed r e).after events
    | ⟨events,.ok none⟩ => (Outcome.done r ()).after events
    | ⟨events,.ok (some value)⟩ => (Outcome.done (r.assign name (some value)) ()).after events

/-- Offer items one after the other, up to the first that is refused. -/
def offerAll (rule : Rule α) : List (String × α) → Registry → Outcome Unit
  | [], r => .done r ()
  | (name,item) :: rest, r => (offer rule name item r).andThen fun _ r => offerAll rule rest r

/-- Why an item cannot be taken. -/
def refusal? (rule : Rule α) (r : Registry) (entry : String × α) : Option ConfigError :=
  match r.get? entry.1 with
  | none => some (.unknownField entry.1)
  | some f =>
    match (rule entry.2 f).result with
    | .error e => some e
    | .ok _ => none

theorem refusal?_eq_none_iff {rule : Rule α} {r : Registry} {entry : String × α} :
    r.refusal? rule entry = none ↔
      ∃ f given, r.get? entry.1 = some f ∧ (rule entry.2 f).result = .ok given := by
  unfold refusal?
  cases r.get? entry.1 with
  | none => simp
  | some f => cases h : (rule entry.2 f).result <;> simp [h]

end Registry

namespace Rule

def value (rule : Rule α) (item : α) (f : Field) : Option Value :=
  match (rule item f).result with
  | .ok given => given
  | .error _ => none

/-- What a field holds after items have been offered: the last value given to it, or else what it
held before. -/
def hold (rule : Rule α) (items : List (String × α)) (f : Field) : Option Value :=
  items.foldl (fun held entry =>
    if entry.1 = f.name then (rule.value entry.2 f).or held else held) f.current

def supply (rule : Rule α) (items : List (String × α)) (f : Field) : Field :=
  f.holding (rule.hold items f)

/-- The loop cannot change what the rule makes of a later item: no field is met twice, or the rule
never looks at what a field holds. -/
def Steady (rule : Rule α) (items : List (String × α)) : Prop :=
  (items.map (·.1)).Nodup ∨ ∀ item f held, rule item (f.holding held) = rule item f

@[simp] theorem supply_nil (rule : Rule α) (f : Field) : rule.supply [] f = f := rfl

@[simp] theorem supply_name (rule : Rule α) (items : List (String × α)) (f : Field) :
    (rule.supply items f).name = f.name := rfl

theorem hold_append_singleton (rule : Rule α) (items : List (String × α)) (entry : String × α)
    (f : Field) : rule.hold (items ++ [entry]) f =
      if entry.1 = f.name then (rule.value entry.2 f).or (rule.hold items f)
      else rule.hold items f := by
  simp only [hold, List.foldl_append, List.foldl_cons, List.foldl_nil]

theorem hold_of_forall_ne (rule : Rule α) (items : List (String × α)) (f : Field)
    (h : ∀ entry ∈ items, entry.1 ≠ f.name) : rule.hold items f = f.current := by
  induction items using List.reverseRecOn with
  | nil => rfl
  | append_singleton items entry ih =>
    rw [hold_append_singleton, if_neg (h entry (by simp))]
    exact ih fun other ho => h other (by simp [ho])

theorem hold_of_nodup (rule : Rule α) {items : List (String × α)}
    (hn : (items.map (·.1)).Nodup) (f : Field) :
    rule.hold items f =
      ((items.lookup f.name).bind fun item => rule.value item f).or f.current := by
  induction items using List.reverseRecOn with
  | nil => rfl
  | append_singleton items entry ih =>
    rw [List.map_append, List.nodup_append] at hn
    obtain ⟨hitems,-,hne⟩ := hn
    rw [hold_append_singleton, ih hitems, List.lookup_append, Dictionary.lookup_cons_if]
    by_cases h : entry.1 = f.name
    · have hnone : items.lookup f.name = none := by
        refine lookup_eq_none_iff_notMem.2 fun hm => ?_
        exact hne f.name hm entry.1 (by simp) h.symm
      simp [h, hnone]
    · simp [h, Ne.symm h]

/-- The items before a name, in the order of names, supply the fields of smaller names. -/
theorem supply_before (rule : Rule α) {before after : List (String × α)} {entry : String × α}
    (h : KeysIncrease (before ++ entry :: after)) (f : Field) :
    rule.supply before f =
      if f.name < entry.1 then rule.supply (before ++ entry :: after) f else f := by
  have hb : (before.map (·.1)).Nodup := nodup_keys (List.pairwise_append.1 h).1
  unfold supply
  rw [hold_of_nodup _ hb, hold_of_nodup _ (nodup_keys h), lookup_before h]
  split_ifs <;> simp

theorem Steady.left {rule : Rule α} {items more : List (String × α)}
    (h : rule.Steady (items ++ more)) : rule.Steady items := by
  rcases h with h | h
  · rw [List.map_append] at h
    exact .inl h.of_append_left
  · exact .inr h

/-- Earlier items do not change what the rule makes of the next one. -/
theorem Steady.apply_supply {rule : Rule α} {items : List (String × α)} {entry : String × α}
    (h : rule.Steady (items ++ [entry])) {f : Field} (hf : f.name = entry.1) :
    rule entry.2 (rule.supply items f) = rule entry.2 f := by
  rcases h with h | h
  · have hne : ∀ other ∈ items, other.1 ≠ f.name := by
      intro other ho he
      rw [List.map_append, List.nodup_append] at h
      exact h.2.2 other.1 (List.mem_map_of_mem ho) entry.1 (by simp) (he.trans hf)
    rw [supply, hold_of_forall_ne rule items f hne, Field.holding_self]
  · exact h _ _ _

end Rule

namespace Registry

theorem offerAll_append (rule : Rule α) (items more : List (String × α)) (r : Registry) :
    offerAll rule (items ++ more) r =
      (offerAll rule items r).andThen fun _ r => offerAll rule more r := by
  induction items generalizing r with
  | nil => rfl
  | cons entry rest ih => simp only [List.cons_append, offerAll, ih, Outcome.andThen_assoc]

lemma offerAll_singleton (rule : Rule α) (entry : String × α) (r : Registry) :
    offerAll rule [entry] r = offer rule entry.1 entry.2 r := by
  simp only [offerAll]
  cases h : (offer rule entry.1 entry.2 r).result with
  | ok value => simp [Outcome.andThen_of_ok h, Outcome.done, Outcome.after, ← h]
  | error e => simp [Outcome.andThen_of_error h, Outcome.failed, Outcome.after, ← h]

theorem offer_of_accepted {rule : Rule α} {name : String} {item : α} {r : Registry} {f : Field}
    {given : Option Value} (hf : r.get? name = some f) (hg : (rule item f).result = .ok given) :
    (offer rule name item r).result = .ok () ∧
      (offer rule name item r).events = (rule item f).events ∧
      (offer rule name item r).registry.fields = r.fields.map fun f =>
        if name = f.name then f.holding (given.or f.current) else f := by
  have hr : rule item f = ⟨(rule item f).events,.ok given⟩ := by rw [← hg]
  unfold offer
  rw [lookup_of_get? hf]
  simp only []
  rw [hr]
  cases given with
  | none => simp [Outcome.done]
  | some value => simp [Outcome.done, eq_comm]

theorem offer_of_refused {rule : Rule α} {name : String} {item : α} {r : Registry}
    {e : ConfigError} (h : r.refusal? rule (name,item) = some e) :
    (offer rule name item r).result = .error e ∧ (offer rule name item r).registry = r := by
  unfold refusal? at h
  unfold offer
  cases hf : r.get? name with
  | none =>
    rw [lookup_of_get?_none hf]
    simp_all [Outcome.failed]
  | some f =>
    rw [lookup_of_get? hf]
    cases hg : rule item f with
    | mk events result =>
      cases result with
      | ok given => simp [hf, hg] at h
      | error reason => simp_all [Outcome.failed]

/-- Where no item is refused at the start, none is refused on the way, and every field ends with
the last value given to it. -/
theorem offerAll_of_accepted {rule : Rule α} {items : List (String × α)} {r : Registry}
    (hs : rule.Steady items) (ha : ∀ entry ∈ items, r.refusal? rule entry = none) :
    (offerAll rule items r).result = .ok () ∧
      (offerAll rule items r).registry.fields = r.fields.map (rule.supply items) := by
  induction items using List.reverseRecOn with
  | nil => exact ⟨rfl,(List.map_id'' (rule.supply_nil ·) r.fields).symm⟩
  | append_singleton items entry ih =>
    obtain ⟨hok,hfields⟩ := ih hs.left fun other ho => ha other (by simp [ho])
    obtain ⟨f,given,hf,hg⟩ := refusal?_eq_none_iff.1 (ha entry (by simp))
    have hf' : (offerAll rule items r).registry.get? entry.1 = some (rule.supply items f) := by
      rw [get?_of_fields_eq_map (rule.supply_name items) hfields, hf]
      rfl
    have hg' : (rule entry.2 (rule.supply items f)).result = .ok given := by
      rw [hs.apply_supply (name_of_get? hf), hg]
    obtain ⟨hok',-,hfields'⟩ := offer_of_accepted hf' hg'
    rw [offerAll_append, Outcome.andThen_of_ok hok]
    simp only [offerAll_singleton, Outcome.after_result, Outcome.after_registry]
    refine ⟨hok',?_⟩
    rw [hfields', hfields, List.map_map]
    apply List.map_congr_left
    intro g hgm
    change (if entry.1 = g.name then _ else _) = g.holding (rule.hold _ g)
    rw [Rule.hold_append_singleton]
    by_cases hn : entry.1 = g.name
    · obtain rfl : g = f := Option.some.inj ((get?_name hgm).symm.trans (hn ▸ hf))
      simp only [if_pos hn, Rule.value, hg, Rule.supply, Field.holding_holding,
        Field.holding_current]
    · simp only [if_neg hn, Rule.supply]

/-- The first item that is refused stops the loop; the items before it have been taken. -/
theorem offerAll_of_refused {rule : Rule α} {before after : List (String × α)}
    {entry : String × α} {r : Registry} {e : ConfigError}
    (hs : rule.Steady (before ++ entry :: after))
    (ha : ∀ other ∈ before, r.refusal? rule other = none)
    (he : r.refusal? rule entry = some e) :
    (offerAll rule (before ++ entry :: after) r).result = .error e ∧
      (offerAll rule (before ++ entry :: after) r).registry.fields =
        r.fields.map (rule.supply before) := by
  have hs' : rule.Steady (before ++ [entry]) := by
    rw [List.append_cons] at hs
    exact hs.left
  obtain ⟨hok,hfields⟩ := offerAll_of_accepted hs'.left ha
  have he' : (offerAll rule before r).registry.refusal? rule entry = some e := by
    rw [← he]
    unfold refusal?
    rw [get?_of_fields_eq_map (rule.supply_name before) hfields]
    cases hf : r.get? entry.1 with
    | none => rfl
    | some f => simp only [Option.map_some, hs'.apply_supply (name_of_get? hf)]
  obtain ⟨herr,hreg⟩ := offer_of_refused he'
  rw [offerAll_append, Outcome.andThen_of_ok hok]
  simp only [offerAll, Outcome.after_result, Outcome.after_registry,
    Outcome.andThen_of_error herr, Outcome.failed, hreg, hfields, and_self]

/-- The loop in closed form: either every item is accepted at the start and all are taken, or the
first that is refused is the error and exactly the items before it are taken. -/
theorem offerAll_spec {rule : Rule α} {items : List (String × α)} (hs : rule.Steady items)
    (r : Registry) :
    ((∀ entry ∈ items, r.refusal? rule entry = none) ∧
      (offerAll rule items r).result = .ok () ∧
      (offerAll rule items r).registry.fields = r.fields.map (rule.supply items)) ∨
    ∃ before entry after e, items = before ++ entry :: after ∧
      (∀ other ∈ before, r.refusal? rule other = none) ∧
      r.refusal? rule entry = some e ∧
      (offerAll rule items r).result = .error e ∧
      (offerAll rule items r).registry.fields = r.fields.map (rule.supply before) := by
  cases h : items.find? fun entry => (r.refusal? rule entry).isSome with
  | none =>
    have ha : ∀ entry ∈ items, r.refusal? rule entry = none := by
      simpa using List.find?_eq_none.1 h
    exact .inl ⟨ha,offerAll_of_accepted hs ha⟩
  | some entry =>
    obtain ⟨he,before,after,rfl,hbefore⟩ := List.find?_eq_some_iff_append.1 h
    obtain ⟨e,he⟩ := Option.isSome_iff_exists.1 he
    have ha : ∀ other ∈ before, r.refusal? rule other = none := by simpa using hbefore
    exact .inr ⟨before,entry,after,e,rfl,ha,he,offerAll_of_refused hs ha he⟩

/-- The loop over a dictionary: either every entry is accepted and all are taken, or the least that is
refused is the error and exactly the entries of smaller names are taken. -/
theorem offerAll_entries_spec (rule : Rule α) (d : Dictionary α) (r : Registry) :
    ((∀ entry ∈ d.entries, r.refusal? rule entry = none) ∧
      (offerAll rule d.entries r).result = .ok () ∧
      (offerAll rule d.entries r).registry.fields = r.fields.map (rule.supply d.entries)) ∨
    ∃ entry ∈ d.entries, ∃ e, r.refusal? rule entry = some e ∧
      (∀ other ∈ d.entries, ∀ e', r.refusal? rule other = some e' → entry.1 ≤ other.1) ∧
      (offerAll rule d.entries r).result = .error e ∧
      (offerAll rule d.entries r).registry.fields =
        r.fields.map fun f => if f.name < entry.1 then rule.supply d.entries f else f := by
  rcases offerAll_spec (.inl (nodup_keys d.ordered)) r with
    hall | ⟨before,entry,after,e,he,ha,hr,herr,hfields⟩
  · exact .inl hall
  · have hkeys : KeysIncrease (before ++ entry :: after) := he ▸ d.ordered
    refine .inr ⟨entry,by simp [he],e,hr,fun other ho e' hf => ?_,herr,?_⟩
    · -- an entry before this one is accepted, so one that is refused stands here or later
      rw [he] at ho
      rcases List.mem_append.1 ho with ho | ho
      · rw [ha other ho] at hf
        cases hf
      · have hpair := (List.pairwise_append.1 hkeys).2.1
        rcases List.mem_cons.1 ho with rfl | ho
        · exact String.le_refl _
        · exact String.not_lt.1 (String.lt_asymm ((List.pairwise_cons.1 hpair).1 other ho))
    · rw [hfields, he]
      exact List.map_congr_left fun f _ => rule.supply_before hkeys f

theorem offerAll_result_eq_ok_iff {rule : Rule α} {items : List (String × α)} {r : Registry}
    (hs : rule.Steady items) :
    (offerAll rule items r).result = .ok () ↔ ∀ a ∈ items, r.refusal? rule a = none := by
  rcases offerAll_spec hs r with ⟨ha,hok,-⟩ | ⟨before,a,after,e,rfl,-,hr,herr,-⟩
  · exact iff_of_true hok ha
  · refine iff_of_false (by simp [herr]) fun ha => ?_
    rw [ha a (by simp)] at hr
    cases hr

/-- The error of the loop is that of the first item refused at the start. -/
theorem offerAll_result_eq_error_iff {rule : Rule α} {items : List (String × α)} {r : Registry}
    {e : ConfigError} (hs : rule.Steady items) :
    (offerAll rule items r).result = .error e ↔ ∃ before a after, items = before ++ a :: after ∧
      (∀ b ∈ before, r.refusal? rule b = none) ∧ r.refusal? rule a = some e := by
  constructor
  · intro h
    rcases offerAll_spec hs r with ⟨-,hok,-⟩ | ⟨before,a,after,e',hitems,hb,ha,herr,-⟩
    · rw [hok] at h
      cases h
    · obtain rfl := Except.error.inj (herr.symm.trans h)
      exact ⟨before,a,after,hitems,hb,ha⟩
  · rintro ⟨before,a,after,rfl,hb,ha⟩
    exact (offerAll_of_refused hs hb ha).1

theorem fields_of_offerAll_ok {rule : Rule α} {items : List (String × α)} {r : Registry}
    (hs : rule.Steady items) (h : (offerAll rule items r).result = .ok ()) :
    (offerAll rule items r).registry.fields = r.fields.map (rule.supply items) := by
  rcases offerAll_spec hs r with ⟨-,-,hfields⟩ | ⟨_,_,_,e,-,-,-,herr,-⟩
  · exact hfields
  · rw [h] at herr
    cases herr

end Registry

end LayeredSettings
