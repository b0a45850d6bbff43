import LayeredSettings.Proofs.Password.Twin
import LayeredSettings.Proofs.Resolution.Entries

/-! When two runs over items that differ in the password's text report the same. Up to the password
and after it nothing differs; at the password an event may show the text. -/
namespace LayeredSettings

variable {α β : Type} {r s : Registry}

/-- Two lists of events, equally long, that are the same exactly under a condition. -/
structure SameIff (es fs : List Event) (P : Prop) : Prop where
  length : es.length = fs.length
  eq_iff : es = fs ↔ P

namespace SameIff

variable {es fs es' fs' : List Event} {P Q : Prop}

lemma of_eq (h : es = fs) (hp : P) : SameIff es fs P := ⟨congrArg List.length h,iff_of_true h hp⟩

lemma append (h : SameIff es fs P) (h' : SameIff es' fs' Q) :
    SameIff (es ++ es') (fs ++ fs') (P ∧ Q) := by
  refine ⟨by rw [List.length_append, List.length_append, h.length, h'.length],?_⟩
  rw [← h.eq_iff, ← h'.eq_iff]
  constructor
  · exact fun heq => List.append_inj heq h.length
  · rintro ⟨rfl,rfl⟩
    rfl

lemma congr (h : SameIff es fs P) (hpq : P ↔ Q) : SameIff es fs Q := ⟨h.length,h.eq_iff.trans hpq⟩

end SameIff

namespace Outcome

variable {a b : Outcome α} {next other : α → Registry → Outcome β} {P : Prop}

/-- Twin steps add nothing to the difference of the outcomes that they go on from. -/
lemma Alike.andThen_of_twin (h : a.Alike b) (hev : SameIff a.events b.events P)
    (hnext : ∀ value, (next value a.registry).Twin (other value b.registry)) :
    (a.andThen next).Alike (b.andThen other) ∧
      SameIff (a.andThen next).events (b.andThen other).events P := by
  cases ha : a.result with
  | error e =>
    have hb : b.result = .error e := h.result ▸ ha
    rw [andThen_of_error ha, andThen_of_error hb]
    exact ⟨⟨h.registry,rfl⟩,by simpa [Outcome.failed] using hev⟩
  | ok value =>
    have hb : b.result = .ok value := h.result ▸ ha
    rw [andThen_of_ok ha, andThen_of_ok hb]
    refine ⟨⟨(hnext value).registry,(hnext value).result⟩,?_⟩
    exact (hev.append (.of_eq (hnext value).events trivial)).congr (by simp)

/-- Steps that differ matter only if the twins before them succeed. -/
lemma Twin.andThen_of_alike (h : a.Twin b)
    (hnext : ∀ value, a.result = .ok value →
      (next value a.registry).Alike (other value b.registry) ∧
        SameIff (next value a.registry).events (other value b.registry).events P) :
    (a.andThen next).Alike (b.andThen other) ∧
      SameIff (a.andThen next).events (b.andThen other).events
        ((∃ value, a.result = .ok value) → P) := by
  cases ha : a.result with
  | error e =>
    have hb : b.result = .error e := h.result ▸ ha
    rw [andThen_of_error ha, andThen_of_error hb, h.events]
    exact ⟨⟨h.registry,rfl⟩,.of_eq rfl fun ⟨_,hv⟩ => by cases hv⟩
  | ok value =>
    have hb : b.result = .ok value := h.result ▸ ha
    obtain ⟨hout,hev⟩ := hnext value ha
    rw [andThen_of_ok ha, andThen_of_ok hb, h.events]
    refine ⟨⟨hout.registry,hout.result⟩,?_⟩
    exact ((SameIff.of_eq rfl trivial).append hev).congr (by simp)

end Outcome

/-- Two dictionaries that are the same but for the values under the password, which are related. -/
def Dictionary.Alike (R : α → α → Prop) (d e : Dictionary α) : Prop :=
  d = e ∨ ∃ before after x y, R x y ∧ d.entries = before ++ ("password",x) :: after ∧
    e.entries = before ++ ("password",y) :: after

/-- The entries before a key are those of smaller names, and under the key stands its value. -/
lemma Dictionary.forall_before_iff {d : Dictionary α} {before after : List (String × α)}
    {key : String} {x : α} (h : d.entries = before ++ (key,x) :: after) (Q : String × α → Prop) :
    (∀ a ∈ d.entries, a.1 < key → Q a) ↔ ∀ a ∈ before, Q a := by
  obtain ⟨-,hafter,hbefore⟩ := List.pairwise_append.1 (h ▸ d.ordered : KeysIncrease _)
  rw [h]
  constructor
  · exact fun hall a ha => hall a (by simp [ha]) (hbefore a ha (key,x) (by simp))
  · intro hall a ha hlt
    rcases List.mem_append.1 ha with ha | ha
    · exact hall a ha
    · rcases List.mem_cons.1 ha with rfl | ha
      · exact absurd hlt (String.lt_irrefl _)
      · exact absurd (String.lt_trans hlt ((List.pairwise_cons.1 hafter).1 a ha))
          (String.lt_irrefl _)

lemma Dictionary.get?_of_entries {d : Dictionary α} {before after : List (String × α)}
    {key : String} {x : α} (h : d.entries = before ++ (key,x) :: after) : d.get? key = some x :=
  get?_eq_some_iff.2 (by simp [h])

lemma Dictionary.Alike.size_eq {R : α → α → Prop} {d e : Dictionary α} (h : d.Alike R e) :
    d.size = e.size := by
  rcases h with rfl | ⟨before,after,x,y,-,hd,he⟩
  · rfl
  · simp [size, hd, he]

namespace Registry

lemma get?_offerAll_of_forall_ne {rule : Rule α} {items : List (String × α)}
    (hs : rule.Steady items) (hok : (offerAll rule items r).result = .ok ()) {name : String}
    (hne : ∀ a ∈ items, a.1 ≠ name) : (offerAll rule items r).registry.get? name = r.get? name := by
  rw [get?_of_fields_eq_map (rule.supply_name items) (fields_of_offerAll_ok hs hok)]
  cases hf : r.get? name with
  | none => rfl
  | some f =>
    rw [Option.map_some, Rule.supply, rule.hold_of_forall_ne items f, Field.holding_self]
    exact name_of_get? hf ▸ hne

lemma steady_of_append {rule : Rule α} {before after : List (String × α)} {a : String × α}
    (h : KeysIncrease (before ++ a :: after)) : rule.Steady before :=
  .inl (nodup_keys (List.pairwise_append.1 h).1)

/-- Two loops over items that differ under the password. Everything turns on whether the loop gets
that far, and what is reported there. -/
theorem Alike.offerAll_split {rule : Rule α} {before after : List (String × α)} {x y : α} {P : Prop}
    (h : r.Alike s) (htwin : ∀ a, rule.Twin a a) (hfits : rule.Fits "password" x y)
    (ho : KeysIncrease (before ++ ("password",x) :: after))
    (hp : ∀ f g, r.get? "password" = some f → s.get? "password" = some g → f.Alike g →
      SameIff (rule x f).events (rule y g).events P) :
    (Registry.offerAll rule (before ++ ("password",x) :: after) r).Alike
        (Registry.offerAll rule (before ++ ("password",y) :: after) s) ∧
      SameIff (Registry.offerAll rule (before ++ ("password",x) :: after) r).events
        (Registry.offerAll rule (before ++ ("password",y) :: after) s).events
        ((∀ a ∈ before, r.refusal? rule a = none) → (r.get? "password").isSome → P) := by
  have hbefore := h.offerAll_same htwin before
  have hsteady : rule.Steady before := steady_of_append ho
  have hne : ∀ a ∈ before, a.1 ≠ "password" := by
    intro a ha heq
    have hlt := (List.pairwise_append.1 ho).2.2 a ha ("password",x) (by simp)
    rw [heq] at hlt
    exact String.lt_irrefl _ hlt
  rw [offerAll_append, offerAll_append]
  have hreached : (∃ value, (Registry.offerAll rule before r).result = .ok value) ↔
      ∀ a ∈ before, r.refusal? rule a = none := by
    rw [← offerAll_result_eq_ok_iff hsteady]
    exact ⟨fun ⟨_,hok⟩ => hok,fun hok => ⟨(),hok⟩⟩
  rw [← hreached]
  refine hbefore.andThen_of_alike fun _ hok => ?_
  -- no item before the password's is for it, so its field is still the one of the start
  have hget := get?_offerAll_of_forall_ne hsteady hok hne
  have hget' := get?_offerAll_of_forall_ne hsteady (hbefore.result ▸ hok) hne
  have hoffer := hbefore.registry.offer hfits
  refine hoffer.andThen_of_twin ?_ fun _ => hoffer.registry.offerAll_same htwin after
  rcases h.get? "password" with ⟨hr,hs⟩ | ⟨f,g,hf,hg,hfg⟩
  · rw [events_offer_of_none (hget.trans hr), events_offer_of_none (hget'.trans hs)]
    exact .of_eq rfl (by simp [hr])
  · rw [events_offer (hget.trans hf), events_offer (hget'.trans hg)]
    exact (hp f g hf hg hfg).congr (by simp [hf])

end Registry

/-- The text that a parameter gives to the password, if it gives one. -/
def Field.passwordText (item : Json) : Option String :=
  match password.valueFor item with
  | .ok (some value) => some value.display
  | _ => none

lemma Field.valueFor_of_passwordText {item : Json} (h : (passwordText item).isSome = true) :
    ∃ v, password.valueFor item = .ok (some v) ∧ passwordText item = some v.display := by
  unfold passwordText at h ⊢
  split at h
  · next v hv => exact ⟨v,hv,rfl⟩
  · cases h

/-- Parameters that both give a text to the password. -/
def GiveText (x y : Json) : Prop :=
  (Field.passwordText x).isSome = true ∧ (Field.passwordText y).isSome = true

/-- Injection follows the order of names. It comes to the password if each smaller name is that of
a field which can take its parameter. -/
def InjectionReaches (parameters : Dictionary Json) : Prop :=
  ∀ a ∈ parameters.entries, a.1 < "password" →
    ∃ f given, Registry.standard.get? a.1 = some f ∧ f.valueFor a.2 = .ok given

namespace Rule

lemma events_parameter_password {item : Json} {v : Value} (held : Option Value)
    (h : Field.password.valueFor item = .ok (some v)) :
    (parameter item (Field.password.holding held)).events =
      [Registry.parameterEvent "password" v] := by
  simp only [parameter, Field.valueFor_hold, h]
  rfl

lemma parameter_sameIff {x y : Json} (h : GiveText x y) {f g : Field} (hf : f.name = "password")
    (hfg : f.Alike g) : SameIff (parameter x f).events (parameter y g).events
      (Field.passwordText x = Field.passwordText y) := by
  obtain ⟨v,hv,hx⟩ := Field.valueFor_of_passwordText h.1
  obtain ⟨w,hw,hy⟩ := Field.valueFor_of_passwordText h.2
  cases hfg with
  | same hne => exact absurd hf hne
  | password =>
    rw [events_parameter_password _ hv, events_parameter_password _ hw, hx, hy]
    exact ⟨rfl,by simp [Registry.parameterEvent]⟩

lemma parameter_fits_of_giveText {x y : Json} (h : GiveText x y) :
    parameter.Fits "password" x y := by
  obtain ⟨v,hv,-⟩ := Field.valueFor_of_passwordText h.1
  obtain ⟨w,hw,-⟩ := Field.valueFor_of_passwordText h.2
  exact parameter_fits hv hw

/-- The events of two entries show their texts if the entries are applied. -/
lemma entry_sameIff (p : Policy) (x y : String) {f g : Field} (hf : f.name = "password")
    (hfg : f.Alike g) : SameIff (entry p x f).events (entry p y g).events
      (p.admits f = .ok true → x = y) := by
  cases hfg with
  | same hne => exact absurd hf hne
  | @password v w hvw =>
    simp only [entry, ← admits_password p hvw]
    cases p.admits (Field.password.holding (v.map .text)) with
    | error e => exact .of_eq rfl (by simp)
    | ok admitted =>
      cases admitted with
      | false => exact .of_eq rfl (by simp)
      | true =>
        refine ⟨rfl,?_⟩
        simp [Registry.settingEvent, coerce, Value.display, Field.password]

end Rule

lemma Policy.admits_eq_true_iff {p : Policy} {f : Field} :
    p.admits f = .ok true ↔ p.Replaces f := by
  rcases p.admits_spec f with ⟨h,ha⟩ | ⟨h,-,ha⟩ | ⟨h,-,reason,-,ha⟩
  · exact iff_of_true ha h
  · exact iff_of_false (by simp [ha]) h
  · exact iff_of_false (by simp [ha]) h

namespace Registry

/-- Injection shows the text that it gives to the password. -/
theorem injectParameters_sameIff {d e : Dictionary Json} (h : d.Alike GiveText e) :
    (standard.injectParameters d).Alike (standard.injectParameters e) ∧
      SameIff (standard.injectParameters d).events (standard.injectParameters e).events
        (InjectionReaches d → (d.get? "password").bind Field.passwordText =
          (e.get? "password").bind Field.passwordText) := by
  simp only [injectParameters, injectEntries_eq_offerAll]
  rcases h with rfl | ⟨before,after,x,y,hxy,hd,he⟩
  · have htwin := standard_alike.offerAll_same Rule.parameter_twin d.entries
    exact ⟨htwin.toAlike,.of_eq htwin.events fun _ => rfl⟩
  · obtain ⟨halike,hev⟩ := standard_alike.offerAll_split Rule.parameter_twin
      (Rule.parameter_fits_of_giveText hxy) (hd ▸ d.ordered : KeysIncrease _)
      fun f g hf _ hfg => Rule.parameter_sameIff hxy (name_of_get? hf) hfg
    rw [hd, he]
    refine ⟨halike,hev.congr ?_⟩
    have hreaches : (∀ a ∈ before, standard.refusal? Rule.parameter a = none) ↔
        InjectionReaches d := by
      rw [InjectionReaches, Dictionary.forall_before_iff hd]
      simp only [refusal?_eq_none_iff]
      rfl
    have hfound : (standard.get? "password").isSome = true := by decide
    rw [hreaches, Dictionary.get?_of_entries hd, Dictionary.get?_of_entries he]
    simp [hfound]

/-- Resolution shows the text of the password's entry if it comes to the entry and applies it. -/
theorem Alike.resolve_sameIff (h : r.Alike s) (p : Policy) {source other : Properties.Source}
    (hs : source.Alike (fun _ _ => True) other) :
    (r.resolve p source).Alike (s.resolve p other) ∧
      SameIff (r.resolve p source).events (s.resolve p other).events
        ((∀ a ∈ source.entries, a.1 < "password" → ∀ e, ¬ p.Fault r a.1 e) →
          (∃ f, r.get? "password" = some f ∧ p.Replaces f) →
          source.get? "password" = other.get? "password") := by
  simp only [resolve, resolveEntries_eq_offerAll]
  rcases hs with rfl | ⟨before,after,x,y,-,hd,he⟩
  · have htwin := h.offerAll_same (Rule.entry_twin p) source.entries
    exact ⟨htwin.toAlike,.of_eq htwin.events fun _ _ => rfl⟩
  · have hfits : (Rule.entry p).Fits "password" x y := Rule.entry_fits p fun hne => absurd rfl hne
    obtain ⟨halike,hev⟩ := h.offerAll_split (P := ∀ f, r.get? "password" = some f →
        p.admits f = .ok true → x = y) (Rule.entry_twin p) hfits
      (hd ▸ source.ordered : KeysIncrease _) fun f g hf _ hfg =>
        (Rule.entry_sameIff p x y (name_of_get? hf) hfg).congr (by simp [hf])
    rw [hd, he]
    refine ⟨halike,hev.congr ?_⟩
    rw [← hd, Dictionary.forall_before_iff hd]
    simp only [refusal?_entry_eq_none_iff, Policy.admits_eq_true_iff,
      Dictionary.get?_of_entries hd, Dictionary.get?_of_entries he, Option.some.injEq]
    refine imp_congr_right fun _ => ?_
    constructor
    · rintro hshow ⟨f,hf,hreplaces⟩
      exact hshow (by simp [hf]) f hf hreplaces
    · intro hshow _ f hf hreplaces
      exact hshow ⟨f,hf,hreplaces⟩

end Registry

end LayeredSettings
