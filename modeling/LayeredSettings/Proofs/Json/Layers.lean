import Mathlib.Data.List.DropRight
import LayeredSettings.Proofs.Json.Merge

/-! Any number of values laid over one another, told place by place and not value by value. Main
statement: merging a list of values one after the other gives at each place what the values have to
say there. -/
namespace LayeredSettings.Json

def isNull : Json → Bool
  | null => true
  | _ => false

def isObject : Json → Bool
  | object _ => true
  | _ => false

def keys : Json → List String
  | object members => members.map (·.1)
  | _ => []

/-- What an object holds under a key; other values hold nothing. -/
def get? (key : String) : Json → Option Json
  | object members => members.lookup key
  | _ => none

/-- The values that say something: all but the nulls. -/
def said (values : List Json) : List Json := values.filter (!·.isNull)

/-- The objects at the end, back to the last value of another sort. -/
def finalObjects (values : List Json) : List Json := (said values).rtakeWhile isObject

lemma sizeOf_le_of_sublist {xs ys : List Json} (h : xs.Sublist ys) : sizeOf xs ≤ sizeOf ys := by
  induction h with
  | slnil => exact Nat.le_refl _
  | cons y _ ih =>
    simp only [List.cons.sizeOf_spec]
    omega
  | cons_cons x _ ih =>
    simp only [List.cons.sizeOf_spec]
    omega

lemma sizeOf_lt_of_get? {key : String} {v inner : Json} (h : v.get? key = some inner) :
    sizeOf inner < sizeOf v := by
  cases v with
  | object members =>
    obtain ⟨before,after,rfl,-⟩ := List.lookup_eq_some_iff.1 h
    have hmem : (key,inner) ∈ before ++ (key,inner) :: after := by simp
    have hlt := List.sizeOf_lt_of_mem hmem
    simp only [Prod.mk.sizeOf_spec] at hlt
    rw [object.sizeOf_spec]
    omega
  | _ => cases h

lemma sizeOf_filterMap_get?_le (key : String) (values : List Json) :
    sizeOf (values.filterMap (get? key)) ≤ sizeOf values := by
  induction values with
  | nil => exact Nat.le_refl _
  | cons v values ih =>
    rw [List.filterMap_cons, List.cons.sizeOf_spec]
    split
    · omega
    · rename_i inner hinner
      have hlt := sizeOf_lt_of_get? hinner
      rw [List.cons.sizeOf_spec]
      omega

/-- What some of the values hold under a key is smaller than the values. -/
lemma sizeOf_filterMap_get?_lt (key : String) {some values : List Json}
    (h : some.Sublist values) (hne : values ≠ []) :
    sizeOf (some.filterMap (get? key)) < sizeOf values := by
  cases h with
  | slnil => exact absurd rfl hne
  | cons v h =>
    have hsome := sizeOf_filterMap_get?_le key some
    have hle := sizeOf_le_of_sublist h
    rw [List.cons.sizeOf_spec]
    omega
  | @cons_cons rest values v h =>
    have hrest := sizeOf_filterMap_get?_le key rest
    have hle := sizeOf_le_of_sublist h
    rw [List.filterMap_cons, List.cons.sizeOf_spec]
    split
    · omega
    · rename_i inner hinner
      have hlt := sizeOf_lt_of_get? hinner
      rw [List.cons.sizeOf_spec]
      omega

lemma finalObjects_sublist (values : List Json) : (finalObjects values).Sublist values :=
  (List.rtakeWhile_suffix _ _).sublist.trans List.filter_sublist

lemma ne_nil_of_getLast?_said {values : List Json} {last : Json}
    (h : (said values).getLast? = some last) : values ≠ [] := by
  rintro rfl
  cases h

/-- Values laid over one another. The last one that says something stays if it is no object. If it
is one, it is merged with the objects directly before it: under each of their keys stands what they
hold there, laid over one another. -/
def pointwise (values : List Json) : Json :=
  match _h : (said values).getLast? with
  | none => .null
  | some last =>
    if last.isObject then
      ofMembers (((finalObjects values).flatMap keys).map fun key =>
        (key,pointwise ((finalObjects values).filterMap (get? key))))
    else last
termination_by sizeOf values
decreasing_by
  exact sizeOf_filterMap_get?_lt key (finalObjects_sublist values) (ne_nil_of_getLast?_said _h)

/-- A path of keys leads somewhere in the value. -/
def HoldsPath : Json → List String → Prop
  | _, [] => True
  | v, key :: path => ∃ inner, v.get? key = some inner ∧ inner.HoldsPath path

/-- Nothing but objects and nulls stands in the value along a path of keys, its end apart. -/
def Yields : Json → List String → Prop
  | _, [] => True
  | v, key :: path => v = .null ∨ v.isObject = true ∧ ∀ inner ∈ v.get? key, inner.Yields path

lemma exists_of_isObject {v : Json} (h : v.isObject = true) : ∃ members, v = .object members := by
  cases v with
  | object members => exact ⟨members,rfl⟩
  | _ => cases h

lemma ne_object_of_not_isObject {v : Json} (h : ¬ v.isObject = true)
    (members : List (String × Json)) : v ≠ .object members := by
  rintro rfl
  exact h rfl

lemma ordered_of_get? {v inner : Json} {key : String} (hv : v.Ordered)
    (h : v.get? key = some inner) : inner.Ordered := by
  cases v with
  | object members =>
    rw [Ordered] at hv
    obtain ⟨-,hmembers⟩ := hv
    change members.lookup key = some inner at h
    induction members with
    | nil => cases h
    | cons member rest ih =>
      rw [OrderedMembers] at hmembers
      rw [Dictionary.lookup_cons_if] at h
      split_ifs at h with hk
      · obtain rfl := Option.some.inj h
        exact hmembers.1
      · exact ih hmembers.2 h
  | _ => cases h

lemma mem_keys_iff {v : Json} {key : String} : key ∈ v.keys ↔ ∃ inner, v.get? key = some inner := by
  cases v with
  | object members =>
    rw [← Option.ne_none_iff_exists']
    exact (not_iff_comm.1 lookup_eq_none_iff_notMem.symm).symm
  | _ => simp [keys, get?]

lemma get?_merge (base : Json) {overlay : Json} (ho : overlay.isObject = true) (h : overlay.Ordered)
    (key : String) :
    (merge base overlay).get? key = Option.merge merge (base.get? key) (overlay.get? key) := by
  obtain ⟨members,rfl⟩ := exists_of_isObject ho
  rw [Ordered] at h
  by_cases hb : base.isObject = true
  · obtain ⟨below,rfl⟩ := exists_of_isObject hb
    exact lookup_mergeMembers (nodup_keys h.1) key
  · rw [merge_eq_overlay Json.noConfusion (.inl (ne_object_of_not_isObject hb))]
    have hnone : base.get? key = none := by
      cases base with
      | object below => exact absurd rfl hb
      | _ => rfl
    rw [hnone]
    cases (object members).get? key <;> rfl

lemma mergeAll_append_singleton (values : List Json) (v : Json) :
    mergeAll (values ++ [v]) = merge (mergeAll values) v := by
  rw [mergeAll, List.foldl_append]
  rfl

lemma mergeAll_said (values : List Json) : mergeAll (said values) = mergeAll values := by
  induction values using List.reverseRecOn with
  | nil => rfl
  | append_singleton values v ih =>
    rw [said, List.filter_append, mergeAll_append_singleton, ← ih]
    by_cases hv : v.isNull = true
    · have hnull : v = .null := by
        cases v with
        | null => rfl
        | _ => cases hv
      subst hnull
      rw [merge_null_right]
      exact congrArg mergeAll (List.append_nil _)
    · rw [List.filter_cons_of_pos (by simpa using hv)]
      exact mergeAll_append_singleton _ v

lemma ne_null_of_mem_said {values : List Json} {v : Json} (h : v ∈ said values) : v ≠ .null := by
  rintro rfl
  simp [said, isNull] at h

lemma mergeAll_of_plain {values : List Json} {last : Json} (hlast : values.getLast? = some last)
    (hnull : last ≠ .null) (hplain : ¬ last.isObject = true) : mergeAll values = last := by
  obtain ⟨init,rfl⟩ := List.getLast?_eq_some_iff.1 hlast
  rw [mergeAll_append_singleton]
  exact merge_eq_overlay hnull (.inr (ne_object_of_not_isObject hplain))

/-- An object stays as it is over a value that is none. -/
lemma merge_plain_object {base overlay : Json} (hb : ¬ base.isObject = true)
    (ho : overlay.isObject = true) : merge base overlay = overlay := by
  refine merge_eq_overlay ?_ (.inl (ne_object_of_not_isObject hb))
  rintro rfl
  cases ho

/-- What stands before the objects at the end does not matter. -/
lemma mergeAll_finalObjects {values : List Json} (h : finalObjects values ≠ []) :
    mergeAll (finalObjects values) = mergeAll values := by
  have hsplit : (said values).rdropWhile isObject ++ finalObjects values = said values :=
    List.rdropWhile_append_rtakeWhile
  have hbefore : ¬ (mergeAll ((said values).rdropWhile isObject)).isObject = true := by
    cases hlast : ((said values).rdropWhile isObject).getLast? with
    | none =>
      rw [List.getLast?_eq_none_iff.1 hlast]
      exact Bool.false_ne_true
    | some last =>
      have hne : (said values).rdropWhile isObject ≠ [] := fun hnil => by simp [hnil] at hlast
      have hplain := List.rdropWhile_last_not isObject (said values) hne
      rw [List.getLast?_eq_some_getLast hne] at hlast
      obtain rfl := Option.some.inj hlast
      have hmem := (List.rdropWhile_prefix isObject (said values)).subset (List.getLast_mem hne)
      rwa [mergeAll_of_plain (List.getLast?_eq_some_getLast hne) (ne_null_of_mem_said hmem) hplain]
  rw [← mergeAll_said values, ← hsplit]
  generalize (said values).rdropWhile isObject = before at hbefore
  cases hrun : finalObjects values with
  | nil => exact absurd hrun h
  | cons v rest =>
    have hv : v.isObject = true := by
      have hmem : v ∈ finalObjects values := hrun ▸ List.mem_cons_self
      exact List.mem_rtakeWhile_imp hmem
    simp only [mergeAll, List.foldl_append, List.foldl_cons]
    rw [merge_null_left]
    exact congrArg (rest.foldl merge ·) (merge_plain_object hbefore hv).symm

lemma filterMap_get?_eq_nil {run : List Json} {key : String} (h : key ∉ run.flatMap keys) :
    run.filterMap (get? key) = [] := by
  rw [List.filterMap_eq_nil_iff]
  intro v hv
  rw [Option.eq_none_iff_forall_ne_some]
  intro inner hinner
  exact h (List.mem_flatMap.2 ⟨v,hv,mem_keys_iff.2 ⟨inner,hinner⟩⟩)

/-- Objects merged one after the other hold under a key what all of them hold there, merged. -/
lemma get?_mergeAll {run : List Json} (h : ∀ v ∈ run, v.isObject = true ∧ v.Ordered)
    (key : String) : (mergeAll run).get? key =
      if key ∈ run.flatMap keys then some (mergeAll (run.filterMap (get? key))) else none := by
  induction run using List.reverseRecOn with
  | nil => rfl
  | append_singleton run v ih =>
    rw [List.forall_mem_append] at h
    obtain ⟨hobject,hordered⟩ := h.2 v List.mem_cons_self
    rw [mergeAll_append_singleton, get?_merge _ hobject hordered, ih h.1, List.filterMap_append,
      List.flatMap_append, List.flatMap_singleton]
    cases hv : v.get? key with
    | none =>
      have hkey : key ∉ v.keys := by
        intro hk
        obtain ⟨inner,hinner⟩ := mem_keys_iff.1 hk
        rw [hv] at hinner
        cases hinner
      have hlast : [v].filterMap (get? key) = [] := by simp [hv]
      have hiff : key ∈ run.flatMap keys ++ v.keys ↔ key ∈ run.flatMap keys := by
        rw [List.mem_append, or_iff_left hkey]
      simp only [hiff, hlast, List.append_nil]
      split_ifs <;> rfl
    | some inner =>
      have hkey : key ∈ v.keys := mem_keys_iff.2 ⟨inner,hv⟩
      have hlast : [v].filterMap (get? key) = [inner] := by simp [hv]
      rw [if_pos (List.mem_append_right _ hkey), hlast, mergeAll_append_singleton]
      split_ifs with hrun
      · rfl
      · rw [filterMap_get?_eq_nil hrun, mergeAll_nil, merge_null_left]
        rfl

lemma exists_mergeAll_eq_object {run : List Json} (hne : run ≠ [])
    (h : ∀ v ∈ run, v.isObject = true ∧ v.Ordered) :
    ∃ members, mergeAll run = .object members ∧ KeysIncrease members := by
  induction run using List.reverseRecOn with
  | nil => exact absurd rfl hne
  | append_singleton run v ih =>
    rw [List.forall_mem_append] at h
    obtain ⟨hobject,hordered⟩ := h.2 v List.mem_cons_self
    obtain ⟨members,rfl⟩ := exists_of_isObject hobject
    rw [Ordered] at hordered
    rw [mergeAll_append_singleton]
    by_cases hrun : run = []
    · subst hrun
      exact ⟨members,merge_null_left _,hordered.1⟩
    · obtain ⟨below,hbelow,hincrease⟩ := ih hrun h.1
      rw [hbelow]
      exact ⟨_,rfl,keysIncrease_mergeMembers hincrease⟩

lemma lookup_ofList_graph (ks : List String) (f : String → Json) (key : String) :
    (Dictionary.ofList (ks.map fun k => (k,f k))).entries.lookup key =
      if key ∈ ks then some (f key) else none := by
  have h := Dictionary.get?_ofList (ks.map fun k => (k,f k)) key
  rw [Dictionary.get?] at h
  rw [h, ← List.map_reverse]
  split_ifs with hk
  · exact List.lookup_graph f (List.mem_reverse.2 hk)
  · rw [lookup_eq_none_iff_notMem]
    simpa [Function.comp_def] using hk

lemma finalObjects_spec {values : List Json} (h : ∀ v ∈ values, v.Ordered) :
    ∀ v ∈ finalObjects values, v.isObject = true ∧ v.Ordered := by
  intro v hv
  exact ⟨List.mem_rtakeWhile_imp hv,h v ((finalObjects_sublist values).subset hv)⟩

lemma finalObjects_ne_nil {values : List Json} {last : Json}
    (hlast : (said values).getLast? = some last) (h : last.isObject = true) :
    finalObjects values ≠ [] := by
  obtain ⟨init,hinit⟩ := List.getLast?_eq_some_iff.1 hlast
  rw [finalObjects, hinit, List.rtakeWhile_concat_pos _ _ _ h]
  exact List.append_ne_nil_of_right_ne_nil _ (List.cons_ne_nil _ _)

lemma ordered_of_mem_filterMap_get? {values : List Json} (h : ∀ v ∈ values, v.Ordered)
    {key : String} : ∀ v ∈ values.filterMap (get? key), v.Ordered := by
  intro inner hinner
  obtain ⟨v,hv,hget⟩ := List.mem_filterMap.1 hinner
  exact ordered_of_get? (h v hv) hget

lemma mergeAll_eq {values : List Json} (h : ∀ v ∈ values, v.Ordered) :
    mergeAll values = pointwise values := by
  fun_induction pointwise values with
  | case1 values hnone =>
    rw [← mergeAll_said, List.getLast?_eq_none_iff.1 hnone]
    rfl
  | case2 values last hlast hobject ih =>
    have hne : finalObjects values ≠ [] := finalObjects_ne_nil hlast hobject
    have hrun := finalObjects_spec h
    obtain ⟨members,hmembers,hincrease⟩ := exists_mergeAll_eq_object hne hrun
    rw [← mergeAll_finalObjects hne, hmembers, ofMembers]
    congr 1
    refine keysIncrease_ext hincrease (Dictionary.ordered _) fun key => ?_
    have hmerged : members.lookup key = _ := hmembers ▸ get?_mergeAll hrun key
    rw [hmerged, lookup_ofList_graph, ih key]
    exact ordered_of_mem_filterMap_get? fun v hv => (hrun v hv).2
  | case3 values last hlast hplain =>
    have hmem := List.mem_of_getLast? hlast
    rw [← mergeAll_said, mergeAll_of_plain hlast (ne_null_of_mem_said hmem) hplain]

/-- No path of the overlay is lost. -/
lemma HoldsPath.merge_overlay {base overlay : Json} {path : List String}
    (h : overlay.HoldsPath path) (ho : overlay.Ordered) : (merge base overlay).HoldsPath path := by
  induction path generalizing base overlay with
  | nil => trivial
  | cons key path ih =>
    obtain ⟨inner,hinner,hpath⟩ := h
    have hobject : overlay.isObject = true := by
      cases overlay with
      | object members => rfl
      | _ => cases hinner
    have hget := get?_merge base hobject ho key
    rw [hinner] at hget
    cases hbase : base.get? key with
    | none => exact ⟨inner,by rw [hget, hbase]; rfl,hpath⟩
    | some below =>
      exact ⟨merge below inner,by rw [hget, hbase]; rfl,ih hpath (ordered_of_get? ho hinner)⟩

/-- A path of the base is lost only where something stands in its way. -/
lemma HoldsPath.merge_base {base overlay : Json} {path : List String} (h : base.HoldsPath path)
    (ho : overlay.Ordered) (hy : overlay.Yields path) : (merge base overlay).HoldsPath path := by
  induction path generalizing base overlay with
  | nil => trivial
  | cons key path ih =>
    rcases hy with rfl | ⟨hobject,hinner⟩
    · rwa [merge_null_right]
    · obtain ⟨below,hbelow,hpath⟩ := h
      have hget := get?_merge base hobject ho key
      rw [hbelow] at hget
      cases hover : overlay.get? key with
      | none => exact ⟨below,by rw [hget, hover]; rfl,hpath⟩
      | some inner =>
        exact ⟨merge below inner,by rw [hget, hover]; rfl,
          ih hpath (ordered_of_get? ho hover) (hinner inner hover)⟩

lemma HoldsPath.foldl_merge {base : Json} {path : List String} (h : base.HoldsPath path)
    {after : List Json} (ha : ∀ overlay ∈ after, overlay.Ordered ∧ overlay.Yields path) :
    (after.foldl merge base).HoldsPath path := by
  induction after generalizing base with
  | nil => exact h
  | cons overlay after ih =>
    rw [List.forall_mem_cons] at ha
    exact ih (h.merge_base ha.1.1 ha.1.2) ha.2

/-- Merging a list of values one after the other is laying them over one another place by place. A
path of keys that one of the values holds is kept, if those after it hold nothing but objects and
nulls along it. -/
theorem mergeAll_eq_pointwise (values : List Json) (h : ∀ v ∈ values, v.Ordered) :
    mergeAll values = pointwise values ∧
    ∀ before v after path, values = before ++ v :: after → v.HoldsPath path →
      (∀ overlay ∈ after, overlay.Yields path) → (mergeAll values).HoldsPath path := by
  refine ⟨mergeAll_eq h,fun before v after path hvalues hpath hyields => ?_⟩
  subst hvalues
  rw [List.forall_mem_append, List.forall_mem_cons] at h
  rw [mergeAll, List.foldl_append, List.foldl_cons]
  refine (hpath.merge_overlay h.2.1).foldl_merge fun overlay ho => ?_
  exact ⟨h.2.2 overlay ho,hyields overlay ho⟩

/-- Values in which a text and a null lie over objects. -/
def sampleLayers : List Json :=
  [object [("a",object [("x",bool true)])],object [("a",string "s"),("b",null)],
    object [("a",object [("y",null)])],null,object [("a",null)]]

/-- The text cuts off what was below it. The null does not, and it stays where nothing else was ever
said. -/
theorem mergeAll_eq_pointwise_sampleLayers :
    (∀ v ∈ sampleLayers, v.Ordered) ∧
    pointwise sampleLayers = object [("a",object [("y",null)]),("b",null)] ∧
    (mergeAll sampleLayers).HoldsPath ["a","y"] := by
  have h : ∀ v ∈ sampleLayers, v.Ordered := by
    simp only [sampleLayers, List.forall_mem_cons, Ordered, OrderedMembers]
    exact ⟨by decide,by decide,by decide,trivial,by decide,List.forall_mem_nil _⟩
  obtain ⟨heq,hpath⟩ := mergeAll_eq_pointwise sampleLayers h
  refine ⟨h,heq.symm,?_⟩
  refine hpath [object [("a",object [("x",bool true)])],object [("a",string "s"),("b",null)]]
    (object [("a",object [("y",null)])]) [null,object [("a",null)]] ["a","y"] rfl ?_ ?_
  · exact ⟨object [("y",null)],rfl,null,rfl,trivial⟩
  · simp [Yields, isObject, get?]

end LayeredSettings.Json
