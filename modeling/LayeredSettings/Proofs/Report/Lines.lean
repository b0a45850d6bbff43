import Mathlib.Data.List.ReduceOption
import LayeredSettings.Proofs.Password.Output

/-! Settings as lines of text. Main statement: settings whose texts have no line feed are printed
alike exactly if they differ at most in the text of the password. The text is read from the front:
a label ends at its colon and a value at its line feed, and the labels tell which lines are left
out. -/
namespace LayeredSettings.Settings

/-- Texts that are cut at the first place of a character agree before and after it. -/
lemma eq_of_append_cons_eq {c : Char} {before before' after after' : List Char} (h : c ∉ before)
    (h' : c ∉ before') (heq : before ++ c :: after = before' ++ c :: after') :
    before = before' ∧ after = after' := by
  have htake {cs : List Char} (hcs : c ∉ cs) (rest : List Char) :
      (cs ++ c :: rest).takeWhile (· != c) = cs := by
    have hall : ∀ d ∈ cs, (d != c) = true := fun d hd => bne_iff_ne.2 fun hdc => hcs (hdc ▸ hd)
    rw [List.takeWhile_append_of_pos hall, List.takeWhile_cons_of_neg (by simp), List.append_nil]
  obtain rfl : before = before' := by rw [← htake h after, heq, htake h' after']
  exact ⟨rfl,(List.cons.inj (List.append_cancel_left heq)).2⟩

lemma toList_line (name value : String) :
    (line name value).toList = name.toList ++ ':' :: ' ' :: (value.toList ++ ['\n']) := by
  simp [line]

lemma label_eq_of_line_append_eq {name name' value value' : String} {rest rest' : List Char}
    (hname : ':' ∉ name.toList) (hname' : ':' ∉ name'.toList)
    (h : (line name value).toList ++ rest = (line name' value').toList ++ rest') :
    name = name' := by
  rw [toList_line, toList_line, List.append_assoc, List.append_assoc] at h
  exact String.toList_inj.1 (eq_of_append_cons_eq hname hname' h).1

/-- A line can be taken off the front of a text in one way only. -/
lemma line_append_cancel {name value value' : String} {rest rest' : List Char}
    (hvalue : '\n' ∉ value.toList) (hvalue' : '\n' ∉ value'.toList)
    (h : (line name value).toList ++ rest = (line name value').toList ++ rest') :
    value = value' ∧ rest = rest' := by
  simp only [toList_line, List.append_assoc, List.cons_append, List.append_cancel_left_eq,
    List.cons.injEq, true_and, List.nil_append] at h
  obtain ⟨hv,hrest⟩ := eq_of_append_cons_eq hvalue hvalue' h
  exact ⟨String.toList_inj.1 hv,hrest⟩

/-- The lines of the values that are there, each behind its label. -/
def linesOf (entries : List (String × Option String)) : List Char :=
  entries.flatMap fun (name,value) => (optionalLine name value).toList

/-- The first label of a text of lines is one of their labels. -/
lemma mem_labels_of_linesOf {entries : List (String × Option String)}
    (hlabels : ∀ entry ∈ entries, ':' ∉ entry.1.toList) {name value : String} {rest : List Char}
    (hname : ':' ∉ name.toList) (h : linesOf entries = (line name value).toList ++ rest) :
    name ∈ entries.map (·.1) := by
  induction entries with
  | nil =>
    rw [toList_line, List.append_assoc] at h
    exact absurd h (by simp [linesOf])
  | cons entry entries ih =>
    obtain ⟨label,given⟩ := entry
    rw [List.forall_mem_cons] at hlabels
    cases given with
    | none => exact List.mem_cons_of_mem _ (ih hlabels.2 h)
    | some text =>
      obtain rfl := label_eq_of_line_append_eq hlabels.1 hname h
      exact List.mem_cons_self

/-- Optional values under distinct labels are told by their lines. -/
theorem linesOf_injective {entries others : List (String × Option String)}
    (hsame : entries.map (·.1) = others.map (·.1)) (hdistinct : (entries.map (·.1)).Nodup)
    (hlabels : ∀ entry ∈ entries, ':' ∉ entry.1.toList)
    (hentries : ∀ entry ∈ entries, ∀ text ∈ entry.2, '\n' ∉ text.toList)
    (hothers : ∀ entry ∈ others, ∀ text ∈ entry.2, '\n' ∉ text.toList)
    (h : linesOf entries = linesOf others) : entries = others := by
  induction entries generalizing others with
  | nil => exact (List.map_eq_nil_iff.1 hsame.symm).symm
  | cons entry entries ih =>
    obtain ⟨⟨name,given'⟩,others,rfl,rfl,hrest⟩ := List.map_eq_cons_iff.1 hsame.symm
    obtain ⟨name,given⟩ := entry
    rw [List.map_cons, List.nodup_cons] at hdistinct
    rw [List.forall_mem_cons] at hlabels hentries hothers
    have hlabels' : ∀ entry ∈ others, ':' ∉ entry.1.toList := by
      intro entry hentry
      obtain ⟨same,hmem,hlabel⟩ := List.mem_map.1 (hrest ▸ List.mem_map_of_mem hentry)
      exact hlabel ▸ hlabels.2 same hmem
    -- A line that only one side has would have to be a later one on the other.
    cases given with
    | none =>
      cases given' with
      | none => rw [ih hrest.symm hdistinct.2 hlabels.2 hentries.2 hothers.2 h]
      | some text' =>
        have hmem := mem_labels_of_linesOf hlabels.2 hlabels.1 h
        exact absurd hmem hdistinct.1
    | some text =>
      cases given' with
      | none =>
        have hmem := mem_labels_of_linesOf hlabels' hlabels.1 h.symm
        exact absurd (hrest ▸ hmem) hdistinct.1
      | some text' =>
        obtain ⟨rfl,htail⟩ := line_append_cancel (hentries.1 text rfl) (hothers.1 text' rfl) h
        rw [ih hrest.symm hdistinct.2 hlabels.2 hentries.2 hothers.2 htail]

/-- What is printed, in order: each label, and what stands behind it if it is there. -/
def shown (s : Settings) : List (String × Option String) := [
  ("changeLogFile",some s.changeLogFile),
  ("dropFirst",some (showBool s.dropFirst)),
  ("contexts",some s.contexts),
  ("propertiesFile",s.propertiesFile),
  ("propertyFileWillOverride",some (showBool s.propertiesOverride)),
  ("driver",s.connection.driver),
  ("url",s.connection.url),
  ("username",s.connection.username),
  ("password",s.connection.password.map fun text => mask (some text)),
  ("promptOnNonLocalDatabase",some (showBool s.connection.promptOnNonLocalDatabase))]

lemma toList_toText (s : Settings) : s.toText.toList = linesOf s.shown := by
  simp only [toText, linesOf, shown, List.flatMap_cons, List.flatMap_nil, String.toList_append,
    List.append_assoc, List.append_nil, optionalLine]

/-- The texts that are printed as they are; that of the password is none of them. -/
def printedTexts (s : Settings) : List String :=
  [some s.changeLogFile,some s.contexts,s.propertiesFile,s.connection.driver,s.connection.url,
    s.connection.username].reduceOption

lemma lineFeed_notMem_shown {s : Settings} (h : ∀ text ∈ s.printedTexts, '\n' ∉ text.toList) :
    ∀ entry ∈ s.shown, ∀ text ∈ entry.2, '\n' ∉ text.toList := by
  have hbool (b : Bool) : ∀ text ∈ some (showBool b), '\n' ∉ text.toList := by
    rintro _ ⟨⟩
    cases b <;> decide
  have hmask : ∀ text ∈ s.connection.password.map fun text => mask (some text),
      '\n' ∉ text.toList := by
    cases s.connection.password with
    | none => nofun
    | some password =>
      rintro _ ⟨⟩
      change '\n' ∉ "*****".toList
      decide
  have htexts : ∀ given ∈ [some s.changeLogFile,some s.contexts,s.propertiesFile,
      s.connection.driver,s.connection.url,s.connection.username],
      ∀ text ∈ given, '\n' ∉ text.toList := by
    rintro given hgiven text ⟨⟩
    exact h text (List.reduceOption_mem_iff.2 hgiven)
  simp only [List.forall_mem_cons] at htexts
  obtain ⟨hfile,hcontexts,hproperties,hdriver,hurl,husername,-⟩ := htexts
  simp only [shown, List.forall_mem_cons]
  exact ⟨hfile,hbool _,hcontexts,hproperties,hbool _,hdriver,hurl,husername,hmask,hbool _,
    List.forall_mem_nil _⟩

lemma showBool_injective : Function.Injective showBool := by
  intro b c h
  revert b c
  decide

lemma alike_of_shown_eq {s t : Settings} (h : s.shown = t.shown) : s.Alike t := by
  obtain ⟨_,_,_,_,_,_,_,_,v,_⟩ := s
  obtain ⟨_,_,_,_,_,_,_,_,w,_⟩ := t
  simp only [shown, List.cons.injEq, Prod.mk.injEq, true_and, Option.some.injEq, and_true,
    showBool_injective.eq_iff] at h
  obtain ⟨rfl,rfl,rfl,rfl,rfl,rfl,rfl,rfl,hmask,rfl⟩ := h
  have hsome : v.isSome = w.isSome := by
    simpa only [Option.isSome_map] using congrArg Option.isSome hmask
  exact Alike.intro (s := ⟨_,_,_,_,_,_,_,_,v,_⟩) hsome

/-- Settings whose texts have no line feed are printed alike exactly if they are the same but for
the text of the password. -/
theorem toText_eq_iff_alike {s t : Settings} (hs : ∀ text ∈ s.printedTexts, '\n' ∉ text.toList)
    (ht : ∀ text ∈ t.printedTexts, '\n' ∉ text.toList) : s.toText = t.toText ↔ s.Alike t := by
  refine ⟨fun h => ?_,Alike.toText_eq⟩
  have hlines : linesOf s.shown = linesOf t.shown := by rw [← toList_toText, ← toList_toText, h]
  exact alike_of_shown_eq (linesOf_injective rfl (by simp [shown]) (by simp [shown])
    (lineFeed_notMem_shown hs) (lineFeed_notMem_shown ht) hlines)

/-- Settings with texts that look like lines of others. -/
def sampleLabels : Settings :=
  { changeLogFile := "propertiesFile: a", connection := { username := some "password: *****" } }

/-- The same with an option that holds the empty text. -/
def sampleEmpty : Settings := { sampleLabels with connection.driver := some "" }

/-- An absent option is not printed like one that holds the empty text. -/
theorem toText_eq_iff_alike_sampleLabels :
    (∀ text ∈ sampleLabels.printedTexts, '\n' ∉ text.toList) ∧
    (∀ text ∈ sampleEmpty.printedTexts, '\n' ∉ text.toList) ∧
    sampleLabels.toText ≠ sampleEmpty.toText := by
  have hlabels : ∀ text ∈ sampleLabels.printedTexts, '\n' ∉ text.toList := by decide
  have hempty : ∀ text ∈ sampleEmpty.printedTexts, '\n' ∉ text.toList := by decide
  have hdriver {s t : Settings} (h : s.Alike t) : s.connection.driver = t.connection.driver := by
    obtain ⟨-⟩ := h
    rfl
  refine ⟨hlabels,hempty,fun heq => ?_⟩
  have hsame := hdriver ((toText_eq_iff_alike hlabels hempty).1 heq)
  cases hsame

end LayeredSettings.Settings
