import Mathlib.Data.List.Forall2
import Mathlib.Data.String.Basic
import LayeredSettings.Proofs.Space
import LayeredSettings.Report

/-! The table of fields as columns of text. Main statement: if the names have no line feed, the table
has one row for each field, in order, and each column starts at the same character of every row. The
columns are wide enough, since a name has no more characters than bytes, and the white space that is
removed at the end of a row belongs to no name, kind or remark. -/
namespace LayeredSettings

namespace Text

lemma exists_digitChar_of_mem_hexDigits {n : Nat} {c : Char} (h : c ∈ hexDigits n) :
    ∃ d < 16, c = Nat.digitChar d := by
  rw [hexDigits] at h
  induction n using Nat.strongRecOn with
  | ind n ih =>
    rw [Nat.toDigits_eq_if (by decide)] at h
    split_ifs at h with hn
    · exact ⟨n,hn,List.mem_singleton.1 h⟩
    · rcases List.mem_append.1 h with h | h
      · exact ih (n / 16) (by omega) h
      · exact ⟨n % 16,Nat.mod_lt n (by decide),List.mem_singleton.1 h⟩

lemma lineFeed_notMem_hexDigits (n : Nat) : '\n' ∉ hexDigits n := by
  intro h
  obtain ⟨d,hd,heq⟩ := exists_digitChar_of_mem_hexDigits h
  revert heq
  revert d
  decide

lemma lineFeed_notMem_quotedChar (c : Char) : '\n' ∉ quotedChar c := by
  by_cases hc : c = '\n'
  · subst hc
    decide
  · unfold quotedChar
    split
    -- Six characters have an escape of their own.
    iterate 6 decide
    split_ifs
    · have hdigits := lineFeed_notMem_hexDigits c.toNat
      simp [hdigits]
    · exact fun h => hc (List.mem_singleton.1 h).symm

theorem lineFeed_notMem_quoted (s : String) : '\n' ∉ (quoted s).toList := by
  rw [quoted, String.toList_ofList]
  simp [lineFeed_notMem_quotedChar]

lemma endsVisibly_quoted (s : String) : EndsVisibly (quoted s).toList :=
  ⟨'"' :: s.toList.flatMap quotedChar,'"',String.toList_ofList,rfl⟩

lemma length_le_utf8ByteSize (s : String) : s.length ≤ s.utf8ByteSize := by
  rw [← String.length_toList, ← String.ofList_toList (s := s), String.utf8ByteSize_ofList,
    String.toList_ofList]
  induction s.toList with
  | nil => exact Nat.le_refl _
  | cons c cs ih =>
    have hc := c.utf8Size_pos
    rw [List.length_cons, String.utf8Len_cons]
    omega

end Text

namespace Registry

/-- The row reads the text from the character at the position on. -/
def ReadsAt (row : String) (position : Nat) (text : String) : Prop :=
  text.toList <+: row.toList.drop position

/-- The row of a field in a table whose names are given so many characters: the columns for name,
kind and table, two spaces apart, and a last column for the default or the word that the field is
required. -/
structure Aligned (width : Nat) (f : Field) (row : String) : Prop where
  oneLine : '\n' ∉ row.toList
  fits : f.name.length ≤ width
  name : ReadsAt row 0 (padded (width + 2) f.name)
  kind : ReadsAt row (width + 2) (padded 9 f.kind.name)
  set : ReadsAt row (width + 11) f.set.name
  default : ∀ value, f.default = some value →
    row.toList.drop (width + 25) = ("default=" ++ Text.quoted value.display).toList
  required : f.default = none → f.required = true →
    row.toList.drop (width + 25) = "required".toList
  noRemark : f.default = none → f.required = false →
    row.toList.drop (width + 11) = f.set.name.toList
  visibleEnd : Text.EndsVisibly row.toList

lemma toList_padded (width : Nat) (s : String) :
    (padded width s).toList = s.toList ++ List.replicate (width - s.length) ' ' := by
  rw [padded, String.toList_append, String.toList_ofList]

lemma length_padded {width : Nat} {s : String} (h : s.length ≤ width) :
    (padded width s).length = width := by
  rw [← String.length_toList, toList_padded, List.length_append, List.length_replicate,
    String.length_toList]
  omega

lemma padded_append_gap {width : Nat} {s : String} (h : s.length ≤ width) :
    padded width s ++ "  " = padded (width + 2) s := by
  apply String.toList_inj.1
  have hwidth : width + 2 - s.length = width - s.length + 2 := by omega
  rw [String.toList_append, toList_padded, toList_padded, hwidth, List.replicate_add,
    List.append_assoc]
  rfl

lemma length_kind (k : Kind) : k.name.length ≤ 7 := by
  cases k <;> decide

lemma length_set (t : FieldSet) : t.name.length ≤ 12 := by
  cases t <;> decide

/-- The end of a row: the table of the field, filled up only if there is a remark. -/
def ending (f : Field) : String :=
  if remark f = "" then f.set.name else padded 14 f.set.name ++ remark f

lemma endsVisibly_set (t : FieldSet) : Text.EndsVisibly t.name.toList := by
  cases t with
  | base => exact ⟨"bas".toList,'e',rfl,rfl⟩
  | configurable => exact ⟨"configurabl".toList,'e',rfl,rfl⟩

lemma endsVisibly_remark {f : Field} (h : remark f ≠ "") : Text.EndsVisibly (remark f).toList := by
  cases hdefault : f.default with
  | some value =>
    simp only [remark, hdefault, String.toList_append]
    exact (Text.endsVisibly_quoted value.display).append _
  | none =>
    simp only [remark, hdefault] at h ⊢
    split_ifs at h ⊢
    · exact ⟨"require".toList,'d',rfl,rfl⟩
    · exact absurd rfl h

lemma endsVisibly_ending (f : Field) : Text.EndsVisibly (ending f).toList := by
  unfold ending
  split_ifs with h
  · exact endsVisibly_set f.set
  · rw [String.toList_append]
    exact (endsVisibly_remark h).append _

/-- What is removed at the end of a row is white space behind the last column that has a text. -/
theorem row_eq {width : Nat} {f : Field} (h : f.name.length ≤ width) :
    row width f = padded (width + 2) f.name ++ (padded 9 f.kind.name ++ ending f) := by
  have hgaps : padded width f.name ++ "  " ++ padded 7 f.kind.name ++ "  " ++
      padded 12 f.set.name ++ "  " ++ remark f = padded (width + 2) f.name ++
        (padded 9 f.kind.name ++ (padded 14 f.set.name ++ remark f)) := by
    rw [← padded_append_gap h, ← padded_append_gap (length_kind f.kind),
      ← padded_append_gap (length_set f.set)]
    simp only [String.append_assoc]
  have hends := endsVisibly_ending f
  rw [row, hgaps]
  apply String.toList_inj.1
  rw [String.toList_ofList]
  simp only [String.toList_append]
  unfold ending at hends ⊢
  split_ifs at hends ⊢ with hremark
  · rw [hremark, toList_padded 14, String.toList_empty, List.append_nil]
    simp only [← List.append_assoc]
    rw [Text.trimEnd_append fun c hc => by rw [List.eq_of_mem_replicate hc]; rfl]
    exact (hends.append _).trimEnd_eq
  · rw [String.toList_append] at hends ⊢
    exact ((hends.append _).append _).trimEnd_eq

lemma drop_toList {row before after : String} (h : row = before ++ after) :
    row.toList.drop before.length = after.toList := by
  subst h
  rw [String.toList_append, ← String.length_toList, List.drop_left]

lemma readsAt_of_eq {row before text after : String} (h : row = before ++ (text ++ after)) :
    ReadsAt row before.length text := by
  rw [ReadsAt, drop_toList h, String.toList_append]
  exact List.prefix_append _ _

lemma lineFeed_notMem_padded {s : String} (h : '\n' ∉ s.toList) (width : Nat) :
    '\n' ∉ (padded width s).toList := by
  simp [toList_padded, h]

lemma lineFeed_notMem_set (t : FieldSet) : '\n' ∉ t.name.toList := by
  cases t <;> decide

lemma lineFeed_notMem_kind (k : Kind) : '\n' ∉ k.name.toList := by
  cases k <;> decide

lemma lineFeed_notMem_remark (f : Field) : '\n' ∉ (remark f).toList := by
  unfold remark
  split
  · simp [Text.lineFeed_notMem_quoted]
  · split <;> decide

lemma lineFeed_notMem_ending (f : Field) : '\n' ∉ (ending f).toList := by
  unfold ending
  split
  · exact lineFeed_notMem_set f.set
  · rw [String.toList_append, List.mem_append, not_or]
    exact ⟨lineFeed_notMem_padded (lineFeed_notMem_set f.set) 14,lineFeed_notMem_remark f⟩

lemma set_prefix_ending (f : Field) : f.set.name.toList <+: (ending f).toList := by
  unfold ending
  split
  · exact List.prefix_rfl
  · rw [String.toList_append, toList_padded]
    exact (List.prefix_append _ _).trans (List.prefix_append _ _)

/-- The columns of a row stand where they do in every row. -/
theorem aligned_row {width : Nat} {f : Field} (hfits : f.name.length ≤ width)
    (hname : '\n' ∉ f.name.toList) : Aligned width f (row width f) := by
  have hrow := row_eq hfits
  have hnameColumn : (padded (width + 2) f.name).length = width + 2 := length_padded (by omega)
  have hkindColumn : (padded 9 f.kind.name).length = 9 :=
    length_padded ((length_kind f.kind).trans (by decide))
  have hsetColumn : (padded 14 f.set.name).length = 14 :=
    length_padded ((length_set f.set).trans (by decide))
  have hending : (row width f).toList.drop (width + 11) = (ending f).toList := by
    have h := drop_toList (hrow.trans String.append_assoc.symm)
    rwa [String.length_append, hnameColumn, hkindColumn] at h
  have hremark (h : remark f ≠ "") :
      (row width f).toList.drop (width + 25) = (remark f).toList := by
    have hsplit : ending f = padded 14 f.set.name ++ remark f := if_neg h
    have hdrop := drop_toList hsplit
    rwa [hsetColumn, ← hending, List.drop_drop] at hdrop
  exact {
    oneLine := by
      rw [hrow, String.toList_append, String.toList_append]
      simp only [List.mem_append, not_or]
      exact ⟨lineFeed_notMem_padded hname _,lineFeed_notMem_padded (lineFeed_notMem_kind _) _,
        lineFeed_notMem_ending f⟩
    fits := hfits
    name := by
      rw [ReadsAt, List.drop_zero, hrow, String.toList_append]
      exact List.prefix_append _ _
    kind := by
      rw [← hnameColumn]
      exact readsAt_of_eq hrow
    set := by
      rw [ReadsAt, hending]
      exact set_prefix_ending f
    default := by
      intro value hvalue
      have htext : remark f = "default=" ++ Text.quoted value.display := by
        simp only [remark, hvalue]
      rw [hremark (by simp [htext]), htext]
    required := by
      intro hnone hrequired
      have htext : remark f = "required" := by simp only [remark, hnone, hrequired, if_true]
      rw [hremark (by rw [htext]; decide), htext]
    noRemark := by
      intro hnone hrequired
      have htext : remark f = "" := by simp [remark, hnone, hrequired]
      rw [hending, ending, if_pos htext]
    visibleEnd := by
      rw [hrow, String.toList_append, String.toList_append]
      exact ((endsVisibly_ending f).append _).append _ }

example :
    row 7 (({ name := "größe", kind := .text, set := .base } : Field).withDefault (.text "a\nb")) =
      "größe    text     base          default=\"a\\nb\"" := by decide +kernel

lemma toText_eq_join (r : Registry) :
    r.toText = String.join ((r.fields.map (row r.nameWidth)).map (· ++ "\n")) := by
  simp only [toText, String.join, List.foldl_map, String.append_assoc]

lemma nameWidth_eq (r : Registry) :
    r.nameWidth = (r.names.map String.utf8ByteSize).max?.getD 0 := by
  rw [nameWidth, List.foldl_max, Nat.zero_max]

lemma length_name_le {r : Registry} {f : Field} (h : f ∈ r.fields) :
    f.name.length ≤ r.nameWidth := by
  have hmem : f.name.utf8ByteSize ∈ r.names.map String.utf8ByteSize :=
    List.mem_map_of_mem (List.mem_map_of_mem h)
  refine (Text.length_le_utf8ByteSize f.name).trans ?_
  rw [nameWidth_eq]
  cases hmax : (r.names.map String.utf8ByteSize).max? with
  | none =>
    rw [List.max?_eq_none_iff.1 hmax] at hmem
    exact absurd hmem List.not_mem_nil
  | some greatest => exact (List.max?_eq_some_iff.1 hmax).2 _ hmem

/-- If no name has a line feed, the table has one row for each field, in order, and the columns of
all rows are aligned by the greatest number of bytes of a name. -/
theorem format_text_aligned (r : Registry) (h : ∀ name ∈ r.names, '\n' ∉ name.toList) :
    ∃ rows : List String, r.format .text = String.join (rows.map (· ++ "\n")) ∧
      List.Forall₂ (Aligned ((r.names.map String.utf8ByteSize).max?.getD 0)) r.fields rows := by
  refine ⟨r.fields.map (row r.nameWidth),toText_eq_join r,?_⟩
  rw [← nameWidth_eq, List.forall₂_map_right_iff, List.forall₂_same]
  intro f hf
  exact aligned_row (length_name_le hf) (h f.name (List.mem_map_of_mem hf))

/-- A name with more bytes than characters and a default of two lines, and a name without any
character. -/
def sampleFields : List Field := [
  ({ name := "größe", kind := .text, set := .base } : Field).withDefault (.text "a\nb"),
  { name := "", kind := .boolean, set := .configurable, required := true }]

def sampleTable : Registry where
  fields := sampleFields
  index := .ofList (sampleFields.map (·.name)).zipIdx
  indexed := @indexes_of_enter .empty _ [] sampleFields indexes_empty rfl

theorem format_text_aligned_sampleTable :
    (∀ name ∈ sampleTable.names, '\n' ∉ name.toList) ∧
      sampleTable.format .text = "größe    text     base          default=\"a\\nb\"\n" ++
        "         boolean  configurable  required\n" ∧
      ∃ rows : List String, sampleTable.format .text = String.join (rows.map (· ++ "\n")) ∧
        List.Forall₂ (Aligned ((sampleTable.names.map String.utf8ByteSize).max?.getD 0))
          sampleTable.fields rows :=
  have h : ∀ name ∈ sampleTable.names, '\n' ∉ name.toList := by decide
  ⟨h,by decide +kernel,format_text_aligned sampleTable h⟩

end Registry

end LayeredSettings
