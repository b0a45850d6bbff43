import LayeredSettings.Json

/-! Laying one value over another. Objects are merged key by key; any other overlay replaces what
is below it, except that null leaves it in place. -/
namespace LayeredSettings.Json

mutual

def merge : (base overlay : Json) → Json
  | .object base, .object overlay => .object (mergeMembers base overlay)
  | base, .null => base
  | _, overlay => overlay

/-- Lay the members of an overlay, one after the other, over the members of a base. -/
def mergeMembers : (base overlay : List (String × Json)) → List (String × Json)
  | base, [] => base
  | base, (key, value) :: rest =>
    let merged := match base.lookup key with
      | some old => merge old value
      | none => value
    mergeMembers (insertEntry key merged base) rest

end

/-- Every value over the ones before it, the first over null. -/
def mergeAll (values : List Json) : Json := values.foldl merge .null

@[simp] theorem merge_null_right (base : Json) : merge base .null = base := by
  cases base <;> rfl

@[simp] theorem merge_null_left (overlay : Json) : merge .null overlay = overlay := by
  cases overlay <;> rfl

@[simp] theorem mergeAll_nil : mergeAll [] = .null := rfl

example : merge (.object [("a", .bool true)]) (.object [("a", .null), ("b", .null)]) =
    .object [("a", .bool true), ("b", .null)] := by rfl

end LayeredSettings.Json
