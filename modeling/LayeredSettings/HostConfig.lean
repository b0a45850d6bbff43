import LayeredSettings.Json
import LayeredSettings.Text.Quoted

/-! The contents of a host configuration file: a value for each field it names, under the key
`parameters`. -/
namespace LayeredSettings

structure HostConfig where
  parameters : Dictionary Json := .empty

/-- Why a value is not a host configuration. -/
inductive ShapeError where
  /-- Neither an object nor a list. -/
  | notConfig (found : Json)
  | notMap (found : Json)
  /-- A list with more items than a configuration has members. -/
  | tooLong (length : Nat)

namespace ShapeError

/-- A value as error texts show it: its sort, and the value itself if it is a scalar. -/
def shown : Json → String
  | .null => "null"
  | .bool b => "boolean `" ++ (if b then "true" else "false") ++ "`"
  | .number (.integer n) => "integer `" ++ toString n ++ "`"
  | .number (.double x) => "floating point `" ++ x.text ++ "`"
  | .string s => "string " ++ Text.quoted s
  | .array _ => "sequence"
  | .object _ => "map"

def message : ShapeError → String
  | notConfig found => "invalid type: " ++ shown found ++ ", expected struct HostConfig"
  | notMap found => "invalid type: " ++ shown found ++ ", expected a map"
  | tooLong length => "invalid length " ++ toString length ++ ", expected fewer elements in array"

end ShapeError

namespace HostConfig

def isEmpty (c : HostConfig) : Bool := c.parameters.isEmpty

def ofParameters : Json → Except ShapeError HostConfig
  | .object members => .ok ⟨.ofList members⟩
  | other => .error (.notMap other)

/-- Read a value as a configuration. Null stands for one without parameters; members other than
`parameters` are ignored; the only item of a list stands for the parameters. -/
def ofJson : Json → Except ShapeError HostConfig
  | .null => .ok {}
  | .object members =>
    match members.lookup "parameters" with
    | some value => ofParameters value
    | none => .ok {}
  | .array [] => .ok {}
  | .array [value] => ofParameters value
  | .array (value :: rest) =>
    match ofParameters value with
    | .ok _ => .error (.tooLong (rest.length + 1))
    | .error e => .error e
  | other => .error (.notConfig other)

end HostConfig

end LayeredSettings
