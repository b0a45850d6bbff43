import LayeredSettings.Environment
import LayeredSettings.LogTarget
import LayeredSettings.Text.Letter
import LayeredSettings.Text.Space

/-! Which events are logged. A filter is a list of directives such as `info`,
`migrate_settings::session=debug` or `[{path}]=off`; of those that concern an event the most
specific decides. -/
namespace LayeredSettings

/-- Events of components whose target starts in a given way and that have a given detail are logged
up to a level, or not at all. -/
structure LogRule where
  target : Option String := none
  detail : Option String := none
  level : Option Level
  deriving DecidableEq, Repr

namespace LogRule

/-- Whether an event has the target and the detail that the rule asks for. The message counts as a
detail. -/
def concerns (rule : LogRule) (e : Event) : Bool :=
  (rule.target.all fun target => target.toList.isPrefixOf e.component.target.toList) &&
    rule.detail.all fun name => name = "message" || (e.details.map (·.1)).contains name

/-- The length of the target; to name none is to be less specific than to name the empty one. -/
def targetWeight (rule : LogRule) : Nat := (rule.target.map (·.utf8ByteSize + 1)).getD 0

/-- Whether another rule is as specific or more: it asks for a longer target, or for the same and a
detail that this one does not ask for. Of two details the later in code point order counts. -/
def yields (rule other : LogRule) : Bool :=
  if rule.targetWeight = other.targetWeight then
    match rule.detail, other.detail with
    | none, _ => true
    | some _, none => false
    | some a, some b => a ≤ b
  else rule.targetWeight < other.targetWeight

def admits (rule : LogRule) (e : Event) : Bool :=
  rule.level.any fun level => e.level.rank ≤ level.rank

end LogRule

structure LogFilter where
  rules : List LogRule
  deriving DecidableEq, Repr

namespace LogFilter

def ofLevel (level : Level) : LogFilter := ⟨[{ level := some level }]⟩

def decisive? (f : LogFilter) (e : Event) : Option LogRule :=
  (f.rules.filter (·.concerns e)).foldl (fun best rule =>
    match best with
    | some best => if best.yields rule then some rule else some best
    | none => some rule) none

def admits (f : LogFilter) (e : Event) : Bool := (f.decisive? e).any (·.admits e)

/-- A number from 0 to 5, or the name of a level in any case; `off` stands for none. -/
def readLevel? (text : String) : Option (Option Level) :=
  let cs := text.toList
  let digits := if cs.head? = some '+' then cs.tail else cs
  if !digits.isEmpty && digits.all Char.isDigit then
    match digits.dropWhile (· == '0') with
    | [] => some none
    | ['1'] => some (some .error)
    | ['2'] => some (some .warn)
    | ['3'] => some (some .info)
    | ['4'] => some (some .debug)
    | ['5'] => some (some .trace)
    | _ => none
  else
    match String.ofList (cs.map Char.toLower) with
    | "off" => some none
    | "error" => some (some .error)
    | "warn" => some (some .warn)
    | "info" => some (some .info)
    | "debug" => some (some .debug)
    | "trace" => some (some .trace)
    | _ => none

/-- A directive: the span and the detail that it asks for stand in brackets. -/
structure Directive where
  target : Option String := none
  span : Option String := none
  detail : Option String := none
  level : Option Level := some .trace
  deriving DecidableEq, Repr

/-- The rule of a directive. One for a span, or for the value of a detail, concerns no event, as
events are reported outside of spans. -/
def Directive.rule? (d : Directive) : Option LogRule :=
  if d.span.isSome || d.detail.any (·.toList.contains '=') then none
  else some { target := d.target, detail := d.detail, level := d.level }

def startsTarget (c : Char) : Bool := c == '-' || c == ':' || c == '_' || Text.isAlphanumeric c

/-- Read a directive. White space around it is passed over to find its parts, but the parts are cut
out of the whole text, counting from its start. -/
def Directive.parse? (whole : List Char) : Option Directive :=
  let text := Text.trim whole
  let cut (start stop : Nat) : String := String.ofList ((whole.drop start).take (stop - start))
  let levelFrom (start : Nat) : Option (Option Level) :=
    match whole.drop start with
    | [] => some (some .trace)
    | cs => readLevel? (String.ofList cs)
  let finish (d : Directive) (start : Nat) : Option Directive :=
    match text.drop start with
    | [] => some d
    | '=' :: _ => (levelFrom (start + 1)).map fun level => { d with level }
    | _ => none
  let bracketed (target : Option String) (start : Nat) : Option Directive :=
    let span := (text.drop start).takeWhile fun c => c != ']' && c != '{'
    let spanEnd := start + span.length
    match text.drop spanEnd with
    | ']' :: _ => finish { target, span := some (cut start spanEnd) } (spanEnd + 1)
    | '{' :: inner =>
      let detail := inner.takeWhile (· != '}')
      let detailEnd := spanEnd + 1 + detail.length
      match text.drop detailEnd with
      | '}' :: ']' :: _ =>
        if detail.isEmpty then none
        else finish
          { target, span := if span.isEmpty then none else some (cut start spanEnd)
            detail := some (cut (spanEnd + 1) detailEnd) } (detailEnd + 2)
      | _ => none
    | _ => none
  match text with
  | [] => none
  | '[' :: _ => bracketed none 1
  | c :: _ =>
    if !startsTarget c then none
    else
      let head := (text.takeWhile fun c => c != '=' && c != '[').length
      match text.drop head with
      | '=' :: _ =>
        (levelFrom (head + 1)).map fun level => { target := some (cut 0 head), level }
      | '[' :: _ => bracketed (some (cut 0 head)) (head + 1)
      | _ =>
        match readLevel? (String.ofList whole) with
        | some level => some { level }
        | none => some { target := some (String.ofList whole) }

/-- Read directives parted by commas. Without any, only errors are logged. -/
def parse? (text : String) : Option LogFilter :=
  let parts := (text.toList.splitOn ',').filter (!·.isEmpty)
  if parts.isEmpty then some (ofLevel .error)
  else (parts.mapM Directive.parse?).map fun directives => ⟨directives.filterMap Directive.rule?⟩

def variableName : String := "MIGRATE_SETTINGS_LOG"

/-- The filter that the environment asks for, if it can be read, or else the default. -/
def ofEnvironment (env : Environment) (verbose : Bool) : LogFilter :=
  ((env variableName).bind parse?).getD (ofLevel (defaultLevel verbose))

example : (parse? "info,migrate_settings::session=off").isSome = true := by decide +kernel
example : parse? "migrate_settings=loud" = none := by decide +kernel

end LogFilter

end LayeredSettings
