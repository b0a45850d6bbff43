/-! What a single argument of a command line looks like. -/
namespace LayeredSettings.CommandLine

inductive Argument where
  /-- Two hyphens: no flags from here on. -/
  | separator
  /-- A name after two hyphens, and the text after its first equals sign. -/
  | long (name : String) (attached : Option String)
  /-- Letters after one hyphen. -/
  | letters (cs : List Char)
  | word
  deriving DecidableEq, Repr

def Argument.ofText (text : String) : Argument :=
  match text.toList with
  | ['-', '-'] => separator
  | '-' :: '-' :: cs =>
    let name := cs.takeWhile (· != '=')
    long (String.ofList name)
      (if name.length = cs.length then none else some (String.ofList (cs.drop (name.length + 1))))
  | '-' :: c :: cs => letters (c :: cs)
  | _ => word

example : Argument.ofText "--url=a=b" = .long "url" (some "a=b") := by decide +kernel
example : Argument.ofText "--log" = .long "log" none := by decide +kernel
example : Argument.ofText "-l=1" = .letters ['l', '=', '1'] := by decide +kernel
example : Argument.ofText "-" = .word := by decide +kernel

end LayeredSettings.CommandLine
