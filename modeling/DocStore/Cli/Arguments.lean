import DocStore.Number.Reading
import DocStore.Text.Parts

/-!
# Arguments

The arguments of a command line: options by name, each with a value or without one,
and plain arguments.  Arguments that begin with a dash are options; after `--` all
are plain.
-/

namespace DocStore.Cli

inductive Taking where
  | nothing
  | anyText
  | oneOf (words : List String)
  | count
  | pair
  deriving DecidableEq

structure OptionRule where
  name : String
  valueName : String
  takes : Taking
  about : String
  default : Option String := none
  repeats : Bool := false

/-- Why no command is carried out. -/
inductive Halt where
  | refused
  | help (command : Option String)
  | version
  deriving DecidableEq

/-- The options and plain arguments read so far, in order. -/
structure Given where
  options : List (String × String) := []
  plain : List String := []

namespace Given

def value? (given : Given) (name : String) : Option String :=
  (given.options.filter (·.1 = name)).getLast?.map Prod.snd

def values (given : Given) (name : String) : List String :=
  (given.options.filter (·.1 = name)).map Prod.snd

end Given

def pairOf? (text : String) : Option (String × String) :=
  (splitAtFirst? '=' text.toList).map fun (name, value) =>
    (String.ofList name, String.ofList value)

def Taking.accepts (taking : Taking) (value : String) : Bool :=
  match taking with
  | .nothing => false
  | .anyText => true
  | .oneOf words => words.contains value
  | .count => (readUInt64? value.toList).isSome
  | .pair => (pairOf? value).isSome

/-- Whether an argument is an option or a group of them, and no plain argument. -/
def isDashed (arg : String) : Bool :=
  match arg.toList with
  | '-' :: _ :: _ => true
  | _ => false

/-- What a command line admits at some level of it. -/
structure Level where
  rules : List OptionRule
  command : Option String
  hasVersion : Bool := false
  /-- Whether the first plain argument ends the level. -/
  ends : Bool := false
  room : Nat := 0

namespace Level

def note (rule : OptionRule) (value : String) (given : Given) : Except Halt Given :=
  if !rule.repeats && (given.value? rule.name).isSome then .error .refused
  else .ok { given with options := given.options ++ [(rule.name, value)] }

/-- Why the level is left at an option that is asked for by a letter or a word. -/
def leaving (level : Level) (help version : Bool) : Halt :=
  if help then .help level.command
  else if version && level.hasVersion then .version
  else .refused

/-- What an argument with one dash leads to: of its letters only the first counts. -/
def short (level : Level) (arg : String) : Halt :=
  let letter := arg.toList[1]?
  level.leaving (letter == some 'h') (letter == some 'V')

/-- Reads arguments; answers what was given and the arguments that are left. -/
def scan (level : Level) (given : Given) :
    List String → Except Halt (Given × List String)
  | [] => .ok (given, [])
  | arg :: rest =>
    if arg = "--" then
      if level.ends then .error .refused
      else .ok ({ given with plain := given.plain ++ rest }, [])
    else match afterStart? "--" arg with
    | some text =>
      let (name, attached) := match pairOf? text with
        | some (name, value) => (name, some value)
        | none => (text, none)
      match level.rules.find? (·.name = name), attached with
      | none, none => .error (level.leaving (name = "help") (name = "version"))
      | none, some _ => .error .refused
      | some rule, some value =>
        if rule.takes.accepts value then do scan level (← note rule value given) rest
        else .error .refused
      | some rule, none =>
        if rule.takes = .nothing then do scan level (← note rule "" given) rest
        else match rest with
        | [] => .error .refused
        | value :: rest =>
          if isDashed value || !rule.takes.accepts value then .error .refused
          else do scan level (← note rule value given) rest
    | none =>
      if isDashed arg then .error (level.short arg)
      else if level.ends then .ok (given, arg :: rest)
      else if level.room ≤ given.plain.length then .error .refused
      else scan level { given with plain := given.plain ++ [arg] } rest

end Level

end DocStore.Cli
