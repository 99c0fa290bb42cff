/-!
# Reading arguments

    A command takes options.  An option has a long name, perhaps a short one
    of one letter, and either no value, one value, or any number of values
    that are given one by one or with commas between them.

    A value follows as the next argument or after an equals sign; after a
    short name it may also follow at once.  An argument that starts with a
    dash is never the value of the option before it.  Short names without a
    value may share one dash.

    The first rule that the arguments break is reported, read from left to
    right; the value of an option is looked at when the next option begins
    or the arguments end.  Asking for help or for the version ends the
    reading as well.
-/

namespace TernaryGossip

/-- Why arguments make no command. -/
inductive ArgumentError
  /-- Help was asked for. -/
  | displayHelp
  /-- The version was asked for. -/
  | displayVersion
  /-- No command was given. -/
  | noCommand
  /-- The command does not exist. -/
  | invalidSubcommand
  /-- The argument does not belong to the command. -/
  | unknownArgument
  /-- A value is missing or not among those allowed. -/
  | invalidValue
  /-- A value cannot be read. -/
  | valueValidation
  /-- An option was given twice. -/
  | argumentConflict
  /-- An option without value was given one. -/
  | tooManyValues
  deriving DecidableEq, Repr

/-- How many values an option takes. -/
inductive Arity
  /-- None. -/
  | flag
  /-- One. -/
  | single
  /-- Any number. -/
  | repeated
  deriving DecidableEq, Repr

/-- An option of a command. -/
structure OptionSpec where
  /-- The name after two dashes. -/
  long : String
  /-- The letter after one dash. -/
  short : Option Char
  /-- How many values it takes. -/
  arity : Arity
  /-- What is wrong with a value. -/
  check : String → Option ArgumentError

namespace Arguments

/-- The options found, each with its values, in the order in which they
were found. -/
abbrev Found := List (String × List String)

/-- An option that waits for its value, or for the end of its values. -/
structure Pending where
  /-- The option. -/
  option : OptionSpec
  /-- Its value, once it is there. -/
  value : Option String

/-- The values of an option found so far. -/
def values (found : Found) (long : String) : List String :=
  (found.filter (·.1 = long)).flatMap (·.2)

/-- The option was found. -/
def has (found : Found) (long : String) : Bool := found.any (·.1 = long)

/-- The pieces of a text between commas. -/
def splitCommas : List Char → List (List Char)
  | [] => [[]]
  | ',' :: cs => [] :: splitCommas cs
  | c :: cs =>
      match splitCommas cs with
      | [] => [[c]]
      | piece :: rest => (c :: piece) :: rest

/-- Notes an option with its value. -/
def note (found : Found) (o : OptionSpec) (value : Option String) : Except ArgumentError Found :=
  match o.arity, value with
  | .flag, _ => if has found o.long then .error .argumentConflict else .ok (found ++ [(o.long, [])])
  | _, none => .error .invalidValue
  | .single, some v =>
      if has found o.long then .error .argumentConflict
      else
        match o.check v with
        | some e => .error e
        | none => .ok (found ++ [(o.long, [v])])
  | .repeated, some v =>
      let vs := (splitCommas v.toList).map String.ofList
      match vs.findSome? o.check with
      | some e => .error e
      | none => .ok (found ++ [(o.long, vs)])

/-- Notes the option that waits, if any. -/
def settle (found : Found) : Option Pending → Except ArgumentError Found
  | none => .ok found
  | some p => note found p.option p.value

/-- The argument is one of the words that every command knows. -/
def standard? (long : String) : Option ArgumentError :=
  if long = "help" then some .displayHelp else if long = "version" then some .displayVersion else none

/-- The letter is one of those that every command knows. -/
def standardShort? (c : Char) : Option ArgumentError :=
  if c = 'h' then some .displayHelp else if c = 'V' then some .displayVersion else none

/-- A long name and the value after its equals sign, if there is one. -/
def splitEquals (cs : List Char) : String × Option String :=
  let name := cs.takeWhile (· ≠ '=')
  match cs.drop name.length with
  | [] => (String.ofList name, none)
  | _ :: value => (String.ofList name, some (String.ofList value))

/-- What has been read, and the option that waits. -/
abbrev State := Found × Option Pending

/-- Begins an option, with its value if it is attached. -/
def begin (s : State) (o : OptionSpec) (attached : Option String) : Except ArgumentError State := do
  let found ← settle s.1 s.2
  match o.arity, attached with
  | .flag, _ => return (← note found o none, none)
  | _, some v => return (← note found o (some v), none)
  | _, none => return (found, some ⟨o, none⟩)

/-- Ends the reading with help or the version, once the option that waits is
noted. -/
def finish (s : State) (e : ArgumentError) : Except ArgumentError State := do
  let _ ← settle s.1 s.2
  .error e

/-- Reads an argument that starts with two dashes. -/
def long (specs : List OptionSpec) (s : State) (cs : List Char) : Except ArgumentError State :=
  let (name, value) := splitEquals cs
  match standard? name with
  | some e => if value.isSome then .error .tooManyValues else finish s e
  | none =>
      match specs.find? (·.long = name) with
      | none => .error .unknownArgument
      | some o =>
          if o.arity = .flag ∧ value.isSome then .error .tooManyValues else begin s o value

/-- Reads the letters of an argument that starts with one dash. -/
def short (specs : List OptionSpec) (s : State) : List Char → Except ArgumentError State
  | [] => .ok s
  | c :: cs =>
      match standardShort? c with
      | some e => finish s e
      | none =>
          match specs.find? (·.short = some c) with
          | none => .error .unknownArgument
          | some o =>
              if o.arity = .flag then do
                let s ← begin s o none
                short specs s cs
              else
                match cs with
                | [] => begin s o none
                | '=' :: value => begin s o (some (String.ofList value))
                | value => begin s o (some (String.ofList value))

/-- Reads the arguments of a command. -/
def read (specs : List OptionSpec) : State → List String → Except ArgumentError Found
  | s, [] => settle s.1 s.2
  | s, arg :: rest =>
      match arg.toList with
      | ['-', '-'] => if rest.isEmpty then settle s.1 s.2 else .error .unknownArgument
      | '-' :: '-' :: cs => do
          let s ← long specs s cs
          read specs s rest
      | '-' :: c :: cs => do
          let s ← short specs s (c :: cs)
          read specs s rest
      | _ =>
          match s with
          | (found, some ⟨o, none⟩) => read specs (found, some ⟨o, some arg⟩) rest
          | _ => .error .unknownArgument

/-- The options that the arguments of a command name. -/
def parse (specs : List OptionSpec) (args : List String) : Except ArgumentError Found :=
  read specs ([], none) args

end Arguments

end TernaryGossip
