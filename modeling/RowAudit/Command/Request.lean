/-!
What a command line asks for. Arguments are taken one after the other, and the
first that is wrong, or that asks for help or for the version, settles what
becomes of all.
-/

namespace RowAudit.Command

structure AuditOptions where
  input : String
  rules : String
  output : Option String
  asJson : Bool
  claimColumn : String
  flagBlankCells : Bool
  limit : Nat
  verbose : Bool
  deriving DecidableEq

inductive Request where
  | audit (options : AuditOptions)
  | lint (rules : String) (verbose : Bool)
  deriving DecidableEq

/-- Why arguments make no request: they ask for help, or for the version of the
program or of a command, or they are wrong. -/
inductive Refusal where
  | help
  | version (command : Option String)
  | usage
  deriving DecidableEq

inductive Switch where
  | help
  | version
  | verbose
  | json
  | flagBlankCells
  deriving DecidableEq

inductive Setting where
  | rules
  | output
  | claimColumn
  | limit
  deriving DecidableEq

inductive Key where
  | switch (name : Switch)
  | setting (name : Setting)
  deriving DecidableEq

/-- The options that a command knows, by long and by short name. In front of a
command there is none. -/
structure Vocabulary where
  command : Option String
  long : List (String × Key)
  short : List (Char × Key)

namespace Vocabulary

def general (command : Option String) : Vocabulary where
  command := command
  long :=
    [("verbose", .switch .verbose), ("help", .switch .help),
      ("version", .switch .version)]
  short :=
    [('v', .switch .verbose), ('h', .switch .help), ('V', .switch .version)]

def leading : Vocabulary :=
  general none

def linting : Vocabulary :=
  general (some "lint")

def auditing : Vocabulary :=
  let known := general (some "validate")
  { known with
    long := known.long ++
      [("rules", .setting .rules), ("output", .setting .output),
        ("json", .switch .json),
        ("claim-column", .setting .claimColumn),
        ("flag-blank-cells", .switch .flagBlankCells),
        ("limit", .setting .limit)]
    short := known.short ++ [('r', .setting .rules), ('o', .setting .output)] }

end Vocabulary

def limitBound : Nat :=
  Nat.pow 2 64

/-- Reads a count, which may have a plus in front. -/
def count? (text : String) : Option Nat :=
  let digits := match text.toList with
    | '+' :: rest => rest
    | cs => cs
  if digits ≠ [] ∧ digits.all Char.isDigit then
    let n := digits.foldl (fun n c => 10 * n + (c.toNat - '0'.toNat)) 0
    if n < limitBound then some n else none
  else none

/-- Whether a setting can have this value; a path cannot be empty. -/
def Setting.admits : Setting → String → Bool
  | .rules, value | .output, value => value ≠ ""
  | .limit, value => (count? value).isSome
  | .claimColumn, _ => true

structure Given where
  path : Option String
  switches : List Switch
  settings : List (Setting × String)

namespace Given

def nothing : Given := ⟨none, [], []⟩

def has (given : Given) (name : Switch) : Bool :=
  given.switches.contains name

def value? (given : Given) (name : Setting) : Option String :=
  given.settings.lookup name

def withPath (given : Given) (path : String) : Except Refusal Given :=
  if given.path = none ∧ path ≠ "" then .ok { given with path := some path }
  else .error .usage

def withSwitch (given : Given) (vocabulary : Vocabulary) :
    Switch → Except Refusal Given
  | .help => .error .help
  | .version => .error (.version vocabulary.command)
  | name =>
      if given.has name then .error .usage
      else .ok { given with switches := name :: given.switches }

def withSetting (given : Given) (name : Setting) (value : String) :
    Except Refusal Given :=
  if given.value? name = none ∧ name.admits value then
    .ok { given with settings := (name, value) :: given.settings }
  else .error .usage

end Given

/-- Whether an argument is an option; a lone hyphen is not. -/
def looksLikeOption (argument : String) : Bool :=
  argument.toList.head? = some '-' && argument ≠ "-"

/-- What is given with an argument of options, and the setting at its end whose
value is yet to come. -/
abbrev Taken := Given × Option Setting

def Given.withLong (given : Given) (vocabulary : Vocabulary)
    (body : List Char) : Except Refusal Taken :=
  let name := String.ofList (body.takeWhile (· ≠ '='))
  match vocabulary.long.lookup name, body.dropWhile (· ≠ '=') with
  | some (.switch name), [] =>
      do return (← given.withSwitch vocabulary name, none)
  | some (.setting name), [] => .ok (given, some name)
  | some (.setting name), _ :: value => do
      return (← given.withSetting name (String.ofList value), none)
  | _, _ => .error .usage

/-- Takes options by their short names; the rest behind a setting is its
value. -/
def Given.withShort (given : Given) (vocabulary : Vocabulary) :
    List Char → Except Refusal Taken
  | [] => .ok (given, none)
  | c :: rest =>
      match vocabulary.short.lookup c with
      | some (.switch name) =>
          match given.withSwitch vocabulary name with
          | .ok taken => taken.withShort vocabulary rest
          | .error refusal => .error refusal
      | some (.setting name) =>
          match rest with
          | [] => .ok (given, some name)
          | '=' :: value | value => do
              return (← given.withSetting name (String.ofList value), none)
      | none => .error .usage

def Given.withOptions (given : Given) (vocabulary : Vocabulary)
    (argument : String) : Except Refusal Taken :=
  match argument.toList with
  | '-' :: '-' :: body => given.withLong vocabulary body
  | _ :: body => given.withShort vocabulary body
  | [] => .error .usage

/-- Takes the arguments of a command; behind a double hyphen none is an
option. -/
def Given.withArguments (given : Given) (vocabulary : Vocabulary) :
    List String → Except Refusal Given
  | [] => .ok given
  | argument :: rest =>
      if argument = "--" then rest.foldlM Given.withPath given
      else if looksLikeOption argument then
        match given.withOptions vocabulary argument with
        | .error refusal => .error refusal
        | .ok (taken, none) => taken.withArguments vocabulary rest
        | .ok (taken, some name) =>
            match rest with
            | [] => .error .usage
            | value :: later =>
                if looksLikeOption value then .error .usage
                else
                  match taken.withSetting name value with
                  | .ok taken => taken.withArguments vocabulary later
                  | .error refusal => .error refusal
      else
        match given.withPath argument with
        | .ok taken => taken.withArguments vocabulary rest
        | .error refusal => .error refusal

def auditRequest (given : Given) (verbose : Bool) : Except Refusal Request :=
  match given.path, given.value? .rules,
    count? ((given.value? .limit).getD "20") with
  | some input, some rules, some limit =>
      .ok <| .audit
        { input, rules, limit
          output := given.value? .output
          asJson := given.has .json
          claimColumn := (given.value? .claimColumn).getD "claimno"
          flagBlankCells := given.has .flagBlankCells
          verbose := verbose || given.has .verbose }
  | _, _, _ => .error .usage

def lintRequest (given : Given) (verbose : Bool) : Except Refusal Request :=
  match given.path with
  | some rules => .ok (.lint rules (verbose || given.has .verbose))
  | none => .error .usage

def Request.ofCommand (leading : Given) (command : String)
    (arguments : List String) :
    Except Refusal Request := do
  let verbose := leading.has .verbose
  if command = "validate" then
    auditRequest (← Given.nothing.withArguments .auditing arguments) verbose
  else if command = "lint" then
    lintRequest (← Given.nothing.withArguments .linting arguments) verbose
  else if command = "help" ∧
  arguments ∈ [[], ["validate"], ["lint"], ["help"]] then .error .help
  else .error .usage

def Request.ofLeading (given : Given) : List String → Except Refusal Request
  | [] => .error .usage
  | argument :: rest =>
      if looksLikeOption argument then
        match given.withOptions .leading argument with
        | .ok (taken, none) => Request.ofLeading taken rest
        | .ok (_, some _) => .error .usage
        | .error refusal => .error refusal
      else Request.ofCommand given argument rest

def Request.ofArguments (arguments : List String) : Except Refusal Request :=
  Request.ofLeading .nothing arguments

end RowAudit.Command
