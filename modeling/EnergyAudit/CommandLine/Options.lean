/-! # Options on a command line

A command takes options, each with a name and perhaps a letter, and operands.  A token that starts
with two hyphens names an option, after which a value may follow an equals sign; one that starts
with a single hyphen holds the letters of options, the last of which may have its value right behind
it. An option that lacks its value takes the next token for it.  After a token of two hyphens all
tokens are operands.  The value of an option is looked at when the next option or operand comes, or
at the end. -/

namespace EnergyAudit.CommandLine

/-- Why a command line does not name a command to run. -/
inductive Diversion where
  | help
  | version
  | rejected
deriving DecidableEq, Repr

/-- What an option is for. -/
inductive OptionKind where
  | flag
  /-- Takes a value, which it accepts or not. -/
  | valued (accepts : String → Bool)
  /-- Stands for a wish of its own, whatever else is on the line. -/
  | asks (diversion : Diversion)

/-- An option that a command takes. -/
structure OptionForm where
  name : String
  letter : Option Char
  kind : OptionKind

def OptionForm.takesValue (option : OptionForm) : Bool :=
  match option.kind with
  | .valued _ => true
  | _ => false

/-- What a command takes. -/
structure CommandForm where
  options : List OptionForm
  /-- Which operands are accepted; `none` if there can be none. -/
  operand : Option (String → Bool) := none
  /-- Names of the commands below this one. -/
  subcommands : List String := []

/-- What a token says about an option. -/
inductive Mark where
  | bare (option : OptionForm)
  | attached (option : OptionForm) (value : String)
  | unknown

/-- What a token is. -/
inductive Token where
  | separator
  | marks (marks : List Mark)
  | operand

namespace CommandForm

/-- What a token with a name after two hyphens says. -/
def longMark (form : CommandForm) (text : List Char) : Mark :=
  match form.options.find? (·.name.toList == text.takeWhile (· != '=')) with
  | none => .unknown
  | some option =>
      match text.dropWhile (· != '=') with
      | [] => .bare option
      | _ :: value => if option.takesValue then .attached option (String.ofList value) else .unknown

/-- A value right behind a letter, which may start with an equals sign. -/
def letterValue : List Char → String
  | '=' :: value => String.ofList value
  | value => String.ofList value

/-- What the letters after a hyphen say. -/
def letterMarks (form : CommandForm) : List Char → List Mark
  | [] => []
  | c :: rest =>
      match form.options.find? (·.letter == some c) with
      | none => [.unknown]
      | some option =>
          if option.takesValue && !rest.isEmpty then [.attached option (letterValue rest)]
          else .bare option :: letterMarks form rest

def token (form : CommandForm) (text : String) : Token :=
  match text.toList with
  | ['-', '-'] => .separator
  | '-' :: '-' :: rest => .marks [form.longMark rest]
  | ['-'] => .operand
  | '-' :: rest => .marks (form.letterMarks rest)
  | _ => .operand

end CommandForm

/-- What is read of a command's tokens. -/
structure Given where
  /-- Names of options with their values; a flag has the empty text. -/
  values : List (String × String) := []
  operands : List String := []
  /-- An option with a value that is still to be looked at. -/
  pending : Option (OptionForm × String) := none

namespace Given

def text? (given : Given) (name : String) : Option String :=
  (given.values.find? (·.1 == name)).map (·.2)

def has (given : Given) (name : String) : Bool := (given.text? name).isSome

/-- Takes an option that must not have come before. -/
def take (given : Given) (option : OptionForm) (value : String) : Except Diversion Given :=
  if given.has option.name then .error .rejected
  else .ok { given with values := given.values ++ [(option.name, value)] }

def accept (given : Given) (option : OptionForm) (value : String) : Except Diversion Given :=
  match option.kind with
  | .asks diversion => .error diversion
  | .flag => given.take option value
  | .valued accepts => if accepts value then given.take option value else .error .rejected

/-- Looks at the value that is still to be looked at. -/
def settle (given : Given) : Except Diversion Given :=
  match given.pending with
  | none => .ok given
  | some (option, value) => { given with pending := none }.accept option value

/-- Takes the marks of a token.  The last of them may be an option that lacks its value. -/
def takeMarks (given : Given) : List Mark → Except Diversion (Given × Option OptionForm)
  | [] => .ok (given, none)
  | .unknown :: _ => .error .rejected
  | .attached option value :: rest => do
      let given ← given.settle
      takeMarks (← given.accept option value) rest
  | .bare option :: rest => do
      let given ← given.settle
      if option.takesValue then return (given, some option)
      takeMarks (← given.accept option "") rest

end Given

/-- How the tokens of a command end: with what is given, and with the name of a command below it and
the tokens after that, if one comes. -/
structure Scan where
  given : Given
  next : Option (String × List String) := none

namespace CommandForm

def takeOperand (form : CommandForm) (given : Given) (text : String) : Except Diversion Given := do
  let given ← given.settle
  match form.operand with
  | some accepts =>
      if accepts text then return { given with operands := given.operands ++ [text] }
      else throw .rejected
  | none => throw .rejected

def isValue (form : CommandForm) (text : String) : Bool :=
  match form.token text with
  | .operand => true
  | _ => false

/-- Reads tokens, up to the name of a command below this one. -/
def scan (form : CommandForm) (given : Given) : List String → Except Diversion Scan
  | [] => .ok ⟨given, none⟩
  | text :: rest =>
      if form.subcommands.contains text then .ok ⟨given, some (text, rest)⟩
      else
        match form.token text with
        | .separator => (rest.foldlM form.takeOperand given).map (⟨·, none⟩)
        | .operand => (form.takeOperand given text).bind fun given => form.scan given rest
        | .marks marks =>
            match given.takeMarks marks, rest with
            | .error diversion, _ => .error diversion
            | .ok (given, none), rest => form.scan given rest
            | .ok (_, some _), [] => .error .rejected
            | .ok (given, some option), value :: rest =>
                if form.isValue value then
                  form.scan { given with pending := some (option, value) } rest
                else .error .rejected

end CommandForm

end EnergyAudit.CommandLine
