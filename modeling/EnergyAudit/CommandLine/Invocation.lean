import EnergyAudit.CommandLine.Options
import EnergyAudit.CommandLine.Subcommand
import EnergyAudit.Settings.Environment

/-! # Invocations

The command line names a subcommand with its options, and perhaps a configuration file, before the
subcommand or after it.  Variables of the environment stand in for some options that are not
given. -/

namespace EnergyAudit

/-- What the program is called for. -/
structure Invocation where
  /-- The configuration file that is given. -/
  config : Option String
  subcommand : Subcommand

namespace CommandLine

/-! ## Options -/

def isPath (text : String) : Bool := text != ""

def severity? (text : String) : Option Severity := (Severity.parse text).toOption

/-- The 64-bit word that a text denotes. -/
def word64? (text : String) : Option UInt64 :=
  ((Decimal.readNat? text.toList).filter (· < UInt64.size)).map UInt64.ofNat

/-- The 32-bit word that a text denotes, with any sign. -/
def word32? (text : String) : Option UInt32 :=
  ((Decimal.readInt? text.toList).filter fun n => 0 ≤ n && n < (UInt32.size : Int)).map fun n =>
    UInt32.ofNat n.toNat

def double? (text : String) : Option Float := Decimal.read? text.toList

def valued {α : Type} (name : String) (letter : Option Char) (read : String → Option α) :
    OptionForm :=
  ⟨name, letter, .valued fun text => (read text).isSome⟩

def pathOption (name : String) (letter : Option Char) : OptionForm :=
  ⟨name, letter, .valued isPath⟩

def textOption (name : String) (letter : Option Char) : OptionForm :=
  valued name letter some

/-- An option without a value. -/
def flag (name : String) (letter : Option Char := none) : OptionForm :=
  ⟨name, letter, .flag⟩

def formatOption : OptionForm := valued "format" (some 'f') ReportFormat.ofName?

/-- Options that can stand before the subcommand and after it.  Nothing is logged, so the options on
logging are taken and change nothing. -/
def commonOptions : List OptionForm :=
  [pathOption "config" none, flag "log-json", flag "verbose" (some 'v'),
    ⟨"help", some 'h', .asks .help⟩]

def auditOptions : List OptionForm :=
  [valued "severity" (some 's') severity?, valued "max-files" none word64?, formatOption,
    pathOption "output" (some 'o'), flag "no-fail"]

/-- What the subcommands take, by name. -/
def subcommandForms : List (String × CommandForm) :=
  [("audit", { options := commonOptions ++ auditOptions, operand := some isPath }),
   ("detect", { options := commonOptions ++ [formatOption] }),
   ("calibrate", { options := commonOptions ++ [formatOption] }),
   ("compare",
     { options := commonOptions ++ auditOptions
         ++ [flag "save", valued "threshold" none double?, textOption "commit" none,
           textOption "branch" none]
       operand := some isPath }),
   ("estimate",
     { options := commonOptions
         ++ [valued "params" (some 'p') double?, textOption "quantization" (some 'q'),
           valued "batch-size" (some 'b') word32?, textOption "model" (some 'm'),
           formatOption] }),
   ("status", { options := commonOptions })]

/-- The subcommand that explains the others. -/
def helpName : String := "help"

/-- Names after which a subcommand's tokens come. -/
def subcommandNames : List String := subcommandForms.map (·.1) ++ [helpName]

/-- What the program takes before a subcommand. -/
def programForm : CommandForm where
  options := commonOptions ++ [⟨"version", some 'V', .asks .version⟩]
  subcommands := subcommandNames

/-! ## Reading -/

/-- Name of the variable for the configuration file. -/
def configVariable : String := "ECOCOMPUTE_CONFIG"

def commitVariable : String := "GITHUB_SHA"

def branchVariable : String := "GITHUB_REF_NAME"

def Given.value? {α : Type} (given : Given) (name : String) (read : String → Option α) : Option α :=
  (given.text? name).bind read

/-- The text of an option, or else of a variable, or else nothing. -/
def Given.textOr (given : Given) (name : String) (environment : Environment) (source : String) :
    String :=
  ((given.text? name).or (environment.get? source)).getD ""

def Given.format (given : Given) : ReportFormat :=
  (given.value? "format" ReportFormat.ofName?).getD .markdown

def Given.auditOptions (given : Given) : AuditOptions where
  paths := if given.operands.isEmpty then ["."] else given.operands
  severity := given.value? "severity" severity?
  maxFiles := given.value? "max-files" word64?
  format := given.format
  output := given.text? "output"
  noFail := given.has "no-fail"

/-- The choices for a comparison. -/
def Given.compareOptions (given : Given) (environment : Environment) : CompareOptions where
  audit := given.auditOptions
  save := given.has "save"
  threshold := given.value? "threshold" double?
  commit := given.textOr "commit" environment commitVariable
  branch := given.textOr "branch" environment branchVariable

/-- The choices for an estimate, which needs the number of parameters. -/
def Given.estimateOptions? (given : Given) : Option EstimateOptions :=
  (given.value? "params" double?).map fun params =>
    { params
      quantization := (given.text? "quantization").elim .fp16 Quantization.ofLabel
      batchSize := (given.value? "batch-size" word32?).getD 1
      model := given.text? "model"
      format := given.format }

/-- The subcommand of a name, with its choices. -/
def subcommand? (environment : Environment) (given : Given) : String → Option Subcommand
  | "audit" => some (.audit given.auditOptions)
  | "detect" => some (.detect given.format)
  | "calibrate" => some (.calibrate given.format)
  | "compare" => some (.compare (given.compareOptions environment))
  | "estimate" => given.estimateOptions?.map .estimate
  | "status" => some .status
  | _ => none

/-- The configuration file in the environment, which is looked at wherever none is given. -/
def configIn (environment : Environment) (given : Given) : Except Diversion (Option String) :=
  match given.text? "config", environment.get? configVariable with
  | some path, _ => .ok (some path)
  | none, none => .ok none
  | none, some path => if isPath path then .ok (some path) else .error .rejected

/-- Reads the tokens of a subcommand, where `above` is what is given before it. -/
def readSubcommand (environment : Environment) (above : Given) (name : String)
    (tokens : List String) : Except Diversion Invocation := do
  match subcommandForms.lookup name with
  | none => throw .rejected
  | some form =>
      let given ← (← form.scan {} tokens).given.settle
      let here ← configIn environment given
      match subcommand? environment given name with
      | none => throw .rejected
      | some subcommand =>
          let above ← above.settle
          let outer ← configIn environment above
          let config := ((given.text? "config").or (above.text? "config")).or (here.or outer)
          return ⟨config, subcommand⟩

/-- What comes of asking for help on the names. -/
def helpOn : List String → Diversion
  | [] => .help
  | [name] => if subcommandNames.contains name then .help else .rejected
  | _ => .rejected

/-- Reads the tokens of a command line. -/
def read (environment : Environment) (tokens : List String) : Except Diversion Invocation := do
  let scan ← programForm.scan {} tokens
  match scan.next with
  | none => throw .rejected
  | some (name, rest) =>
      if name == helpName then throw (helpOn rest)
      else readSubcommand environment scan.given name rest

end CommandLine

end EnergyAudit
