import EnergyAudit.Rule.Source

/-! # Quantization flags

Arguments that switch 8-bit and 4-bit loading on, set the outlier threshold of 8-bit loading to
zero, or configure 4-bit loading. -/

namespace EnergyAudit.Rule

/-- An argument given the value true: the name, an equals sign and the word, with blanks between
them and no word character behind. -/
def enabled (argument : String) : Pattern :=
  .sequence [.word argument, .blanks, .exactly "=", .blanks, .word "true", .notBefore Text.isWord]

/-- 8-bit loading switched on. -/
def eightBitFlag : Pattern := enabled "load_in_8bit"

/-- 4-bit loading switched on. -/
def fourBitFlag : Pattern := enabled "load_in_4bit"

/-- The outlier threshold set to zero, in any count of decimal places. -/
def zeroThreshold : Pattern :=
  .sequence [.word "llm_int8_threshold", .blanks, .exactly "=", .blanks, .exactly "0",
    .maybe (.seq (.exactly ".") (.many (· == '0'))),
    .notBefore fun c => Text.isDecimalDigit c || c == '.']

/-- The number type of 4-bit arithmetic. -/
def computeDtype : Pattern := .word "bnb_4bit_compute_dtype"

/-- The kind of 4-bit quantization. -/
def quantType : Pattern := .word "bnb_4bit_quant_type"

/-- First line whose code switches 8-bit loading on. -/
def eightBitLine? (source : List Char) : Option Nat :=
  firstLine? eightBitFlag.occursIn (codeLines source)

/-- First line whose code switches 4-bit loading on. -/
def fourBitLine? (source : List Char) : Option Nat :=
  firstLine? fourBitFlag.occursIn (codeLines source)

/-- Line of 8-bit loading with the outlier threshold left at its default. -/
def defaultInt8Line? (source : List Char) : Option Nat :=
  if (codeLines source).any zeroThreshold.occursIn then none else eightBitLine? source

/-- Line of 8-bit loading in a source that has 4-bit loading as well. -/
def precisionConflictLine? (source : List Char) : Option Nat :=
  if (codeLines source).any fourBitFlag.occursIn then eightBitLine? source else none

/-- Arguments of 4-bit loading in a source that nowhere, not even in a comment, switches it on. -/
def redundantParameters (source : List Char) : List String :=
  if fourBitFlag.occursIn source then []
  else
    [(computeDtype, "bnb_4bit_compute_dtype"), (quantType, "bnb_4bit_quant_type")].filterMap
      fun (pattern, name) => if pattern.occursIn source then some name else none

end EnergyAudit.Rule
