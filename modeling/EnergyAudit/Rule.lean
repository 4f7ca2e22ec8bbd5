import EnergyAudit.Finding
import EnergyAudit.Rule.SmallModel
import EnergyAudit.Rule.GenerationLoop
import EnergyAudit.Rule.Placement

/-! # Rules

Six rules look for ways of loading and running a language model that are known to waste energy.  A
rule sees the text of one file and reports at most one finding, apart from the rule on 4-bit
arguments, which reports one for each argument. -/

namespace EnergyAudit

/-- A rule of the audit. -/
inductive Rule where
  | defaultInt8
  | smallModelNf4
  | sequentialGenerate
  | precisionConflict
  | missingDeviceMap
  | redundantFourBit
deriving DecidableEq, Repr

namespace Rule

def all : List Rule :=
  [.defaultInt8, .smallModelNf4, .sequentialGenerate, .precisionConflict, .missingDeviceMap,
    .redundantFourBit]

def id : Rule → String
  | .defaultInt8 => "default-int8"
  | .smallModelNf4 => "small-model-nf4"
  | .sequentialGenerate => "sequential-generate"
  | .precisionConflict => "precision-conflict"
  | .missingDeviceMap => "missing-device-map"
  | .redundantFourBit => "redundant-4bit-param"

def ofId? (identifier : String) : Option Rule :=
  all.find? (·.id == identifier)

def severity : Rule → Severity
  | .defaultInt8 => .critical
  | .smallModelNf4 => .warning
  | .sequentialGenerate => .warning
  | .precisionConflict => .critical
  | .missingDeviceMap => .info
  | .redundantFourBit => .info

/-- What a rule has to say about a file, apart from the place. -/
structure Advice where
  title : String
  description : String
  remediation : String
  energyImpact : String

/-- On 8-bit loading with the default outlier threshold. -/
def defaultInt8Advice : Advice where
  title := "Default INT8 (bitsandbytes mixed-precision decomposition)"
  description :=
    "`load_in_8bit=True` without `llm_int8_threshold=0.0` causes 17–147% energy waste due to "
      ++ "INT8↔FP16 type conversion at every linear layer. Measured on RTX 4090D (+32.7%) and A800 "
      ++ "(+122–147%)."
  remediation :=
    "Add `llm_int8_threshold=0.0` to your BitsAndBytesConfig:\n"
      ++ "```python\n"
      ++ "config = BitsAndBytesConfig(\n"
      ++ "    load_in_8bit=True,\n"
      ++ "    llm_int8_threshold=0.0,  # Disables mixed-precision decomposition\n"
      ++ ")\n"
      ++ "```"
  energyImpact := "+17–147% energy vs FP16"

def smallModelAdvice (model : String) : Advice where
  title := "NF4 quantization on small model (" ++ model ++ ")"
  description :=
    "NF4 (4-bit) quantization on models ≤3B wastes 11–29% energy vs FP16. De-quantization compute "
      ++ "overhead dominates memory savings when the model fits comfortably in VRAM. Measured: "
      ++ "Qwen2-1.5B +29.4%, Phi-3-mini +11.7% on RTX 5090."
  remediation :=
    "Use FP16 instead for " ++ model ++ ":\n"
      ++ "```python\n"
      ++ "model = AutoModelForCausalLM.from_pretrained(\n"
      ++ "    model_name,\n"
      ++ "    torch_dtype=torch.float16,\n"
      ++ "    device_map=\"auto\",\n"
      ++ ")\n"
      ++ "```"
  energyImpact := "+11–29% energy vs FP16"

/-- On generating one answer at a time. -/
def sequentialGenerateAdvice : Advice where
  title := "Sequential single-request processing (BS=1)"
  description :=
    "Processing prompts in a loop wastes up to 95.7% energy vs batched inference. Measured on "
      ++ "A800: BS=1 → 1,768 J/request, BS=64 → 76 J/request. GPU utilization at BS=1 is only 45%."
  remediation :=
    "Batch your inputs or use a serving framework:\n"
      ++ "```python\n"
      ++ "# Option 1: Batch with tokenizer\n"
      ++ "inputs = tokenizer(prompts, padding=True, return_tensors='pt').to('cuda')\n"
      ++ "outputs = model.generate(**inputs)\n"
      ++ "\n"
      ++ "# Option 2: Use vLLM for production\n"
      ++ "from vllm import LLM\n"
      ++ "llm = LLM(model=model_name)\n"
      ++ "outputs = llm.generate(prompts)\n"
      ++ "```"
  energyImpact := "Up to 95.7% energy waste vs batched"

/-- On 8-bit and 4-bit loading in one file. -/
def precisionConflictAdvice : Advice where
  title := "Mixed precision conflict: both INT8 and NF4 enabled"
  description :=
    "Both `load_in_8bit=True` and `load_in_4bit=True` are present in the same file. bitsandbytes "
      ++ "may silently pick one, leading to unexpected energy consumption and potential errors."
  remediation :=
    "Choose one quantization method. For models ≥6B on consumer GPUs, use NF4. For datacenter GPUs "
      ++ "with ample VRAM, use FP16.\n"
      ++ "Remove the conflicting flag."
  energyImpact := "Unpredictable"

/-- On loading a model without placing it. -/
def missingDeviceMapAdvice : Advice where
  title := "Missing device_map in from_pretrained()"
  description :=
    "Without `device_map`, the model may load on CPU or a suboptimal device, causing significant "
      ++ "performance degradation."
  remediation :=
    "Add `device_map=\"auto\"` or `device_map=\"cuda\"`:\n"
      ++ "```python\n"
      ++ "model = AutoModelForCausalLM.from_pretrained(\n"
      ++ "    model_name,\n"
      ++ "    device_map=\"auto\",\n"
      ++ ")\n"
      ++ "```"
  energyImpact := "Potential: significant if model runs on CPU"

/-- On an argument of 4-bit loading that has no effect. -/
def redundantFourBitAdvice (parameter : String) : Advice where
  title := "Redundant parameter: " ++ parameter ++ " without load_in_4bit"
  description :=
    "`" ++ parameter ++ "` is set but `load_in_4bit` is not enabled. This parameter has no effect."
  remediation := "Remove `" ++ parameter ++ "` or enable `load_in_4bit=True`."
  energyImpact := "None (code quality)"

def report (rule : Rule) (file : String) (line : Option Nat) (advice : Advice) : Finding where
  ruleId := rule.id
  severity := rule.severity
  title := advice.title
  description := advice.description
  remediation := advice.remediation
  location := ⟨file, line.map UInt64.ofNat⟩
  energyImpact := advice.energyImpact

/-- The finding of a rule at a line, or none without a line. -/
def reportAt (rule : Rule) (file : String) (line : Option Nat) (advice : Advice) : List Finding :=
  match line with
  | some line => [rule.report file (some line) advice]
  | none => []

/-- What the rule reports about a file. -/
def check (rule : Rule) (source : List Char) (file : String) : List Finding :=
  match rule with
  | .defaultInt8 => rule.reportAt file (defaultInt8Line? source) defaultInt8Advice
  | .smallModelNf4 =>
      match smallModelLoad? source with
      | some (model, line) => rule.reportAt file (some line) (smallModelAdvice model)
      | none => []
  | .sequentialGenerate => rule.reportAt file (generationLoop? source) sequentialGenerateAdvice
  | .precisionConflict => rule.reportAt file (precisionConflictLine? source) precisionConflictAdvice
  | .missingDeviceMap => rule.reportAt file (unplacedLoad? source) missingDeviceMapAdvice
  | .redundantFourBit =>
      (redundantParameters source).map fun parameter =>
        rule.report file none (redundantFourBitAdvice parameter)

end Rule

end EnergyAudit
