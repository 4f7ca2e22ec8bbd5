import EnergyAudit.Decimal.Reading
import EnergyAudit.Hardware.Profile
import EnergyAudit.Text.Blank
import EnergyAudit.Text.DecimalDigit
import EnergyAudit.Text.Lines

/-! # Output of the graphics tools

The tools print one line of comma-separated fields for each device, a version somewhere in a banner,
or the power draw in watts.  What does not have that form counts as no answer. -/

namespace EnergyAudit.Probe

/-- A measured amount: a finite number that is not negative. -/
def amount? (field : List Char) : Option Float :=
  (Decimal.read? field).filter fun x => x.isFinite && !(x < 0.0)

/-- The lines that hold something, without the blanks around them. -/
def filledLines (output : List Char) : List (List Char) :=
  ((Text.lines output).map Text.trim).filter (!·.isEmpty)

/-- The fields of a line, without the blanks around them. -/
def fields (line : List Char) : List (List Char) :=
  (Text.splitOn ',' line).map Text.trim

/-- Name, driver and memory of the first device, and how many devices there are. -/
def gpuQuery? (output : List Char) : Option GpuQuery :=
  match filledLines output with
  | [] => none
  | first :: others =>
      match fields first with
      | name :: driver :: memory :: _ =>
          (amount? memory).map fun vram =>
            { name := String.ofList name
              driverVersion := String.ofList driver
              vramTotalMb := vram.toUInt64
              count := UInt32.ofNat (others.length + 1) }
      | _ => none

/-- Whether `c` may stand in a version. -/
def isVersionChar (c : Char) : Bool := Text.isDecimalDigit c || c == '.'

/-- The words in front of a version, and whether blanks have to part them from it. -/
structure VersionMark where
  words : String
  parted : Bool

/-- The version right behind the mark that the text starts with. -/
def VersionMark.here? (mark : VersionMark) (s : List Char) : Option (List Char) :=
  if mark.words.toList.isPrefixOf s then
    let behind := s.drop mark.words.length
    let version := (Text.trimStart behind).takeWhile isVersionChar
    if version.isEmpty || (mark.parted && !behind.head?.any Text.isBlank) then none
    else some version
  else none

def VersionMark.find? (mark : VersionMark) : List Char → Option (List Char)
  | [] => none
  | c :: s => (mark.here? (c :: s)).or (mark.find? s)

/-- Mark of the toolkit version in the banner of the driver's tool. -/
def bannerMark : VersionMark := ⟨"CUDA Version:", false⟩

/-- Mark of the toolkit version in what the compiler says of itself. -/
def releaseMark : VersionMark := ⟨"release", true⟩

/-- The toolkit version in the banner of the driver's tool. -/
def bannerVersion? (output : List Char) : Option String :=
  (bannerMark.find? output).map String.ofList

/-- The toolkit version in what the compiler says of itself. -/
def releaseVersion? (output : List Char) : Option String :=
  (releaseMark.find? output).map String.ofList

def powerDraw? (output : List Char) : Option Float :=
  match Text.lines output with
  | [] => none
  | first :: _ => amount? (Text.trim first)

end EnergyAudit.Probe
