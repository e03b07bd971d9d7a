import CoopCpu.Text.Hex
import CoopCpu.Text.Quoted
/-!
# SetupError — why a machine cannot be set up

Whatever goes wrong before the first instruction is fetched: a bad instruction table, an image or a memory that is too
large, a setting that is no number, a file that cannot be read.  `SetupError.message` puts each cause into words.
-/
namespace CoopCpu

/-- Why a file cannot be read or written. -/
inductive FileError
  /-- The system refused, with its description and number of the reason. -/
  | refused (description : String) (number : Nat)
  /-- The file was read, but its bytes are no text. -/
  | notText
  deriving DecidableEq, Repr

namespace FileError

def notFound : FileError := .refused "No such file or directory" 2
def notADirectory : FileError := .refused "Not a directory" 20
def isADirectory : FileError := .refused "Is a directory" 21

def message : FileError → String
  | .refused description number => description ++ " (os error " ++ toString number ++ ")"
  | .notText => "stream did not contain valid UTF-8"

end FileError

/-- What is wrong with the operand widths of a definition. -/
inductive WidthFlaw
  /-- The operands do not fit into an instruction. -/
  | tooWide (widths : List UInt8)
  /-- The operation takes other operands. -/
  | mismatch (widths expected : List UInt8)
  deriving DecidableEq, Repr

/-- The number of operand bytes an instruction has room for. -/
def maxOperandBytes : Nat := 3

/-- Numbers between square brackets. -/
def widthsText (widths : List UInt8) : String :=
  "[" ++ String.intercalate ", " (widths.map fun w => toString w.toNat) ++ "]"

def WidthFlaw.message : WidthFlaw → String
  | .tooWide widths =>
    "args must total no more than " ++ toString maxOperandBytes ++ " bytes (definition: " ++ widthsText widths ++ ")"
  | .mismatch widths expected =>
    "operand widths " ++ widthsText widths ++ " do not match expected " ++ widthsText expected

inductive SetupError
  | invalidDefinition (name : String) (flaw : WidthFlaw)
  | unknownMnemonic (name : String)
  | duplicateOpcode (code : UInt8)
  | duplicateMnemonic (name : String)
  | imageTooLarge (image capacity : Nat)
  | memoryTooLarge (size : Nat)
  | invalidSetting (key value : String)
  | file (error : FileError)
  /-- A file that should hold JSON of a certain shape holds something else; the report says what and where. -/
  | malformed (report : String)
  deriving DecidableEq, Repr

def SetupError.message : SetupError → String
  | .invalidDefinition name flaw => "Invalid instruction definition for " ++ name ++ ": " ++ flaw.message
  | .unknownMnemonic name => "Unknown instruction name " ++ name
  | .duplicateOpcode code => "Opcode " ++ Hex.byte code ++ " is defined more than once"
  | .duplicateMnemonic name => "Instruction " ++ name ++ " is defined more than once"
  | .imageTooLarge image capacity =>
    "Image is too big to fit into memory (" ++ toString image ++ " > " ++ toString capacity ++ " bytes)"
  | .memoryTooLarge size => "Memory of " ++ toString size ++ " bytes is not addressable with 16-bit addresses"
  | .invalidSetting key value => "Invalid value " ++ Text.quote value ++ " for " ++ key
  | .file error => error.message
  | .malformed report => report

end CoopCpu
