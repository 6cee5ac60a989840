import PicAssembly.Line
import PicAssembly.Number.Decimal

/-!
# The PIC10F202

The constants of the target device: its header, its registers and its pins.
-/

namespace PicAssembly.Device

/-- The directive that includes the device definitions. -/
def includeDirective : String := "#include \"p10f202.inc\""

/-- The configuration fuses. -/
def fuses : String := "_WDT_OFF & _CP_OFF & _MCLRE_OFF"

/-- The built-in subroutine that waits for one delay unit. -/
def delaySubroutine : String := "four_microsecond_delay"

/-- The delay unit in seconds. -/
def delayUnit : Binary64 := .ofQuotient false 4 1000000

/-- The address of the first general register. -/
def registerBase : Nat := 8

/-- The value of the OPTION register: pull-ups off, internal clock, prescaler to the watchdog. -/
def optionValue : Nat := 0b10011000

/-- The pin directions at reset, where a set bit is an input. -/
def inputMask : Nat := 0b1111

/-- The word for an output direction. -/
def outputWord : String := "out"

/-- The word for a high level. -/
def highWord : String := "hi"

/-- The pins of the port. -/
inductive Pin where
  | gp0
  | gp1
  | gp2
  | gp3
deriving DecidableEq, Repr

namespace Pin

/-- All pins in the order of their bits. -/
def all : List Pin := [gp0, gp1, gp2, gp3]

/-- The bit of a pin in the port registers. -/
def bit : Pin → Nat
  | gp0 => 0
  | gp1 => 1
  | gp2 => 2
  | gp3 => 3

/-- The name of a pin. -/
def name : Pin → String
  | gp0 => "gp0"
  | gp1 => "gp1"
  | gp2 => "gp2"
  | gp3 => "gp3"

/-- Whether a pin can be driven; the last one is an input only. -/
def isDriven (pin : Pin) : Bool :=
  pin != gp3

/-- The pin with a given name. -/
def ofKey? : Value → Option Pin
  | .str key => all.find? fun pin => pin.name == key
  | _ => none

/-- The pin with a given name, if it can be driven. -/
def drivenOfKey? (key : Value) : Option Pin :=
  (ofKey? key).filter isDriven

end Pin

/-- The lines at the start of every program: configuration and reset vector. -/
def preamble : List Line :=
  [ .directive includeDirective, .directive ("__config " ++ fuses), .blank,
    .directive "org\t0x00", .instruction .goto ["$+2"], .blank ]

/-- The header of every program: the first lines and the delay subroutine. -/
def header : List Line :=
  preamble ++
    [ .heading (label delaySubroutine), .instruction .retlw [Literal.hexadecimal 0], .blank,
      .blank, .blank ]

/-- Pin names with their bits, as a dictionary. -/
def pinBits (pins : List Pin) : Value :=
  .dict (pins.map fun pin => (.str pin.name, .int pin.bit))

/-- The named constants of the device. -/
def constants : List (String × Value) :=
  [ ("_DEVICE_INCLUDE", .str includeDirective), ("_CONFIG_FUSES", .str fuses),
    ("_DELAY_SUBROUTINE", .str delaySubroutine), ("_DELAY_SECONDS", .float delayUnit),
    ("_CBLOCK_BASE", .int registerBase), ("_OPTION_VALUE", .int optionValue),
    ("_TRIS_BITS", pinBits Pin.all), ("_GPIO_BITS", pinBits (Pin.all.filter Pin.isDriven)),
    ("_TRIS_DEFAULT", .int inputMask), ("_OUT", .str outputWord), ("_HIGH", .str highWord) ]

end PicAssembly.Device
